/-!
# Fibers: cooperative threads of control

A fiber is a tree of requests to a scheduler. Each request says what to do next and
carries the rest of the fiber:

* `exec` runs one atomic step on the shared state `σ` and continues with what it returns;
* `wait` suspends until a condition of kind `κ`, a deadline, another task or one turn of
  the scheduler comes;
* `spawn` starts a task and `stash` keeps a future that has not been polled yet, which a
  later request starts (`launch`) or drops (`discard`);
* `timed` runs a body under a deadline: if the body is still suspended when the deadline
  passes, it is dropped, what it held is released, and the fiber goes on with `expired`.
  `untimed` marks the end of the body.

Code is written in `Async`, the continuation monad over fibers, so that a `do` block
builds the tree of its requests.
-/

namespace TxnCoord

/-- What a suspended fiber waits for. -/
inductive Await (κ : Type) where
  /-- A condition on the shared state, which says when it may have changed. -/
  | until (c : κ)
  /-- The clock to reach a deadline, in milliseconds. -/
  | sleep (deadline : Nat)
  /-- Another task to finish. -/
  | join (task : Nat)
  /-- One turn: everything runnable goes first. -/
  | yield

/-- A cooperative thread of control over a shared state `σ`, waiting on conditions `κ`. -/
inductive Fiber (σ κ : Type) where
  | done
  | exec (step : σ → σ × Fiber σ κ)
  | wait (w : Await κ) (next : Fiber σ κ)
  | spawn (child : Fiber σ κ) (next : Nat → Fiber σ κ)
  | stash (id owner : Nat) (future : Fiber σ κ) (next : Fiber σ κ)
  | launch (id : Nat) (next : Option Nat → Fiber σ κ)
  | discard (id : Nat) (next : Fiber σ κ)
  | timed (ms : Nat) (body : Fiber σ κ) (expired : Fiber σ κ)
  | untimed (next : Fiber σ κ)

instance {σ κ : Type} : Inhabited (Fiber σ κ) := ⟨.done⟩

/-- Code that runs on fibers and returns an `α`: it builds a fiber from what follows it. -/
def Async (σ κ α : Type) : Type := (α → Fiber σ κ) → Fiber σ κ

namespace Async

variable {σ κ : Type}

instance : Monad (Async σ κ) where
  pure a := fun k => k a
  bind x f := fun k => x (fun a => f a k)

instance : MonadStateOf σ (Async σ κ) where
  get := fun k => .exec fun s => (s, k s)
  set s := fun k => .exec fun _ => (s, k ())
  modifyGet f := fun k => .exec fun s => let (a, s') := f s; (s', k a)

/-- Suspends until the awaited thing comes. -/
def await (w : Await κ) : Async σ κ Unit := fun k => .wait w (k ())

/-- Starts a task running `child`; returns its number. -/
def spawn (child : Fiber σ κ) : Async σ κ Nat := fun k => .spawn child k

/-- Runs `x` under a deadline `ms` from now; none if it was dropped at the deadline. -/
def timeout {α : Type} (ms : Nat) (x : Async σ κ α) : Async σ κ (Option α) :=
  fun k => .timed ms (x fun a => .untimed (k (some a))) (k none)

/-- The fiber of code run for its effect alone. -/
def toFiber (x : Async σ κ Unit) : Fiber σ κ := x fun _ => .done

/-- Keeps a future unpolled under a number and an owner of what it holds. -/
def stash (id owner : Nat) (future : Fiber σ κ) : Async σ κ Unit :=
  fun k => .stash id owner future (k ())

/-- Starts a kept future as a task; none if no future is kept under the number. -/
def launch (id : Nat) : Async σ κ (Option Nat) := fun k => .launch id k

/-- Drops a kept future, releasing what it holds. -/
def discard (id : Nat) : Async σ κ Unit := fun k => .discard id (k ())

/-- Runs `f` on every item in order. -/
def forEach {α : Type} (xs : List α) (f : α → Async σ κ Unit) : Async σ κ Unit :=
  match xs with
  | [] => pure ()
  | x :: rest => do f x; forEach rest f

end Async

end TxnCoord
