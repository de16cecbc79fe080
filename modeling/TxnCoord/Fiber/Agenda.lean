import TxnCoord.Fiber.Basic
/-!
# The agenda: running fibers on one thread with a virtual clock

The agenda runs a main fiber and the tasks it spawns, one at a time, each until it
suspends. Its policy is fixed, so a run is a function of its start:

* Runnable tasks wait in one first-in first-out queue; a task is in it at most once. The
  main fiber is not queued: a flag says that it was woken, and it runs first in each round.
* A round runs the main fiber if it was woken, then up to 61 queued tasks. When the queue
  runs dry, or after 61 tasks, the agenda parks.
* Parking fires the timers that are due, in order of deadline and then of registration,
  and then wakes the fibers that yielded. Only when nothing is runnable, the main fiber was
  not woken and no fiber yielded does the clock jump to the next deadline.
* A fiber waiting on a condition of the state is registered with the state, which later
  names the fibers to wake; a woken fiber checks its condition again.
* A `timed` body that is still suspended when its deadline has passed is dropped when its
  fiber next runs: its registrations are forgotten, what its owner holds is released, and
  the fiber goes on with its `expired` branch.

The state learns which task runs and under which owner through `Host.enter`, and hands out
owner numbers through `Host.fresh`.
-/

namespace TxnCoord

/-- What the agenda needs of the shared state. -/
structure Host (σ κ : Type) where
  /-- Whether a condition holds. -/
  holds : κ → σ → Bool
  /-- Registers a task as waiting for a condition. -/
  listen : κ → Nat → σ → σ
  /-- Removes every registration of a task. -/
  forget : Nat → σ → σ
  /-- Releases what an owner holds. -/
  release : Nat → σ → σ
  /-- Takes the tasks to wake. -/
  takeWakes : σ → List Nat × σ
  /-- Hands out an unused owner number. -/
  fresh : σ → Nat × σ
  /-- Says which task runs, under which owner, at which time. -/
  enter : Nat → Nat → Nat → σ → σ
  /-- Says that a task spawned another. -/
  spawned : Nat → Nat → σ → σ

namespace Agenda

/-- A deadline over the body of a `timed` request. -/
structure Frame (σ κ : Type) where
  deadline : Nat
  expired : Fiber σ κ
  owner : Nat
  armed : Bool := false

/-- A task: the rest of its fiber and its bookkeeping. -/
structure Task (σ κ : Type) where
  fiber : Fiber σ κ
  owner : Nat
  frames : List (Frame σ κ) := []
  finished : Bool := false
  joiner : Option Nat := none
  yielded : Bool := false
  queued : Bool := false
  sleeping : Bool := false

/-- A timer: at `deadline` it wakes `task`; `frame` names a frame's owner, none a sleep. -/
structure Timer where
  deadline : Nat
  seq : Nat
  task : Nat
  frame : Option Nat

end Agenda

/-- Tasks, their queue, timers and the clock, over a shared state. Task 0 is the main fiber. -/
structure Agenda (σ κ : Type) where
  state : σ
  now : Nat := 0
  tasks : Array (Agenda.Task σ κ)
  queue : List Nat := []
  mainWoken : Bool := true
  deferred : List Nat := []
  timers : List Agenda.Timer := []
  timerSeq : Nat := 0
  kept : List (Nat × Nat × Fiber σ κ) := []
  /-- Set when the run could not go on: out of fuel, or nothing left that could ever run. -/
  stalled : Bool := false

namespace Agenda

variable {σ κ : Type} (h : Host σ κ)

/-- A task by number. -/
def task? (a : Agenda σ κ) (t : Nat) : Option (Task σ κ) := a.tasks[t]?

/-- A flag of a task, false for a task that does not exist. -/
def flag (a : Agenda σ κ) (t : Nat) (f : Task σ κ → Bool) : Bool :=
  match a.task? t with
  | some task => f task
  | none => false

/-- The innermost deadline of a task. -/
def innerFrame (a : Agenda σ κ) (t : Nat) : Option (Frame σ κ) :=
  match a.task? t with
  | some task => task.frames.head?
  | none => none

/-- Changes one task. -/
def modifyTask (a : Agenda σ κ) (t : Nat) (f : Task σ κ → Task σ κ) : Agenda σ κ :=
  { a with tasks := a.tasks.modify t f }

/-- Makes a task runnable. -/
def wake (a : Agenda σ κ) (t : Nat) : Agenda σ κ :=
  if t = 0 then { a with mainWoken := true }
  else match a.tasks[t]? with
    | some task =>
      if task.finished ∨ task.queued then a
      else { a.modifyTask t (fun x => { x with queued := true }) with queue := a.queue ++ [t] }
    | none => a

/-- Wakes the tasks that the state names. -/
def drain (a : Agenda σ κ) : Agenda σ κ :=
  let (ws, s) := h.takeWakes a.state
  ws.foldl wake { a with state := s }

/-- Puts a timer in its place: by deadline, then by registration. -/
def insertTimer (tm : Timer) : List Timer → List Timer
  | [] => [tm]
  | x :: rest => if tm.deadline < x.deadline then tm :: x :: rest else x :: insertTimer tm rest

/-- Registers a timer. -/
def addTimer (a : Agenda σ κ) (deadline t : Nat) (frame : Option Nat) : Agenda σ κ :=
  { a with timers := insertTimer ⟨deadline, a.timerSeq, t, frame⟩ a.timers
           timerSeq := a.timerSeq + 1 }

/-- Removes the timers of a task's sleep or of one of its frames. -/
def cancelTimers (a : Agenda σ κ) (t : Nat) (frame : Option Nat) : Agenda σ κ :=
  { a with timers := a.timers.filter fun tm => !(tm.task == t && tm.frame == frame) }

/-- The owner of what a task acquires now: its innermost frame's, else its own. -/
def Task.currentOwner (task : Task σ κ) : Nat :=
  match task.frames with
  | f :: _ => f.owner
  | [] => task.owner

/-- Tells the state that a task runs. -/
def enterTask (a : Agenda σ κ) (t : Nat) : Agenda σ κ :=
  match a.tasks[t]? with
  | some task => { a with state := h.enter t task.currentOwner a.now a.state }
  | none => a

/-- Whether what a task waits for has come. -/
def ready (a : Agenda σ κ) (t : Nat) : Await κ → Bool
  | .until c => h.holds c a.state
  | .sleep d => d ≤ a.now
  | .join j => a.flag j (·.finished)
  | .yield => a.flag t (·.yielded)

/-- Clears the bookkeeping of a wait that has come. -/
def consume (a : Agenda σ κ) (t : Nat) : Await κ → Agenda σ κ
  | .sleep _ => (a.cancelTimers t none).modifyTask t fun x => { x with sleeping := false }
  | .yield => a.modifyTask t fun x => { x with yielded := false }
  | _ => a

/-- Puts a task on the list of those that yielded, once in a row. -/
def defer (a : Agenda σ κ) (t : Nat) : Agenda σ κ :=
  if a.deferred.getLast? = some t then a else { a with deferred := a.deferred ++ [t] }

/-- Registers what a task waits for, and arms its innermost deadline. -/
def register (a : Agenda σ κ) (t : Nat) (w : Await κ) : Agenda σ κ :=
  let a := match w with
    | .until c => { a with state := h.listen c t a.state }
    | .sleep d =>
      if a.flag t (·.sleeping) then a
      else (a.addTimer d t none).modifyTask t fun x => { x with sleeping := true }
    | .join j => a.modifyTask j fun x => { x with joiner := some t }
    | .yield => (a.modifyTask t fun x => { x with yielded := true }).defer t
  match a.innerFrame t with
  | some f =>
    if f.armed then a
    else (a.addTimer f.deadline t (some f.owner)).modifyTask t fun x =>
      { x with frames := { f with armed := true } :: x.frames.drop 1 }
  | none => a

/-- Whether a task's innermost deadline has passed. -/
def frameExpired (a : Agenda σ κ) (t : Nat) : Bool :=
  match a.innerFrame t with
  | some f => f.deadline ≤ a.now
  | none => false

/-- Drops the wait of a task whose innermost deadline passed; returns its `expired` branch. -/
def expire (a : Agenda σ κ) (t : Nat) (w : Await κ) : Agenda σ κ × Fiber σ κ :=
  let a := { a with state := h.forget t a.state, deferred := a.deferred.filter (· != t) }
  let a := (a.cancelTimers t none).modifyTask t fun x => { x with sleeping := false, yielded := false }
  let a := match w with
    | .join j => a.modifyTask j fun x => { x with joiner := none }
    | _ => a
  match a.innerFrame t with
  | some f =>
    let a := (a.cancelTimers t (some f.owner)).modifyTask t fun x => { x with frames := x.frames.drop 1 }
    let a := drain h { a with state := h.release f.owner a.state }
    (enterTask h a t, f.expired)
  | none => (a, .done)

/-- Marks a task finished and wakes the task joined on it. -/
def finish (a : Agenda σ κ) (t : Nat) : Agenda σ κ :=
  let a := a.modifyTask t fun x => { x with finished := true, fiber := .done }
  match a.task? t with
  | some task =>
    match task.joiner with
    | some j => a.wake j
    | none => a
  | none => a

/-- Starts a task under an owner; returns its number. -/
def start (a : Agenda σ κ) (parent owner : Nat) (child : Fiber σ κ) : Agenda σ κ × Nat :=
  let id := a.tasks.size
  let a := { a with state := h.spawned parent id a.state, tasks := a.tasks.push ⟨child, owner, [], false, none, false, false, false⟩ }
  (a.wake id, id)

/-- Runs task `t` from `f` until it suspends or finishes. -/
def run : Nat → Agenda σ κ → Nat → Fiber σ κ → Agenda σ κ
  | 0, a, _, _ => { a with stalled := true }
  | fuel + 1, a, t, f =>
    match f with
    | .done => a.finish t
    | .exec step =>
      let (s, k) := step a.state
      run fuel (drain h { a with state := s }) t k
    | .wait w k =>
      if ready h a t w then run fuel (a.consume t w) t k
      else if a.frameExpired t then
        let (a, e) := expire h a t w
        run fuel a t e
      else (register h a t w).modifyTask t fun x => { x with fiber := .wait w k }
    | .spawn child k =>
      let (o, s) := h.fresh a.state
      let (a, id) := start h { a with state := s } t o child
      run fuel (enterTask h a t) t (k id)
    | .stash id o future k => run fuel { a with kept := a.kept ++ [(id, o, future)] } t k
    | .launch id k =>
      match a.kept.find? (·.1 == id) with
      | some (_, o, future) =>
        let a := { a with kept := a.kept.filter (·.1 != id) }
        let (a, tid) := start h a t o future
        run fuel (enterTask h a t) t (k (some tid))
      | none => run fuel a t (k none)
    | .discard id k =>
      match a.kept.find? (·.1 == id) with
      | some (_, o, _) =>
        let a := { a with kept := a.kept.filter (·.1 != id) }
        run fuel (drain h { a with state := h.release o a.state }) t k
      | none => run fuel a t k
    | .timed ms body expired =>
      let (o, s) := h.fresh a.state
      let a := { a with state := s }.modifyTask t fun x =>
        { x with frames := { deadline := a.now + ms, expired, owner := o } :: x.frames }
      run fuel (enterTask h a t) t body
    | .untimed k =>
      match a.innerFrame t with
      | some fr =>
        let a := (a.cancelTimers t (some fr.owner)).modifyTask t fun x => { x with frames := x.frames.drop 1 }
        run fuel (enterTask h a t) t k
      | none => run fuel a t k

/-- Runs a task from where it stopped. -/
def resume (fuel : Nat) (a : Agenda σ κ) (t : Nat) : Agenda σ κ :=
  match a.tasks[t]? with
  | some task => if task.finished then a else run h fuel (enterTask h a t) t task.fiber
  | none => a

/-- Fires the timers that are due. -/
def fireDue (a : Agenda σ κ) : Agenda σ κ :=
  let due := a.timers.takeWhile (·.deadline ≤ a.now)
  due.foldl (fun a tm => a.wake tm.task) { a with timers := a.timers.drop due.length }

/-- Wakes the fibers that yielded. -/
def wakeDeferred (a : Agenda σ κ) : Agenda σ κ :=
  a.deferred.foldl wake { a with deferred := [] }

/-- Parks without letting time pass. -/
def parkYield (a : Agenda σ κ) : Agenda σ κ := a.fireDue.wakeDeferred

/-- Parks when the queue is empty: time jumps to the next deadline if nothing else can run. -/
def park (a : Agenda σ κ) : Agenda σ κ :=
  if !a.deferred.isEmpty then a.parkYield
  else
    let a := match a.timers with
      | tm :: _ => if a.now < tm.deadline ∧ !a.mainWoken then { a with now := tm.deadline } else a
      | [] => if a.mainWoken then a else { a with stalled := true }
    a.fireDue.wakeDeferred

/-- Runs up to `n` queued tasks, parking when the queue runs dry. -/
def pollQueue (fuel : Nat) : Nat → Agenda σ κ → Agenda σ κ
  | 0, a => a.parkYield
  | n + 1, a =>
    match a.queue with
    | [] => a.park
    | t :: rest =>
      let a := { a with queue := rest }.modifyTask t fun x => { x with queued := false }
      pollQueue fuel n (resume h fuel a t)

/-- Whether the main fiber has finished. -/
def mainDone (a : Agenda σ κ) : Bool :=
  match a.task? 0 with
  | some task => task.finished
  | none => true

/-- Runs rounds until the main fiber finishes or the run stalls. -/
def loop : Nat → Agenda σ κ → Agenda σ κ
  | 0, a => { a with stalled := true }
  | fuel + 1, a =>
    if a.mainDone ∨ a.stalled then a
    else
      let a := if a.mainWoken then resume h fuel { a with mainWoken := false } 0 else a
      if a.mainDone ∨ a.stalled then a
      else loop fuel (pollQueue h fuel 61 a)

/-- Runs a main fiber on a state to its end, with `fuel` bounding every loop. -/
def runMain (fuel : Nat) (state : σ) (main : Fiber σ κ) : Agenda σ κ :=
  let (o, s) := h.fresh state
  let a : Agenda σ κ := { state := s, tasks := #[⟨main, o, [], false, none, false, false, false⟩] }
  loop h fuel a

end Agenda

end TxnCoord
