import TxnCoord.World.State
import TxnCoord.Fiber.Agenda
/-!
# Holding and giving back

The resources that running code holds, and the scheduler's view of the world.

* A ticket's turn comes when its sequencer serves it. Finishing a ticket, whether it ran
  or was dropped, wakes every task waiting on that sequencer; each checks its turn again.
* A lock is taken at once when it is free and nobody waits, and otherwise handed over in
  the order of arrival: the waiter becomes the holder before it runs again.
* Dropping a suspended fiber gives back what its owner holds, latest first: a pending
  count is lowered, a ticket finished, a lock handed on, a unit reference let go.

Code of the coordinator runs in `Step`, fibers over the world, and fails in `Tx`.
-/

namespace TxnCoord

/-- What a fiber of the coordinator waits for in the world. -/
inductive Cond where
  /-- The turn of a ticket of a handle. -/
  | turn (handle ticket : Nat)
  /-- A lock handed to an owner. -/
  | granted (lock owner : Nat)

/-- Code of the coordinator: fibers over the world. -/
abbrev Step := Async World Cond

/-- Code of the coordinator that may fail. -/
abbrev Tx := ExceptT TxError Step

namespace World

/-- Lists a resource under the current owner. -/
def hold (w : World) (x : Hold) : World := { w with holds := w.holds ++ [(w.owner, x)] }

/-- Removes a resource from the list: the current owner's entry first, else any. -/
def unhold (w : World) (x : Hold) : World :=
  match w.holds.findIdx? (fun e => e.1 == w.owner && e.2 == x) with
  | some i => { w with holds := w.holds.eraseIdx i }
  | none =>
    match w.holds.findIdx? (fun e => e.2 == x) with
    | some i => { w with holds := w.holds.eraseIdx i }
    | none => w

/-- Finishes a ticket and wakes the tasks waiting on its sequencer. -/
def releaseTicket (w : World) (h n : Nat) : World :=
  let waiting := (w.handle h).watchers
  { (w.modifyHandle h fun hd => { hd with tickets := hd.tickets.release n, watchers := [] }) with
    wakes := w.wakes ++ waiting }

/-- Hands a lock to its first waiter, or frees it. -/
def unlock (w : World) (m : Nat) : World :=
  match (w.lock m).queue with
  | (t, o) :: rest =>
    { (w.modifyLock m fun _ => { holder := some o, queue := rest }) with
      wakes := w.wakes ++ [t], holds := w.holds ++ [(o, .lock m)] }
  | [] => w.modifyLock m fun l => { l with holder := none }

/-- Lowers the count of running code holding a unit. -/
def letGoUnit (w : World) : UnitRef → World
  | .local i => w.modifyUnit i fun u => { u with inFlight := u.inFlight - 1 }
  | .manual i => w.modifyManualUnit i fun u => { u with inFlight := u.inFlight - 1 }

/-- The effect of giving a resource back. -/
def give (w : World) : Hold → World
  | .pending h => w.modifyHandle h fun hd => { hd with pending := hd.pending - 1 }
  | .ticket h n => w.releaseTicket h n
  | .lock m => w.unlock m
  | .unitRef u => w.letGoUnit u

/-- Gives back everything an owner holds, latest first. -/
def releaseOwner (w : World) (o : Nat) : World :=
  let mine := (w.holds.filter (·.1 == o)).reverse
  mine.foldl (fun w e => w.give e.2) { w with holds := w.holds.filter (·.1 != o) }

/-- The override map of a task's innermost scope, if it is inside one. -/
def overrideMap (w : World) (t : Nat) : Option (List (Nat × Nat)) :=
  ((w.overrides.find? (·.1 == t)).map (·.2)).bind List.head?

/-- Replaces a task's stack of override maps. -/
def setOverrides (w : World) (t : Nat) (stack : List (List (Nat × Nat))) : World :=
  { w with overrides := (t, stack) :: w.overrides.filter (·.1 != t) }

/-- The scheduler's view of the world. -/
def host : Host World Cond where
  holds c w := match c with
    | .turn h n => (w.handle h).tickets.isTurn n
    | .granted m o => (w.lock m).holder == some o
  listen c t w := match c with
    | .turn h _ => w.modifyHandle h fun hd =>
        if hd.watchers.contains t then hd else { hd with watchers := hd.watchers ++ [t] }
    | .granted m o => w.modifyLock m fun l =>
        if l.queue.contains (t, o) then l else { l with queue := l.queue ++ [(t, o)] }
  forget t w :=
    { w with handles := w.handles.map fun hd => { hd with watchers := hd.watchers.filter (· != t) }
             locks := w.locks.map fun l => { l with queue := l.queue.filter (·.1 != t) } }
  release o w := w.releaseOwner o
  takeWakes w := (w.wakes, { w with wakes := [] })
  fresh w := (w.nextOwner, { w with nextOwner := w.nextOwner + 1 })
  enter t o now w := { w with task := t, owner := o, now := now }
  spawned parent child w :=
    match w.overrideMap parent with
    | some m => w.setOverrides child [m]
    | none => w

end World

namespace Step

/-- Lifts a change of the world. -/
def change (f : World → World) : Step Unit := modify f

/-- Reads the world. -/
def read : Step World := get

/-- A number no owner has yet. -/
def freshOwner : Step Nat := modifyGet fun w => (w.nextOwner, { w with nextOwner := w.nextOwner + 1 })

/-- Runs code with what it acquires listed under another owner. -/
def asOwner {α : Type} (o : Nat) (x : Step α) : Step α := do
  let before := (← read).owner
  change fun w => { w with owner := o }
  let a ← x
  change fun w => { w with owner := before }
  pure a

/-- Takes a lock, waiting for it in line if it is taken. -/
def acquire (m : Nat) : Step Unit := do
  let w ← read
  let l := w.lock m
  if l.holder.isNone && l.queue.isEmpty then
    change fun w => (w.modifyLock m fun l => { l with holder := some w.owner }).hold (.lock m)
  else Async.await (.until (.granted m w.owner))

/-- Gives a lock back. -/
def unlock (m : Nat) : Step Unit := change fun w => (w.unhold (.lock m)).unlock m

/-- Issues a ticket of a handle. -/
def issue (h : Nat) : Step Nat := modifyGet fun w =>
  let (n, s) := (w.handle h).tickets.issue
  (n, (w.modifyHandle h fun hd => { hd with tickets := s }).hold (.ticket h n))

/-- Waits for a ticket's turn. -/
def waitTurn (h n : Nat) : Step Unit := Async.await (.until (.turn h n))

/-- Finishes a ticket. -/
def finishTicket (h n : Nat) : Step Unit := change fun w => (w.unhold (.ticket h n)).releaseTicket h n

/-- Counts a statement run as pending. -/
def beginPending (h : Nat) : Step Unit :=
  change fun w => (w.modifyHandle h fun hd => { hd with pending := hd.pending + 1 }).hold (.pending h)

/-- Ends a pending statement run. -/
def endPending (h : Nat) : Step Unit :=
  change fun w => (w.unhold (.pending h)).modifyHandle h fun hd => { hd with pending := hd.pending - 1 }

/-- Takes a reference to a unit of work. -/
def holdUnit (u : UnitRef) : Step Unit :=
  change fun w =>
    let w := match u with
      | .local i => w.modifyUnit i fun x => { x with inFlight := x.inFlight + 1 }
      | .manual i => w.modifyManualUnit i fun x => { x with inFlight := x.inFlight + 1 }
    w.hold (.unitRef u)

/-- Lets go of a reference to a unit of work. -/
def letGoUnit (u : UnitRef) : Step Unit := change fun w => (w.unhold (.unitRef u)).letGoUnit u

/-- Yields one turn. -/
def yield : Step Unit := Async.await .yield

/-- Sleeps until a deadline. -/
def sleepUntil (deadline : Nat) : Step Unit := Async.await (.sleep deadline)

/-- Runs code with a stack standing in for a manager's, inside the current task. -/
def withContext {α : Type} (m ctx : Nat) (x : Step α) : Step α := do
  change fun w =>
    let stack := ((w.overrides.find? (·.1 == w.task)).map (·.2)).getD []
    let top := (stack.head?).getD []
    w.setOverrides w.task (((m, ctx) :: top.filter (·.1 != m)) :: stack)
  let a ← x
  change fun w =>
    let stack := ((w.overrides.find? (·.1 == w.task)).map (·.2)).getD []
    w.setOverrides w.task (stack.drop 1)
  pure a

end Step

end TxnCoord

namespace TxnCoord.Tx

/-- A verdict as code that fails. -/
def ofExcept {α : Type} (e : Except TxError α) : Tx α := ExceptT.mk (pure e)

/-- Runs code that may fail and hands over its verdict, failing or not. -/
def attempt {α : Type} (x : Tx α) : Tx (Except TxError α) := ExceptT.lift x.run

/-- Runs `after` once `x` has finished, whether it failed or not. -/
def andThen {α : Type} (x : Tx α) (after : Step Unit) : Tx α :=
  ExceptT.mk do
    let r ← x.run
    after
    pure r

end TxnCoord.Tx
