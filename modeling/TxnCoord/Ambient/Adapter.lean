import TxnCoord.Ambient.Store
import TxnCoord.Transaction.Handle
/-!
# Enlistments

An enlistment ties one handle to one unit of work. It is created with a recovery
descriptor saved for (resource manager, unit of work), and answers the unit's calls:

* one-phase commit commits the handle; if that fails it rolls the handle back;
* one-phase rollback, and two-phase rollback, roll the handle back if it is open;
* promotion to two-phase commit rewrites the descriptor with the handle's current
  location; it fails, rolling the handle back, when the handle has ended or the store
  fails;
* prepare votes to abort when the handle has ended, runs are pending or the descriptor
  cannot be rewritten, rolling the handle back first; otherwise it votes prepared;
* two-phase commit commits the handle.

When the enlistment completes it leaves the manager's registry, and its descriptor is
removed from the store, except when the outcome is in doubt: a two-phase commit, or the
rollback of an abandoned unit, that failed in transport. An enlistment is abandoned when
nothing holds its unit of work any more.
-/

namespace TxnCoord.Ambient

open Recovery Transaction

/-- The instant descriptors are stamped with. -/
def stamp : Time.Instant := ⟨19723, 0, false⟩

/-- The descriptor of a new enlistment of handle `h` of manager `m` in unit `uow`. -/
def descriptorFor (w : World) (m h : Nat) (uow : Uuid) (version : ServerVersion) : Descriptor :=
  let mgr := w.manager m
  let hd := w.handle h
  { rm := mgr.config.resourceManager, uow, config := mgr.config, transport := hd.transport,
    version, database := hd.database, location := hd.location, recordedAt := stamp }

/-- Leaves the registry; removes the descriptor unless the outcome is in doubt. -/
def complete (a : Nat) (keep : Bool) : Step Unit := do
  let ad := (← Step.read).adapter a
  Step.change fun w => w.modifyManager ad.manager fun mg =>
    { mg with enlistments := mg.enlistments.filter (·.1 != ad.unitId) }
  if !keep then
    let _ ← (storeRemove ad.manager ad.rm ad.unitId).run

/-- Rolls the handle back if it is still open. -/
def endHandle (a : Nat) : Tx Unit := do
  let w ← Step.read
  let h := (w.adapter a).handle
  if (w.handle h).isOpen then rollback h

/-- Rewrites the descriptor with the handle's current location. -/
def refreshDescriptor (a : Nat) : Tx Unit := do
  let ad := (← Step.read).adapter a
  match ← storeLoad ad.manager ad.rm ad.unitId with
  | none => throw (.coordination ("no recovery descriptor for unit of work " ++ ad.unitId.render))
  | some d =>
    let loc := ((← Step.read).handle ad.handle).location
    storeSave ad.manager { d with location := loc, recordedAt := stamp }

/-- Ends the handle of an abandoned unit; keeps the descriptor when that failed in transport. -/
def abandon (a : Nat) : Step Unit := do
  match ← (endHandle a).run with
  | .ok () => complete a false
  | .error (.transport _) => complete a true
  | .error _ => complete a false

/-- One-phase commit. -/
def singlePhaseCommit (a : Nat) : Tx Unit := do
  let h := ((← Step.read).adapter a).handle
  let outcome ← Tx.attempt (commit h)
  if outcome matches .error _ then
    let _ ← Tx.attempt (endHandle a)
  complete a false
  Tx.ofExcept outcome

/-- One-phase rollback. -/
def singlePhaseRollback (a : Nat) : Tx Unit := do
  let outcome ← Tx.attempt (endHandle a)
  complete a false
  Tx.ofExcept outcome

/-- Promotes to two-phase commit. -/
def promote (a : Nat) : Tx Unit := do
  let w ← Step.read
  let ad := w.adapter a
  if ad.promoted then return ()
  let promoted ← if (w.handle ad.handle).isOpen then Tx.attempt (refreshDescriptor a)
    else pure (.error (.closed "cannot promote a transaction that has already ended"))
  match promoted with
  | .ok () => Step.change fun w => w.modifyAdapter a fun ad => { ad with promoted := true }
  | .error e =>
    let _ ← Tx.attempt (endHandle a)
    throw (.coordination ("promotion to two-phase commit failed: " ++ e.message))

/-- Votes on the commit. -/
def prepare (a : Nat) : Step Vote := do
  let w ← Step.read
  let hd := w.handle (w.adapter a).handle
  if !hd.isOpen then return .aborted
  let ready ← if 0 < hd.pending then
      pure (.error (.invalid (toString hd.pending ++ " operation(s) still pending at prepare")))
    else (refreshDescriptor a).run
  match ready with
  | .ok () => pure .prepared
  | .error _ =>
    let _ ← (endHandle a).run
    pure .aborted

/-- Second-phase commit. -/
def commitPrepared (a : Nat) : Tx Unit := do
  let h := ((← Step.read).adapter a).handle
  match ← Tx.attempt (commit h) with
  | .ok () => complete a false
  | .error (.transport m) =>
    complete a true
    throw (.transport m)
  | .error e =>
    complete a false
    throw e

/-- Second-phase rollback. -/
def rollbackPrepared (a : Nat) : Tx Unit := do
  let outcome ← Tx.attempt (endHandle a)
  complete a false
  Tx.ofExcept outcome

end TxnCoord.Ambient
