import TxnCoord.Manager.Begin
/-!
# Recovery

Finishing the transactions that recovery descriptors point at, without the code that
enlisted them.

* Only HTTP transactions can be recovered; one that never reached the server needs nothing.
  Otherwise a handle is attached at the recorded location and committed or rolled back.
* Recovering a resource manager lists its descriptors, finishes each in order and removes
  it from the store. The first failure stops the pass and leaves that descriptor in place.
-/

namespace TxnCoord.Recovery

open Transaction Ambient

/-- Finishes the transaction a descriptor points at, through manager `m`'s transport. -/
def recover (m : Nat) (d : Descriptor) (outcome : Outcome) : Tx Unit := do
  if d.transport != .http then
    throw (.unsupported "driver session transactions cannot be recovered outside their session")
  match d.location with
  | none => pure ()
  | some loc =>
    let h ← addHandle d.database (.http m d.config d.version)
    Step.change fun w => w.modifyHandle h fun hd => { hd with location := some loc }
    match outcome with
    | .committed => commit h
    | .rolledBack => rollback h

/-- Recovers descriptors in order, removing each; returns the count so far plus these. -/
def recoverEach (m : Nat) (rm : Uuid) (decide : Descriptor → Outcome) :
    List Descriptor → Nat → Tx Nat
  | [], n => pure n
  | d :: rest, n => do
    recover m d (decide d)
    let _ ← storeRemove m rm d.uow
    recoverEach m rm decide rest (n + 1)

/-- Recovers every descriptor of manager `m`'s resource manager. -/
def recoverPending (m : Nat) (decide : Descriptor → Outcome) : Tx Nat := do
  let mgr := (← Step.read).manager m
  if mgr.backend != .http then throw (.unsupported "recovery requires the HTTP transport")
  let rm := mgr.config.resourceManager
  let ds ← storeList m rm
  recoverEach m rm decide ds 0

end TxnCoord.Recovery
