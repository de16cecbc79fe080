import TxnCoord.World.Host
/-!
# The recovery store of a manager

A manager keeps its descriptors in the run's own store, or in the store shared by all
runs. Only the run's own store can be told to fail: each of its four operations fails as
a coordination failure with the injected text while one is set.
-/

namespace TxnCoord.Ambient

open Recovery

/-- The injected failure of an operation of manager `m`'s store, if any. -/
def storeFault (w : World) (m : Nat) (op : StoreFaults → Option String) : Option String :=
  if (w.manager m).shared then none else op w.faults

/-- The ledger manager `m` keeps its descriptors in. -/
def ledgerOf (w : World) (m : Nat) : Ledger :=
  if (w.manager m).shared then w.sharedLedger else w.ledger

/-- Replaces the ledger manager `m` keeps its descriptors in. -/
def setLedger (w : World) (m : Nat) (l : Ledger) : World :=
  if (w.manager m).shared then { w with sharedLedger := l } else { w with ledger := l }

/-- Saves a descriptor in manager `m`'s store. -/
def storeSave (m : Nat) (d : Descriptor) : Tx Unit := do
  let w ← Step.read
  if let some msg := storeFault w m (·.save) then throw (.coordination msg)
  Step.change fun w => setLedger w m ((ledgerOf w m).save d)

/-- Loads a descriptor from manager `m`'s store. -/
def storeLoad (m : Nat) (rm uow : Uuid) : Tx (Option Descriptor) := do
  let w ← Step.read
  if let some msg := storeFault w m (·.load) then throw (.coordination msg)
  pure ((ledgerOf w m).load rm uow)

/-- Lists a resource manager's descriptors in manager `m`'s store. -/
def storeList (m : Nat) (rm : Uuid) : Tx (List Descriptor) := do
  let w ← Step.read
  if let some msg := storeFault w m (·.list) then throw (.coordination msg)
  pure ((ledgerOf w m).list rm)

/-- Removes a descriptor from manager `m`'s store; says whether there was one. -/
def storeRemove (m : Nat) (rm uow : Uuid) : Tx Bool := do
  let w ← Step.read
  if let some msg := storeFault w m (·.remove) then throw (.coordination msg)
  let (found, l) := (ledgerOf w m).remove rm uow
  Step.change fun w => setLedger w m l
  pure found

end TxnCoord.Ambient
