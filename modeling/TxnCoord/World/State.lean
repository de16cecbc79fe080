import TxnCoord.World.Basic
/-!
# The deployment as one value

`World` gathers the coordinator's objects, the scripted peers, the recovery stores, the
calls the peers saw in order (`log`), and what the fibers' scheduler shares with the code
it runs: the clock, the running task and the owner it acquires for, the resources held,
and the tasks to wake.

It also keeps the handles, scopes and units by the numbers that the requests of a session
use to name them, and the labels under which they appear in answers.
-/

namespace TxnCoord

open Recovery

instance : Inhabited Handle where
  default := { id := default, database := "", link := .session 0 }

instance : Inhabited ScopeRecord where
  default := { serial := 0, option := .join, handle := none, owner := false, enlisted := false }

instance : Inhabited Context := ⟨{}⟩

instance : Inhabited Lock := ⟨{}⟩

instance : Inhabited LocalUnit where
  default := { id := default, lock := 0 }

instance : Inhabited ManualUnit where
  default := { id := default }

instance : Inhabited Adapter where
  default := { unitId := default, unit := .local 0, rm := default, handle := 0, manager := 0 }

instance : Inhabited Recorder := ⟨{}⟩

instance : Inhabited Manager where
  default := { config := default, backend := .http, version := none, ambient := false,
               shared := false, detached := 0, enlistLock := 0 }

instance : Inhabited Peer := ⟨{}⟩

/-- A scope held by a session: its record, its stack and its manager. -/
structure Slot where
  record : Nat
  context : Nat
  manager : Nat

/-- A statement run kept unpolled, and what became of it. -/
structure Deferred where
  handle : Nat
  /-- The answer, once the run finished. -/
  result : Option Json := none
  /-- Whether it was started or dropped. -/
  settled : Bool := false

/-- The state of a run. -/
structure World where
  /-- The clock, in milliseconds. -/
  now : Nat := 0
  /-- The running task; 0 is code outside any task. -/
  task : Nat := 0
  /-- The owner that what is acquired now belongs to. -/
  owner : Nat := 0
  nextOwner : Nat := 1
  /-- Tasks to wake. -/
  wakes : List Nat := []
  /-- What each owner holds, in the order it was acquired. -/
  holds : List (Nat × Hold) := []
  locks : Array Lock := #[]
  /-- Per task, the stack of scope-stack overrides: each maps managers to stacks. -/
  overrides : List (Nat × List (List (Nat × Nat))) := []
  managers : Array Manager := #[]
  handles : Array Handle := #[]
  records : Array ScopeRecord := #[]
  contexts : Array Context := #[]
  /-- The serial of the next scope record. -/
  nextSerial : Nat := 1
  units : Array LocalUnit := #[]
  /-- The local coordinator's current unit. -/
  current : Option Nat := none
  /-- Whether ambient managers use the host-driven coordinator. -/
  manualMode : Bool := false
  manualUnits : Array ManualUnit := #[]
  manualCurrent : Option Nat := none
  adapters : Array Adapter := #[]
  recorders : Array Recorder := #[]
  /-- The session's recovery store. -/
  ledger : Ledger := {}
  faults : StoreFaults := {}
  /-- The store shared by all runs. -/
  sharedLedger : Ledger := {}
  peers : Array Peer := #[]
  /-- The expiry in default answers; none leaves it out. -/
  expires : Option String := some "Tue, 01 Jan 2030 00:00:00 GMT"
  /-- Calls the peers saw since the log was last taken. -/
  log : Array Json := #[]
  /-- Scopes by request number, while they are live. -/
  slots : Array (Option Slot) := #[]
  deferred : Array Deferred := #[]
  /-- The answers of finished tasks that run nested requests. -/
  taskAnswers : List (Nat × Json) := []
  /-- Handles in the order they were first shown. -/
  shown : List Nat := []
  /-- Units given up by the coordinator and kept alive by the session. -/
  detachedUnits : List Nat := []
  /-- Unit-of-work labels named in requests, with their identifiers. -/
  named : List (String × Uuid) := []
  /-- How many identities the session has made up, for recorders and named units of work. -/
  issued : Nat := 0
  /-- Whether the session's store keeps one file per descriptor. -/
  fileMode : Bool := false
  /-- The answers of the steps run so far, one per step. -/
  replies : Array Json := #[]

namespace World

/-- A handle by number. -/
def handle (w : World) (i : Nat) : Handle := w.handles[i]?.getD default

/-- Changes a handle. -/
def modifyHandle (w : World) (i : Nat) (f : Handle → Handle) : World :=
  { w with handles := w.handles.modify i f }

/-- A scope record by number. -/
def record (w : World) (i : Nat) : ScopeRecord := w.records[i]?.getD default

/-- Changes a scope record. -/
def modifyRecord (w : World) (i : Nat) (f : ScopeRecord → ScopeRecord) : World :=
  { w with records := w.records.modify i f }

/-- A stack by number. -/
def context (w : World) (i : Nat) : Context := w.contexts[i]?.getD default

/-- Changes a stack. -/
def modifyContext (w : World) (i : Nat) (f : Context → Context) : World :=
  { w with contexts := w.contexts.modify i f }

/-- A manager by number. -/
def manager (w : World) (i : Nat) : Manager := w.managers[i]?.getD default

/-- Changes a manager. -/
def modifyManager (w : World) (i : Nat) (f : Manager → Manager) : World :=
  { w with managers := w.managers.modify i f }

/-- A lock by number. -/
def lock (w : World) (i : Nat) : Lock := w.locks[i]?.getD default

/-- Changes a lock. -/
def modifyLock (w : World) (i : Nat) (f : Lock → Lock) : World :=
  { w with locks := w.locks.modify i f }

/-- A local unit by number. -/
def unit (w : World) (i : Nat) : LocalUnit := w.units[i]?.getD default

/-- Changes a local unit. -/
def modifyUnit (w : World) (i : Nat) (f : LocalUnit → LocalUnit) : World :=
  { w with units := w.units.modify i f }

/-- A manual unit by number. -/
def manualUnit (w : World) (i : Nat) : ManualUnit := w.manualUnits[i]?.getD default

/-- Changes a manual unit. -/
def modifyManualUnit (w : World) (i : Nat) (f : ManualUnit → ManualUnit) : World :=
  { w with manualUnits := w.manualUnits.modify i f }

/-- An adapter by number. -/
def adapter (w : World) (i : Nat) : Adapter := w.adapters[i]?.getD default

/-- Changes an adapter. -/
def modifyAdapter (w : World) (i : Nat) (f : Adapter → Adapter) : World :=
  { w with adapters := w.adapters.modify i f }

/-- A recorder by number. -/
def recorder (w : World) (i : Nat) : Recorder := w.recorders[i]?.getD default

/-- A peer by manager number. -/
def peer (w : World) (i : Nat) : Peer := w.peers[i]?.getD default

/-- Changes a peer. -/
def modifyPeer (w : World) (i : Nat) (f : Peer → Peer) : World :=
  { w with peers := w.peers.modify i f }

/-- Appends an entry to the log. -/
def note (w : World) (entry : Json) : World := { w with log := w.log.push entry }

/-- Adds a lock; returns its number. -/
def newLock (w : World) : Nat × World := (w.locks.size, { w with locks := w.locks.push {} })

/-- Adds a stack; returns its number. -/
def newContext (w : World) : Nat × World :=
  (w.contexts.size, { w with contexts := w.contexts.push {} })

/-- The identifier of a unit of work. -/
def unitId (w : World) : UnitRef → Uuid
  | .local i => (w.unit i).id
  | .manual i => (w.manualUnit i).id

/-- Whether anything still holds a unit of work. -/
def unitAlive (w : World) : UnitRef → Bool
  | .local i => w.current == some i || w.detachedUnits.contains i || 0 < (w.unit i).inFlight
  | .manual i => (w.manualUnit i).held || 0 < (w.manualUnit i).inFlight

end World

end TxnCoord
