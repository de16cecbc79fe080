import TxnCoord.Peer
import TxnCoord.Transaction.State
import TxnCoord.Transaction.Sequencer
import TxnCoord.Recovery.Descriptor
import TxnCoord.Version
/-!
# The state of a deployment

Everything a run of the coordinator touches, in one value: the managers with their scope
stacks, the transaction handles, the units of work and their enlistments, the recovery
store, the scripted peers, and the bookkeeping of the fibers that run over it.

Objects that refer to each other do so by number: a handle is an index into `handles`, a
scope record an index into `records`, a stack an index into `contexts`. Nothing is ever
removed, so a number stays valid for the whole run.

* A handle's transaction lives on the HTTP endpoint of a server or in a driver session;
  either way it has a state, the first statement failure it saw, a count of statement
  runs in progress, and a ticket counter with the fibers waiting for their turn.
* A scope record says which handle a scope uses, whether it owns it, and whether it came
  from an enlistment; a stack lists records, bottom first.
* A lock admits one owner at a time and hands itself to its waiters first come, first
  served.
* Every ticket, pending count, lock and unit reference that running code holds is listed
  under an owner, so that dropping a suspended fiber can release what it held.
-/

namespace TxnCoord

open Recovery

/-- How a completed unit of work ended. -/
inductive Outcome where
  | committed
  | rolledBack
  deriving DecidableEq, Inhabited, Repr

/-- The name of an outcome in a debugging view. -/
def Outcome.debugName : Outcome → String
  | .committed => "Committed"
  | .rolledBack => "RolledBack"

/-- A participant's answer to prepare. -/
inductive Vote where
  | prepared
  | aborted
  deriving DecidableEq, Inhabited, Repr

/-- The name of a vote in a debugging view. -/
def Vote.debugName : Vote → String
  | .prepared => "Prepared"
  | .aborted => "Aborted"

/-- Where a handle's transaction lives. -/
inductive Link where
  /-- On the HTTP endpoint, reached through manager `via`'s transport. -/
  | http (via : Nat) (config : Config) (version : ServerVersion)
  /-- In a session of manager `via`'s driver. -/
  | session (via : Nat)

/-- One transaction on a server. -/
structure Handle where
  id : Uuid
  database : String
  link : Link
  state : TxState := .open
  /-- The transaction's address on an HTTP server, once the begin request succeeded. -/
  location : Option String := none
  expiresAt : Option Time.Instant := none
  /-- The first statement failure. -/
  failure : Option TxError := none
  /-- Statement runs started and not finished or dropped. -/
  pending : Nat := 0
  tickets : Transaction.Sequencer := {}
  /-- Tasks waiting for their ticket's turn, in the order they began to wait. -/
  watchers : List Nat := []

namespace Handle

/-- Whether the transaction is open. -/
def isOpen (h : Handle) : Bool := h.state == .open

/-- Whether the transaction exists on the server: always for a session, after the begin
request for HTTP. -/
def isBegun (h : Handle) : Bool :=
  match h.link with
  | .http .. => h.location.isSome
  | .session _ => true

/-- The transport of a handle. -/
def transport (h : Handle) : TransportKind :=
  match h.link with
  | .http .. => .http
  | .session _ => .driver

/-- The manager whose peer carries the handle's requests. -/
def via (h : Handle) : Nat :=
  match h.link with
  | .http v .. => v
  | .session v => v

end Handle

/-- One scope: its option, its handle, and how it came by it. -/
structure ScopeRecord where
  serial : Nat
  option : ScopeOption
  handle : Option Nat
  owner : Bool
  enlisted : Bool
  ended : Bool := false

/-- A stack of scope records, bottom first. -/
structure Context where
  records : List Nat := []

/-- A lock that hands itself to waiters in the order they came. -/
structure Lock where
  holder : Option Nat := none
  /-- Waiting tasks with the owner each acquires for. -/
  queue : List (Nat × Nat) := []

/-- A unit of work of either coordinator. -/
inductive UnitRef where
  | local (i : Nat)
  | manual (i : Nat)
  deriving DecidableEq, Inhabited, Repr

/-- Something running code holds and must give back. -/
inductive Hold where
  | pending (handle : Nat)
  | ticket (handle n : Nat)
  | lock (lock : Nat)
  | unitRef (u : UnitRef)
  deriving DecidableEq, Repr

/-- A participant of a local unit of work. -/
inductive Party where
  | adapter (i : Nat)
  | recorder (i : Nat)
  deriving DecidableEq, Repr

/-- A unit of work coordinated here. -/
structure LocalUnit where
  id : Uuid
  /-- Participants in enlistment order, each with whether it may still commit in one phase. -/
  parties : List (Party × Bool) := []
  outcome : Option Outcome := none
  doomed : Bool := false
  /-- The lock over the participants. -/
  lock : Nat
  /-- References held by running code. -/
  inFlight : Nat := 0

/-- A unit of work of a host that drives its participants directly. -/
structure ManualUnit where
  id : Uuid
  /-- Enlisted adapters, in order. -/
  parties : List Nat := []
  /-- Whether the host still holds the unit. -/
  held : Bool := true
  /-- The failure the next enlistment gets. -/
  failNext : Option TxError := none
  inFlight : Nat := 0

/-- The enlistment of one handle in one unit of work. -/
structure Adapter where
  unitId : Uuid
  unit : UnitRef
  rm : Uuid
  handle : Nat
  manager : Nat
  /-- Whether the enlistment was promoted to two-phase commit. -/
  promoted : Bool := false

/-- A participant that records the calls it gets. -/
structure Recorder where
  /-- The identity the session gave it. -/
  id : Uuid := ⟨0⟩
  vote : Vote := .prepared
  /-- Calls that fail, with their failures. -/
  failures : List (String × TxError) := []

/-- Failures injected into the recovery store, one text per operation. -/
structure StoreFaults where
  save : Option String := none
  load : Option String := none
  list : Option String := none
  remove : Option String := none

/-- A transaction manager: settings, backend, server version and its scope stacks. -/
structure Manager where
  config : Config
  backend : TransportKind
  version : Option ServerVersion
  /-- Whether the session's coordinator is attached. -/
  ambient : Bool
  /-- Whether the manager keeps descriptors in the store shared by all runs. -/
  shared : Bool
  /-- The stack of code outside any task. -/
  detached : Nat
  /-- The stack of each task that asked for one. -/
  byTask : List (Nat × Nat) := []
  /-- The adapter of each unit of work, in insertion order. -/
  enlistments : List (Uuid × Nat) := []
  /-- The lock that serialises enlistment. -/
  enlistLock : Nat

end TxnCoord
