import TxnCoord.Error
/-!
# Transaction states and scope options

A transaction is open until it is committed or rolled back, and then it stays so: both
ends are terminal, and every operation on a terminal transaction fails as closed.

A scope says how it relates to a transaction already running around it: it joins it, it
runs with no transaction at all, or it starts one of its own.
-/

namespace TxnCoord

/-- Where a transaction stands. -/
inductive TxState where
  | open
  | committed
  | rolledBack
  deriving DecidableEq, Inhabited, Repr

namespace TxState

/-- Whether the transaction has ended. -/
def isTerminal : TxState → Bool
  | .open => false
  | _ => true

/-- Succeeds on an open transaction, and fails as closed on an ended one. -/
def ensureOpen : TxState → Except TxError Unit
  | .open => .ok ()
  | .committed => .error (.closed "the transaction has already been committed")
  | .rolledBack => .error (.closed "the transaction has already been rolled back")

/-- The name of a state. -/
def render : TxState → String
  | .open => "open"
  | .committed => "committed"
  | .rolledBack => "rolled back"

/-- The name of a state in a debugging view. -/
def debugName : TxState → String
  | .open => "Open"
  | .committed => "Committed"
  | .rolledBack => "RolledBack"

theorem ensureOpen_ok_iff (s : TxState) : s.ensureOpen = .ok () ↔ s = .open := by
  cases s <;> simp [ensureOpen]

theorem isTerminal_iff (s : TxState) : s.isTerminal = true ↔ s ≠ .open := by
  cases s <;> simp [isTerminal]

end TxState

/-- How a scope relates to the transaction around it. -/
inductive ScopeOption where
  /-- Take part in the transaction around, or start one if there is none. -/
  | join
  /-- Run with no transaction at all. -/
  | suppress
  /-- Start a transaction of its own. -/
  | requiresNew
  deriving DecidableEq, Inhabited, Repr

namespace ScopeOption

/-- The name of an option. -/
def render : ScopeOption → String
  | .join => "join"
  | .suppress => "suppress"
  | .requiresNew => "requires-new"

/-- The name of an option in a debugging view. -/
def debugName : ScopeOption → String
  | .join => "Join"
  | .suppress => "Suppress"
  | .requiresNew => "RequiresNew"

end ScopeOption

end TxnCoord
