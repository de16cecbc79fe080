/-!
# Errors

Every failure the coordinator reports is one of nine kinds. Each kind has a fixed lead-in
in its text, and all but the first carry a message. Only a transport failure is worth
retrying: it is the one kind that says nothing about the transaction itself.
-/

namespace TxnCoord

/-- A failure reported by the coordinator. -/
inductive TxError where
  /-- No server version is known yet. -/
  | notReady
  /-- The transaction has ended, here or on the server. -/
  | closed (message : String)
  | unsupported (message : String)
  | invalid (message : String)
  /-- The request did not get a usable answer. -/
  | transport (message : String)
  /-- The server refused a statement. -/
  | statement (code message : String)
  | coordination (message : String)
  | configuration (message : String)
  | serialization (message : String)
  deriving DecidableEq, Inhabited

namespace TxError

/-- The name of the kind of a failure. -/
def kind : TxError → String
  | .notReady => "NotReady"
  | .closed _ => "ClosedTransaction"
  | .unsupported _ => "UnsupportedOperation"
  | .invalid _ => "InvalidOperation"
  | .transport _ => "TransportFailure"
  | .statement _ _ => "StatementError"
  | .coordination _ => "Coordination"
  | .configuration _ => "Configuration"
  | .serialization _ => "Serialization"

/-- The full text of a failure. -/
def message : TxError → String
  | .notReady => "Not ready: the client is not connected to a server"
  | .closed m => "Closed transaction: " ++ m
  | .unsupported m => "Unsupported operation: " ++ m
  | .invalid m => "Invalid operation: " ++ m
  | .transport m => "Transport failure: " ++ m
  | .statement c m => "Statement error [" ++ c ++ "]: " ++ m
  | .coordination m => "Coordination failure: " ++ m
  | .configuration m => "Configuration error: " ++ m
  | .serialization m => "Serialization error: " ++ m

/-- The failure for a transaction that the server no longer knows. -/
def expired : TxError := .closed "the transaction has expired or was rolled back on the server"

/-- The failure for an input or output fault of the file system, from its text. -/
def io (text : String) : TxError := .coordination ("I/O error: " ++ text)

/-- Whether the transaction was already closed. -/
def isClosed : TxError → Bool
  | .closed _ => true
  | _ => false

/-- Whether the server refused a statement. -/
def isStatement : TxError → Bool
  | .statement _ _ => true
  | _ => false

/-- Whether the same request may succeed when sent again. -/
def isRetryable : TxError → Bool
  | .transport _ => true
  | _ => false

/-- A failure of a named kind; a statement failure takes the code, and an unknown kind
gives none. -/
def ofKind (kind message code : String) : Option TxError :=
  match kind with
  | "NotReady" => some .notReady
  | "ClosedTransaction" => some (.closed message)
  | "UnsupportedOperation" => some (.unsupported message)
  | "InvalidOperation" => some (.invalid message)
  | "TransportFailure" => some (.transport message)
  | "StatementError" => some (.statement code message)
  | "Coordination" => some (.coordination message)
  | "Configuration" => some (.configuration message)
  | "Serialization" => some (.serialization message)
  | _ => none

theorem isRetryable_iff (e : TxError) : e.isRetryable = true ↔ ∃ m, e = .transport m := by
  cases e <;> simp [isRetryable]

end TxError

end TxnCoord
