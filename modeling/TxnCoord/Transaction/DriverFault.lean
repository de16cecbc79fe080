import TxnCoord.Error
/-!
# Driver failures

A driver session reports a failure with a server status code when the server refused
something, and without one when the connection failed. The code decides the failure the
coordinator reports: a transaction the server does not know is closed, any other code is
a refused statement, and no code is a transport failure.
-/

namespace TxnCoord

/-- A failure reported by a driver session. -/
structure DriverFault where
  code : Option String
  message : String
  deriving DecidableEq, Inhabited

namespace DriverFault

/-- Whether a status code says that the server does not know the transaction. -/
def isUnknownTransactionCode (code : String) : Bool :=
  code.endsWith "Transaction.TransactionNotFound" || code.endsWith "Transaction.UnknownId"

/-- The coordinator failure for a driver failure. -/
def toError (f : DriverFault) : TxError :=
  match f.code with
  | some c => if isUnknownTransactionCode c then TxError.expired else .statement c f.message
  | none => .transport f.message

end DriverFault

end TxnCoord
