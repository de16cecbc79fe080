import TxnCoord.Statement
import TxnCoord.Config
import TxnCoord.Time.MailDate
/-!
# The transactional HTTP endpoint: requests and answers

A transaction on the HTTP endpoint is a resource. The first statement batch is posted to
the begin address, and the `Location` of the answer names the transaction from then on.
More statements, and keep-alives with none, are posted to that location. A commit is
posted to the location followed by `/commit`, and a rollback deletes the location.

An answer is read into one of four verdicts (`interpret`), in this order:

1. a body that is not null and not of the answer's shape is a transport failure;
2. a first error whose code ends in `Transaction.UnknownId`,
   `Transaction.TransactionNotFound` or `Request.UnknownTransaction` means the server
   does not know the transaction;
3. another first error with a status other than 404 and below 500 is a refused statement;
4. otherwise a status from 200 to 299 is accepted, a 404 with no errors means an unknown
   transaction, and anything else is a transport failure naming the status and the first
   error.

The expiry of an accepted answer is read as a message date; text that does not read as
one counts as no expiry.
-/

namespace TxnCoord.Http

/-- The two verbs the endpoint uses. -/
inductive Method where
  | post
  | delete
  deriving DecidableEq, Repr

/-- The name of a verb on the wire. -/
def Method.render : Method → String
  | .post => "POST"
  | .delete => "DELETE"

/-- A request handed to the transport. -/
structure Request where
  method : Method
  uri : String
  body : Option Json
  credentials : Option Credentials
  userAgent : String
  /-- Whether the server is asked for a streamed answer. -/
  stream : Bool

/-- What the transport got back. -/
structure Response where
  status : Nat
  location : Option String := none
  body : Json := .null

/-- Why an answer was not accepted. -/
inductive Failure where
  /-- The server does not know the transaction. -/
  | unknownTransaction
  /-- The server refused a statement: its first error. -/
  | statement (code message : String)
  /-- No usable answer, including a malformed body. -/
  | transport (message : String)
  deriving DecidableEq

/-- The coordinator failure for a refused answer. -/
def Failure.toError : Failure → TxError
  | .unknownTransaction => TxError.expired
  | .statement c m => .statement c m
  | .transport m => .transport m

/-- An accepted answer. -/
structure Accepted where
  results : List StatementResult := []
  location : Option String := none
  expiresAt : Option Time.Instant := none

/-- The body that posts a batch; an empty batch keeps the transaction alive. -/
def batchBody (b : Batch) : Json :=
  .obj [("statements", .arr (b.statements.map fun s =>
    .obj [("statement", .str s.text), ("parameters", .obj s.parameters),
      ("resultDataContents", .arr [.str "row"])]))]

/-- Whether an error code says that the server does not know the transaction. -/
def isUnknownTransactionCode (code : String) : Bool :=
  code.endsWith "Transaction.UnknownId" || code.endsWith "Transaction.TransactionNotFound" ||
    code.endsWith "Request.UnknownTransaction"

/-- The shape of an answer's body: results, errors and transaction, each optional. -/
def answerShape : Json.Shape :=
  .record "WireResponse" [
    ("results", .list (.record "WireResult" [
      ("columns", .list .text, .fill (.arr [])),
      ("data", .list (.record "WireRow" [("row", .list .any, .fill (.arr []))]), .fill (.arr []))]),
      .fill (.arr [])),
    ("errors", .list (.record "WireError" [
      ("code", .text, .required),
      ("message", .text, .fill (.str ""))]), .fill (.arr [])),
    ("transaction", .opt (.record "WireTransaction" [("expires", .opt .text, .required)]),
      .fill .null)]

/-- The items of a list member of a decoded record. -/
def items (j : Json) (k : String) : List Json := ((j.get? k).bind Json.arr?).getD []

/-- The text of a member of a decoded record. -/
def text (j : Json) (k : String) : String := ((j.get? k).bind Json.str?).getD ""

/-- A result of a decoded answer: its columns, and the row of each data entry. -/
def resultOf (r : Json) : StatementResult :=
  { columns := (items r "columns").filterMap Json.str?
    rows := (items r "data").map fun d => items d "row" }

/-- Reads an answer into a verdict. -/
def interpret (r : Response) : Except Failure Accepted := do
  let body ← if r.body.isNull then pure (Json.obj [("results", .arr []), ("errors", .arr []),
      ("transaction", .null)])
    else match answerShape.decode r.body with
      | .ok b => pure b
      | .error e =>
        throw (.transport ("Malformed response body (HTTP " ++ toString r.status ++ "): " ++ e))
  let errors := items body "errors"
  match errors.head? with
  | some e =>
    if isUnknownTransactionCode (text e "code") then throw .unknownTransaction
    if r.status ≠ 404 ∧ r.status < 500 then throw (.statement (text e "code") (text e "message"))
  | none => pure ()
  if 200 ≤ r.status ∧ r.status ≤ 299 then
    let expires := ((body.get? "transaction").bind (·.get? "expires")).bind Json.str?
    pure { results := (items body "results").map resultOf
           location := r.location
           expiresAt := expires.bind Time.MailDate.parse }
  else if r.status = 404 ∧ errors.isEmpty then throw .unknownTransaction
  else
    let detail := match errors.head? with
      | some e => text e "code" ++ ": " ++ text e "message"
      | none => "no error details"
    throw (.transport ("HTTP " ++ toString r.status ++ " (" ++ detail ++ ")"))

end TxnCoord.Http
