import TxnCoord.Http.Wire
import TxnCoord.Transaction.DriverFault
/-!
# Scripted peers

The server and the graph driver behind one manager, played from a script.

* The HTTP server answers each request with the next scripted answer, first in first out;
  a scripted answer is a response or a failure of the transport itself. With nothing
  scripted it answers by default: a rollback with 200 and no results, a commit with 200
  and one result per statement, a begin with 201, one result per statement, the expiry
  and a `Location` numbered from 1 per manager, and any other post like a begin but with
  200 and no `Location`. Each result has the single column `n` and one row holding the
  statement's text.
* The driver opens a session transaction unless a begin failure is queued. A statement
  fails if its text is registered, and otherwise returns the same single-column result.
  A commit or rollback fails with the next fault queued for it.
-/

namespace TxnCoord

/-- One scripted answer of the HTTP server. -/
inductive Scripted where
  | answer (r : Http.Response)
  | fail (message : String)

/-- The scripted server and driver behind one manager. -/
structure Peer where
  script : List Scripted := []
  /-- Begin answers given by default so far. -/
  begun : Nat := 0
  beginFaults : List DriverFault := []
  commitFaults : List DriverFault := []
  rollbackFaults : List DriverFault := []
  /-- Statement texts that fail, with their faults; a later registration wins. -/
  runFaults : List (String × DriverFault) := []

namespace Peer

/-- The default result of a statement: its text under the column `n`. -/
def echo (text : String) : Json :=
  .obj [("columns", .arr [.str "n"]), ("data", .arr [.obj [("row", .arr [.str text])]])]

/-- The statement texts of a request body. -/
def statementTexts (body : Option Json) : List String :=
  match body with
  | some b => (((b.get? "statements").bind Json.arr?).getD []).map fun s =>
      ((s.get? "statement").bind Json.str?).getD ""
  | none => []

/-- The default answer to a request, and whether it counted a begin. -/
def defaultAnswer (expires : Option String) (begun : Nat) (req : Http.Request) :
    Http.Response × Bool :=
  let results := Json.arr ((statementTexts req.body).map echo)
  let withTx := [("results", results), ("errors", Json.arr [])] ++
    (match expires with
      | some e => [("transaction", Json.obj [("expires", .str e)])]
      | none => [])
  match req.method with
  | .delete => ({ status := 200, body := .obj [("results", .arr []), ("errors", .arr [])] }, false)
  | .post =>
    if req.uri.endsWith "/commit" then
      ({ status := 200, body := .obj [("results", results), ("errors", .arr [])] }, false)
    else if req.uri.endsWith "/tx" ∨ req.uri.endsWith "/db/data/transaction" then
      ({ status := 201, location := some (req.uri ++ "/" ++ toString (begun + 1)),
         body := .obj withTx }, true)
    else ({ status := 200, body := .obj withTx }, false)

/-- Answers a request: the next scripted answer, or the default one. -/
def send (p : Peer) (expires : Option String) (req : Http.Request) :
    Except String Http.Response × Peer :=
  match p.script with
  | .answer r :: rest => (.ok r, { p with script := rest })
  | .fail m :: rest => (.error m, { p with script := rest })
  | [] =>
    let (r, counted) := defaultAnswer expires p.begun req
    (.ok r, if counted then { p with begun := p.begun + 1 } else p)

/-- Opens a session transaction, or fails with the next queued begin fault. -/
def beginSession (p : Peer) : Option DriverFault × Peer :=
  match p.beginFaults with
  | f :: rest => (some f, { p with beginFaults := rest })
  | [] => (none, p)

/-- Runs a statement in a session transaction. -/
def run (p : Peer) (s : Statement) : Except DriverFault StatementResult :=
  match p.runFaults.find? (·.1 == s.text) with
  | some (_, f) => .error f
  | none => .ok { columns := ["n"], rows := [[.str s.text]] }

/-- Commits a session transaction, or fails with the next queued commit fault. -/
def commit (p : Peer) : Option DriverFault × Peer :=
  match p.commitFaults with
  | f :: rest => (some f, { p with commitFaults := rest })
  | [] => (none, p)

/-- Rolls a session transaction back, or fails with the next queued rollback fault. -/
def rollback (p : Peer) : Option DriverFault × Peer :=
  match p.rollbackFaults with
  | f :: rest => (some f, { p with rollbackFaults := rest })
  | [] => (none, p)

/-- Registers a statement text that fails from now on. -/
def failRun (p : Peer) (text : String) (f : DriverFault) : Peer :=
  { p with runFaults := (text, f) :: p.runFaults.filter (·.1 != text) }

end Peer

namespace Peer

/-- The log entry of an HTTP request that manager `m`'s server saw. -/
def requestEntry (m : Nat) (r : Http.Request) : Json :=
  .obj [("m", .nat m), ("http", .str r.method.render), ("uri", .str r.uri),
    ("body", r.body.getD .null),
    ("credentials", match r.credentials with
      | some c => .arr [.str c.username, .str c.password]
      | none => .null),
    ("user_agent", .str r.userAgent), ("stream", .bool r.stream)]

/-- The log entry of a call that manager `m`'s driver saw. -/
def driverEntry (m : Nat) (call : String) : Json := .obj [("m", .nat m), ("driver", .str call)]

/-- The log entry of a statement that manager `m`'s driver ran. -/
def runEntry (m : Nat) (s : Statement) : Json :=
  .obj [("m", .nat m), ("driver", .str ("run:" ++ s.text)), ("parameters", .obj s.parameters)]

end Peer

end TxnCoord
