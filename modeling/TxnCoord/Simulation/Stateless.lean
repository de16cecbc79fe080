import TxnCoord.Simulation.Encode
import TxnCoord.Statement
import TxnCoord.Transaction.State
import TxnCoord.Transaction.DriverFault
import TxnCoord.Json.Print
/-!
# Requests without state

Each request here calls one part of the coordinator on its input and describes the
outcome: version parsing and abilities, transport names, settings from JSON, from
builders and from the environment, failures and their properties, statements and
results.
-/

namespace TxnCoord.Simulation

open Json

/-- A text member of a request. -/
def textArg (req : Json) (k : String) : Option String := (req.get? k).bind Json.str?

/-- A text member that may be null or left out. -/
def optTextArg (req : Json) (k : String) : Option String := textArg req k

/-- Answers `version`: reads a version and shows what it allows. -/
def versionAnswer (req : Json) : Json :=
  let database := (textArg req "database").getD defaultDatabase
  match ServerVersion.parse ((textArg req "text").getD "") with
  | .ok v => versionJson v database
  | .error e => errorJson e

/-- A number of a request as a 32-bit word: it wraps modulo `2^32`, and one below zero is
zero. -/
def word32 (n : Int) : Nat := n.toNat % Nat.pow 2 32

/-- Answers `version_caps`: shows what a version given by its three numbers allows; each
number is taken as a 32-bit word. -/
def versionCapsAnswer (req : Json) : Json :=
  let database := (textArg req "database").getD defaultDatabase
  let nums := (((req.get? "a").bind Json.arr?).getD []).map fun j => word32 ((Json.int? j).getD 0)
  versionJson ⟨nums[0]?.getD 0, nums[1]?.getD 0, nums[2]?.getD 0⟩ database

/-- Answers `transport_from_uri`. -/
def transportFromUriAnswer (req : Json) : Json :=
  match TransportKind.ofUri ((textArg req "uri").getD "") with
  | .ok k => .obj [("kind", .str k.render)]
  | .error e => errorJson e

/-- Answers `transport_parse`. -/
def transportParseAnswer (req : Json) : Json :=
  match TransportKind.parse ((textArg req "text").getD "") with
  | .ok k => .obj [("kind", .str k.render)]
  | .error m => .obj [("error", .str "ParseError"), ("message", .str m)]

/-- Answers `config`: settings read from JSON text, with their identity and pretty text
when the text names one. -/
def configAnswer (req : Json) : Json :=
  let text := (textArg req "json").getD ""
  match Config.ofJsonText text with
  | .error e => errorJson e
  | .ok c =>
    let base := configFields c (optTextArg req "requested")
    let named := match Json.parse text with
      | .ok doc => doc.has "resource_manager_id"
      | .error _ => false
    if named then
      .obj (base ++ [("resource_manager_id", .str c.resourceManager.render),
        ("pretty", .str c.toJsonText)])
    else .obj base

/-- Milliseconds of a duration given as seconds and nanoseconds, or as `"max"`; the
nanoseconds must be fewer than a second, and a part left out is zero. -/
def durationMs (j : Json) : Except String Nat :=
  match j with
  | .str "max" => .ok (Nat.pow 2 64 - 1)
  | _ =>
    let secs := ((j.get? "secs").bind Json.int?).getD 0
    let nanos := ((j.get? "nanos").bind Json.int?).getD 0
    if 1000000000 ≤ nanos then .error "nanos must be below 1e9"
    else .ok (secs.toNat * 1000 + nanos.toNat / 1000000)

/-- Answers `config_new`: settings built step by step. -/
def configNewAnswer (req : Json) : Json :=
  let c := Config.new ((textArg req "root_uri").getD "") default
  let keepAlive : Except String (Option Nat) := match req.get? "keep_alive" with
    | some j => if j.isNull then .ok none else some <$> durationMs j
    | none => .ok none
  match keepAlive with
  | .error msg => usageError msg
  | .ok ms =>
    let c := match ms with
      | some n => c.withKeepAlive n
      | none => c
    let c := match textArg req "username" with
      | some u => { c with credentials := some ⟨u, (textArg req "password").getD ""⟩ }
      | none => c
    let c := match textArg req "default_database" with
      | some d => { c with defaultDatabase := some d }
      | none => c
    .obj (configFields c (optTextArg req "requested"))

/-- Answers `config_env`: settings from the given environment variables. -/
def configEnvAnswer (req : Json) : Json :=
  let env := (req.get? "env").getD (.obj [])
  let var (k : String) := textArg env k
  let e : Config.Environment :=
    ⟨var "GRAPHTX_URI", var "GRAPHTX_USER", var "GRAPHTX_PASSWORD", var "GRAPHTX_DATABASE",
      var "GRAPHTX_KEEP_ALIVE_MS"⟩
  match Config.ofEnvironment e default with
  | .ok c => .obj (configFields c (optTextArg req "requested"))
  | .error err => errorJson err

/-- Answers `error`: a failure built from its kind, with its properties. -/
def errorAnswer (req : Json) : Json :=
  let kind := (textArg req "kind").getD ""
  match TxError.ofKind kind ((textArg req "message").getD "") ((textArg req "code").getD "") with
  | some e =>
    .obj [("kind", .str e.kind), ("display", .str e.message), ("is_closed", .bool e.isClosed),
      ("is_statement_error", .bool e.isStatement), ("is_retryable", .bool e.isRetryable)]
  | none => usageError ("unknown error kind: " ++ kind)

/-- Answers `driver_error`: a driver failure and the coordinator failure it becomes. -/
def driverErrorAnswer (req : Json) : Json :=
  let f : DriverFault := ⟨textArg req "code", (textArg req "message").getD ""⟩
  .obj [("driver_display", .str f.message), ("mapped", errorJson f.toError)]

/-- Answers `result_first`. -/
def resultFirstAnswer (req : Json) : Json :=
  let r : StatementResult :=
    { columns := (((req.get? "columns").bind Json.arr?).getD []).filterMap Json.str?
      rows := (((req.get? "rows").bind Json.arr?).getD []).map fun x => (Json.arr? x).getD [] }
  .obj [("first", (r.first ((textArg req "column").getD "")).getD .null), ("row_count", .nat r.rowCount)]

/-- The state named in a request. -/
def stateOf (name : String) : TxState :=
  if name = "committed" then .committed else if name = "rolled_back" then .rolledBack else .open

/-- The scope option named in a request; join when none is named. -/
def optionOf : Option String → ScopeOption
  | some "suppress" => .suppress
  | some "requires_new" => .requiresNew
  | _ => .join

/-- Answers `enums`. -/
def enumsAnswer (req : Json) : Json :=
  let s := stateOf ((textArg req "state").getD "")
  .obj [("state_display", .str s.render), ("is_terminal", .bool s.isTerminal),
    ("ensure_open", unitJson s.ensureOpen),
    ("option_display", .str (optionOf (textArg req "option")).render)]

/-- Decodes JSON text against a shape, as a serialization failure if it does not fit. -/
def decodeAs (s : Shape) (text : String) : Except TxError Json :=
  match s.decodeText text with
  | .ok j => .ok j
  | .error e => .error (.serialization e)

/-- Answers `statement`: each given text read as a batch, a statement or a result. -/
def statementAnswer (req : Json) : Json :=
  let batch := (textArg req "batch").map fun t =>
    match decodeAs Batch.shape t with
    | .error e => ("batch", errorJson e)
    | .ok j =>
      let b := Batch.ofDecoded j
      ("batch", .obj [("len", .nat b.size), ("is_empty", .bool b.isEmpty), ("value", b.toJson),
        ("from_vec_len", .nat b.size),
        ("single", match b.statements.head? with
          | some s => (Batch.single s).toJson
          | none => .null),
        ("from_statement_len", match b.statements.head? with
          | some s => .nat (Batch.single s).size
          | none => .null)])
  let stmt := (textArg req "statement").map fun t =>
    match decodeAs Statement.shape t with
    | .error e => ("statement", errorJson e)
    | .ok j => ("statement", (Statement.ofDecoded j).toJson)
  let result := (textArg req "result").map fun t =>
    match decodeAs StatementResult.shape t with
    | .error e => ("result", errorJson e)
    | .ok j =>
      let r := StatementResult.ofDecoded j
      ("result", .obj [("row_count", .nat r.rowCount), ("value", r.toJson)])
  .obj ([batch, stmt, result].filterMap id)

end TxnCoord.Simulation
