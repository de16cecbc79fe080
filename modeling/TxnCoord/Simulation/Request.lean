import TxnCoord.Simulation.Stores
/-!
# Requests

One request is one JSON object with an `op` member naming what to do; its answer is one
JSON value. A line that is not JSON is answered with the reader's fault.
-/

namespace TxnCoord.Simulation

open Json

/-- What the answers to earlier requests leave behind for later ones. -/
structure Memory where
  /-- Requests answered so far. -/
  answered : Nat := 0
  /-- The recovery store shared by all sessions. -/
  shared : Recovery.Ledger := {}

/-- Answers one request. -/
def answer (mem : Memory) (req : Json) : Memory × Json :=
  let op := (textArg req "op").getD ""
  let (shared, reply) :=
    if op == "session" then sessionAnswer mem.shared req else (mem.shared,
    match op with
    | "version" => versionAnswer req
    | "version_caps" => versionCapsAnswer req
    | "transport_from_uri" => transportFromUriAnswer req
    | "transport_parse" => transportParseAnswer req
    | "config" => configAnswer req
    | "config_new" => configNewAnswer req
    | "config_env" => configEnvAnswer req
    | "error" => errorAnswer req
    | "driver_error" => driverErrorAnswer req
    | "result_first" => resultFirstAnswer req
    | "enums" => enumsAnswer req
    | "statement" => statementAnswer req
    | "memstore" => memstoreAnswer req
    | "filestore" => filestoreAnswer req
    | _ => usageError ("unknown op: " ++ op))
  ({ mem with answered := mem.answered + 1, shared }, reply)

/-- Answers one line of input with one line of output. -/
def respond (mem : Memory) (line : String) : Memory × String :=
  match Json.parse line with
  | .error e => (mem, (Json.obj [("error", .str "BadInput"), ("message", .str e)]).compact)
  | .ok req =>
    let (mem', reply) := answer mem req
    (mem', reply.compact)

end TxnCoord.Simulation
