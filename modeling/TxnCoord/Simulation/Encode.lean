import TxnCoord.Json.Value
import TxnCoord.Error
import TxnCoord.Version
import TxnCoord.Config
/-!
# Answers as JSON

How the values of the coordinator are written in answers: a failure as its kind and text,
a version with what it allows, settings with their derived values. Identifiers in the text
of a failure are replaced by labels, or by `<uuid>` where nothing gives them one.
-/

namespace TxnCoord.Simulation

/-- A failure as an answer: its kind and its full text, with the known identifiers in the
text written as their labels and every other one as `<uuid>`. -/
def failureJson (known : List (Uuid × String)) (e : TxError) : Json :=
  .obj [("error", .str e.kind), ("message", .str (Uuid.relabel known e.message))]

/-- A failure as an answer where no identifier has a label: each is written `<uuid>`. -/
def errorJson (e : TxError) : Json := failureJson [] e

/-- A failure of the request itself, not of the coordinator. -/
def usageError (message : String) : Json :=
  .obj [("error", .str "DriverUsage"), ("message", .str message)]

/-- An outcome that has no value: `"ok"`, or the failure. -/
def unitJson : Except TxError Unit → Json
  | .ok () => .str "ok"
  | .error e => errorJson e

/-- A version with the abilities it grants and its transaction endpoint. -/
def versionJson (v : ServerVersion) (database : String) : Json :=
  .obj [("major", .nat v.major), ("minor", .nat v.minor), ("patch", .nat v.patch),
    ("display", .str v.render), ("supports_transactions", .bool v.supportsTransactions),
    ("supports_multiple_databases", .bool v.supportsMultipleDatabases),
    ("rolls_back_on_statement_error", .bool v.rollsBackOnStatementError),
    ("endpoint", .str (v.transactionEndpoint database))]

/-- Credentials as an answer. -/
def credentialsJson : Option Credentials → Json
  | some c => .obj [("username", .str c.username), ("password", .str c.password)]
  | none => .null

/-- A whole number that may be missing. -/
def optNat : Option Nat → Json
  | some n => .nat n
  | none => .null

/-- Settings with what follows from them, for a requested database. -/
def configFields (c : Config) (requested : Option String) : List (String × Json) :=
  [("root_uri", .str c.rootUri), ("credentials", credentialsJson c.credentials),
    ("default_database", Json.optStr c.defaultDatabase), ("user_agent", .str c.userAgent),
    ("use_json_stream", .bool c.useJsonStream), ("keep_alive_interval_ms", optNat c.keepAliveMs),
    ("keep_alive_interval_ms_effective", optNat c.keepAliveInterval),
    ("transport_kind", match c.transportKind with
      | .ok k => .str k.render
      | .error e => errorJson e),
    ("validate", unitJson c.validate),
    ("database", .str (c.databaseOrDefault requested))]

end TxnCoord.Simulation
