import TxnCoord.Error
import TxnCoord.Uuid
import TxnCoord.Json.Decode
import TxnCoord.Text.Lowercase
import TxnCoord.Text.Numeral
/-!
# Connection settings

What a client needs to talk to one server: the root address, credentials, a default
database, the agent name it sends, whether it asks for streamed answers, how often it
keeps idle transactions alive, and its own identity as a resource manager.

* The transport follows from the scheme of the root address, the text before the first
  `://`, in lower case: `http` and `https` speak the HTTP endpoint, the `bolt` and
  `neo4j` families a driver session.
* Settings are read from a JSON document in the record shape `Config.shape`, and written
  back in pretty JSON with the fields in the same order.
* Every way of building settings drops the slashes that end the root address.
-/

namespace TxnCoord

/-- The two ways of talking to a server. -/
inductive TransportKind where
  | http
  | driver
  deriving DecidableEq, Inhabited, Repr

namespace TransportKind

/-- The name of a transport. -/
def render : TransportKind → String
  | .http => "http"
  | .driver => "driver"

/-- The name of a transport in a debugging view. -/
def debugName : TransportKind → String
  | .http => "Http"
  | .driver => "Driver"

/-- The text before the first `://`, if there is one. -/
def scheme? (uri : String) : Option String :=
  match uri.splitOn "://" with
  | s :: _ :: _ => some s
  | _ => none

/-- The transport that a connection address asks for. -/
def ofUri (uri : String) : Except TxError TransportKind :=
  match scheme? uri with
  | none => .error (.unsupported ("Connection URI has no scheme: " ++ uri))
  | some s =>
    let s := Text.lower s
    if s = "http" ∨ s = "https" then .ok .http
    else if s = "bolt" ∨ s = "bolt+s" ∨ s = "bolt+ssc" ∨ s = "neo4j" ∨ s = "neo4j+s" ∨
        s = "neo4j+ssc" then .ok .driver
    else .error (.unsupported ("Unsupported connection scheme: " ++ s))

/-- Reads the name of a transport, in any case. -/
def parse (s : String) : Except String TransportKind :=
  let l := Text.lower s
  if l = "http" then .ok .http
  else if l = "driver" ∨ l = "bolt" then .ok .driver
  else .error ("Unknown transport: " ++ s ++ ". Valid options: http, driver")

end TransportKind

/-- A user name and password for basic authentication. -/
structure Credentials where
  username : String
  password : String
  deriving DecidableEq, Inhabited

/-- The database a scope uses when nothing names one. -/
def defaultDatabase : String := "neo4j"

/-- The agent name sent when the settings name none. -/
def defaultUserAgent : String := "graphtx/0.0.1"

/-- Settings for talking to one server. -/
structure Config where
  rootUri : String
  credentials : Option Credentials := none
  defaultDatabase : Option String := none
  userAgent : String := TxnCoord.defaultUserAgent
  useJsonStream : Bool := true
  keepAliveMs : Option Nat := none
  resourceManager : Uuid := default
  deriving DecidableEq, Inhabited

namespace Config

/-- Drops the slashes at the end of a text. -/
def trimSlashes (s : String) : String :=
  String.ofList (s.toList.reverse.dropWhile (· = '/')).reverse

/-- Settings for a root address with every other field at its default. -/
def new (rootUri : String) (rm : Uuid) : Config :=
  { rootUri := trimSlashes rootUri, resourceManager := rm }

/-- The transport that the root address asks for. -/
def transportKind (c : Config) : Except TxError TransportKind := TransportKind.ofUri c.rootUri

/-- Checks that the root address is there and names a known transport. -/
def validate (c : Config) : Except TxError Unit :=
  if c.rootUri.isEmpty then .error (.configuration "root_uri must not be empty")
  else do let _ ← c.transportKind

/-- The keep-alive interval in milliseconds, if keep-alive is on. -/
def keepAliveInterval (c : Config) : Option Nat :=
  match c.keepAliveMs with
  | some ms => if ms > 0 then some ms else none
  | none => none

/-- The database for a scope: the one it asks for, else the default of the settings,
else `neo4j`. -/
def databaseOrDefault (c : Config) (requested : Option String) : String :=
  match requested with
  | some d => d
  | none => c.defaultDatabase.getD TxnCoord.defaultDatabase

/-- Sets the keep-alive interval from a duration in milliseconds, at most the largest
64-bit number. -/
def withKeepAlive (c : Config) (ms : Nat) : Config :=
  { c with keepAliveMs := some (min ms (Nat.pow 2 64 - 1)) }

/-- The record shape of credentials. -/
def credentialsShape : Json.Shape :=
  .record "Credentials" [("username", .text, .required), ("password", .text, .required)]

/-- The record shape of settings, with the defaults of the fields that may be left out. -/
def shape : Json.Shape :=
  .record "ExecutionConfiguration" [
    ("root_uri", .text, .required),
    ("credentials", .opt credentialsShape, .fill .null),
    ("default_database", .opt .text, .fill .null),
    ("user_agent", .text, .fill (.str TxnCoord.defaultUserAgent)),
    ("use_json_stream", .flag, .fill (.bool true)),
    ("keep_alive_interval_ms", .opt .nat64, .fill .null),
    ("resource_manager_id", .uuid, .fill (.str (default : Uuid).render))]

/-- Settings from a decoded document in the record shape. -/
def ofDecoded (j : Json) : Config :=
  let str (k : String) := ((j.get? k).bind Json.str?).getD ""
  { rootUri := str "root_uri"
    credentials := (j.get? "credentials").bind fun c =>
      match c with
      | .obj _ => some ⟨((c.get? "username").bind Json.str?).getD "",
          ((c.get? "password").bind Json.str?).getD ""⟩
      | _ => none
    defaultDatabase := (j.get? "default_database").bind Json.str?
    userAgent := str "user_agent"
    useJsonStream := ((j.get? "use_json_stream").bind Json.bool?).getD true
    keepAliveMs := ((j.get? "keep_alive_interval_ms").bind Json.int?).map Int.toNat
    resourceManager :=
      match (j.get? "resource_manager_id").bind Json.str? with
      | some t => (Uuid.parse t).toOption.getD default
      | none => default }

/-- Reads settings from JSON text, drops the trailing slashes and validates them. -/
def ofJsonText (text : String) : Except TxError Config := do
  let j ← match shape.decodeText text with
    | .ok j => pure j
    | .error e => throw (.serialization e)
  let c := ofDecoded j
  let c := { c with rootUri := trimSlashes c.rootUri }
  c.validate
  pure c

/-- The settings as a JSON record, fields in declared order. -/
def toJson (c : Config) : Json :=
  .obj [
    ("root_uri", .str c.rootUri),
    ("credentials", match c.credentials with
      | some cr => .obj [("username", .str cr.username), ("password", .str cr.password)]
      | none => .null),
    ("default_database", Json.optStr c.defaultDatabase),
    ("user_agent", .str c.userAgent),
    ("use_json_stream", .bool c.useJsonStream),
    ("keep_alive_interval_ms", match c.keepAliveMs with
      | some n => .nat n
      | none => .null),
    ("resource_manager_id", .str c.resourceManager.render)]

/-- The settings as pretty JSON text. -/
def toJsonText (c : Config) : String := (c.toJson).pretty 0

/-- The variables that settings are read from. -/
structure Environment where
  uri : Option String
  user : Option String
  password : Option String
  database : Option String
  keepAliveMs : Option String

/-- Settings from the environment variables; a user without a password gets an empty one,
and a password without a user is ignored. -/
def ofEnvironment (env : Environment) (rm : Uuid) : Except TxError Config := do
  let uri ← match env.uri with
    | some u => pure u
    | none => throw (.configuration "GRAPHTX_URI is not set")
  let c := new uri rm
  let c := match env.user with
    | some u => { c with credentials := some ⟨u, env.password.getD ""⟩ }
    | none => c
  let c := match env.database with
    | some d => { c with defaultDatabase := some d }
    | none => c
  let c ← match env.keepAliveMs with
    | some v =>
      match Text.parseUnsigned 64 v with
      | .ok ms => pure { c with keepAliveMs := some ms }
      | .error e => throw (.configuration ("Invalid GRAPHTX_KEEP_ALIVE_MS '" ++ v ++ "': " ++ e.message))
    | none => pure c
  c.validate
  pure c

end Config

end TxnCoord
