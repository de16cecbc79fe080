import TxnCoord.Simulation.Steps
/-!
# Sessions

A session builds its managers from their descriptions, then runs its steps on a fresh
agenda whose clock starts at zero.

* A manager's settings are its `config` object, or the default one for its backend, with
  its resource manager identity filled in when missing, its keep-alive interval taken from
  the description, and its agent name filled in when missing. The object is then read as
  settings text.
* The server version is the one the description gives as text, unknown when it is null,
  and `5.13.0` otherwise.
* A manager needs a backend, and the backend must be the one its root address asks for.

The first manager that cannot be built is named in the answer and no step runs. Otherwise
the answer lists the managers' transports and one snapshot per step.
-/

namespace TxnCoord.Simulation

open Recovery

/-- The root address of a backend's default settings. -/
def defaultRoot (backend : String) : String :=
  if backend == "driver" then "bolt://localhost:7687" else "http://localhost:7474"

/-- The identity of manager `i` when its settings name none. -/
def defaultManagerId (i : Nat) : Uuid := Uuid.ofNat (0x1000 + i)

/-- The settings text of manager `i`'s description. -/
def configText (i : Nat) (spec : Json) : String :=
  let backend := (textArg spec "backend").getD "http"
  let base : Json.Fields := match spec.get? "config" with
    | some (.obj fs) => fs
    | _ => [("root_uri", .str (defaultRoot backend))]
  let fs := if (Json.Fields.lookup "resource_manager_id" base).isSome then base
    else base.insert "resource_manager_id" (.str (defaultManagerId i).render)
  let fs := fs.insert "keep_alive_interval_ms" ((spec.get? "keep_alive_ms").getD .null)
  let fs := if (Json.Fields.lookup "user_agent" fs).isSome then fs
    else fs.insert "user_agent" (.str defaultUserAgent)
  (Json.obj fs).compact

/-- A manager as its description asks for it, before it joins a run. -/
structure ManagerPlan where
  config : Config
  backend : TransportKind
  version : Option ServerVersion
  ambient : Bool
  shared : Bool

/-- Builds manager `i` from its description. -/
def planManager (i : Nat) (spec : Json) : Except TxError ManagerPlan := do
  let c ← Config.ofJsonText (configText i spec)
  let version ← match spec.get? "version" with
    | some (.str s) => some <$> ServerVersion.parse s
    | some .null => pure none
    | _ => pure (some ⟨5, 13, 0⟩)
  c.validate
  let backend ← match (textArg spec "backend").getD "http" with
    | "http" => pure TransportKind.http
    | "driver" => pure TransportKind.driver
    | _ => throw (.configuration "no HTTP transport or driver configured")
  let kind ← c.transportKind
  if kind != backend then
    throw (.configuration (c.rootUri ++ " uses the " ++ kind.render ++ " transport but a " ++
      backend.render ++ " backend was configured"))
  pure { config := c, backend, version, ambient := (flagArg spec "ambient").getD false
         shared := (flagArg spec "global_store").getD false }

/-- Builds every manager; the first failure names its manager. -/
def planAll (specs : List Json) : Except (Nat × TxError) (List ManagerPlan) :=
  (specs.zipIdx).mapM fun (spec, i) =>
    match planManager i spec with
    | .ok p => .ok p
    | .error e => .error (i, e)

/-- Adds a manager with its stack, its lock and its peers to a run. -/
def addManager (w : World) (p : ManagerPlan) : World :=
  let (ctx, w) := w.newContext
  let (lock, w) := w.newLock
  let mg : Manager :=
    { config := p.config, backend := p.backend, version := p.version, ambient := p.ambient
      shared := p.shared, detached := ctx, enlistLock := lock }
  { w with managers := w.managers.push mg, peers := w.peers.push {} }

/-- The expiry the default answers carry: the one given, a fixed day when none is given,
and none when the request gives something other than a text. -/
def expiresArg (req : Json) : Option String :=
  match req.get? "expires" with
  | some (.str s) => some s
  | some _ => none
  | none => some "Tue, 01 Jan 2030 00:00:00 GMT"

/-- Bounds every loop of a session's run. -/
def sessionFuel : Nat := 100000000

/-- Runs a session over the store shared by all runs; returns that store and the answer. -/
def sessionAnswer (shared : Ledger) (req : Json) : Ledger × Json :=
  let specs := ((req.get? "managers").bind Json.arr?).getD [.obj []]
  match planAll specs with
  | .error (i, e) =>
    (shared, .obj [("build", .obj [("manager", .nat i), ("error", .str e.kind),
      ("message", .str e.message)])])
  | .ok plans =>
    let w0 : World := { sharedLedger := shared, expires := expiresArg req,
                        manualMode := textArg req "coordinator" == some "manual",
                        fileMode := textArg req "store" == some "file" }
    let w := plans.foldl addManager w0
    let a := Agenda.runMain World.host sessionFuel w
      (Async.toFiber (runSession (((req.get? "steps").bind Json.arr?).getD [])))
    (a.state.sharedLedger, .obj [("build", .str "ok"),
      ("transports", .arr (plans.map fun p => .str p.backend.render)),
      ("steps", .arr a.state.replies.toList)])

end TxnCoord.Simulation
