import TxnCoord.Simulation.Session
import TxnCoord.Recovery.Files
import TxnCoord.Recovery.Memory
/-!
# The stores on their own

Requests that drive a recovery store directly, outside any session.

* `memstore` drives the in-memory store. Each step answers with its result and the number
  of descriptors kept.
* `filestore` opens a store of files in an empty directory, or where a plain file stands
  in its way, and drives it. Some steps act on the files directly, as another process
  might: writing a file, making a directory or putting a file where a manager's directory
  belongs answer whether it worked, and reading a descriptor's file answers its text or
  null.

Resource manager `n` and unit of work `n` have the identifiers `0x1000 + n` and
`0x2000 + n`, with `n` taken modulo 64. Lists are answered in identifier order.
-/

namespace TxnCoord.Simulation

open Recovery

/-- The identity of resource manager `n` of a store request. -/
def storeRm (n : Nat) : Uuid := Uuid.ofNat (0x1000 + n % 64)

/-- The identity of unit of work `n` of a store request. -/
def storeUow (n : Nat) : Uuid := Uuid.ofNat (0x2000 + n % 64)

/-- The label of an identifier of a store request: `rm<n>` for resource manager `n`, `u<n>`
for unit of work `n`, `<uuid>` for any other. -/
def storeLabel (u : Uuid) : String :=
  if 0x1000 ≤ u.value ∧ u.value < 0x1040 then "rm" ++ toString (u.value - 0x1000)
  else if 0x2000 ≤ u.value ∧ u.value < 0x2040 then "u" ++ toString (u.value - 0x2000)
  else "<uuid>"

/-- Every identifier a store request can name, with its label. -/
def storeIds : List (Uuid × String) :=
  (List.range 64).map (fun n => (storeRm n, "rm" ++ toString n)) ++
    (List.range 64).map (fun n => (storeUow n, "u" ++ toString n))

/-- A descriptor of a store request, as a store request answers it. -/
def storeDescriptorAnswer (d : Descriptor) : Json :=
  .obj [("rm", .str (storeLabel d.rm)), ("uow", .str (storeLabel d.uow)),
    ("transport", .str d.transport.render), ("server_version", .str d.version.render),
    ("database", .str d.database), ("location", Json.optStr d.location),
    ("root_uri", .str d.config.rootUri)]

/-- The descriptor a store request saves. -/
def storeDescriptor (step : Json) : Descriptor :=
  let rm := storeRm ((natArg step "rm").getD 0)
  { rm, uow := storeUow ((natArg step "uow").getD 0), config := Config.new "http://localhost:7474" rm,
    transport := .http, version := ⟨4, 4, 0⟩, database := (textArg step "database").getD defaultDatabase,
    location := textArg step "location", recordedAt := Ambient.stamp }

/-- Runs one step on the in-memory store. -/
def memstoreStep (l : MemStore) (step : Json) : MemStore × Json :=
  let rm := storeRm ((natArg step "rm").getD 0)
  let uow := storeUow ((natArg step "uow").getD 0)
  let (l, result) : MemStore × Json := match (textArg step "do").getD "" with
    | "save" => (l.save (storeDescriptor step), .str "ok")
    | "load" => (l, ((l.load rm uow).map storeDescriptorAnswer).getD .null)
    | "list" => (l, .arr (((l.list rm).foldr Simulation.insertByUow []).map storeDescriptorAnswer))
    | "remove" => let (b, l) := l.remove rm uow; (l, .bool b)
    | op => (l, usageError ("unknown step: " ++ op))
  (l, .obj [("result", result), ("len", .nat l.size), ("is_empty", .bool (l.size == 0))])

/-- Answers `memstore`. -/
def memstoreAnswer (req : Json) : Json :=
  let steps := ((req.get? "steps").bind Json.arr?).getD []
  let (_, out) := steps.foldl (fun (acc : MemStore × List Json) s =>
    let (l, j) := memstoreStep acc.1 s
    (l, acc.2 ++ [j])) ({}, [])
  .arr out

/-- The descriptor a file store request saves: settings for its root address, or the default
one, and its transport, version, database and location. A version that does not read is
`4.4.0`, like a missing one. -/
def fileDescriptor (step : Json) : Descriptor :=
  let version := ((ServerVersion.parse ((textArg step "version").getD "4.4.0")).toOption).getD ⟨4, 4, 0⟩
  let rm := storeRm ((natArg step "rm").getD 0)
  { rm, uow := storeUow ((natArg step "uow").getD 0)
    config := Config.new ((textArg step "root_uri").getD "http://localhost:7474") rm
    transport := if textArg step "transport" == some "driver" then .driver else .http
    version, database := (textArg step "database").getD defaultDatabase
    location := textArg step "location", recordedAt := Ambient.stamp }

/-- The directory of the file store. -/
def storeDir : Path := ["store"]

/-- An outcome of a file store step: a changed tree and an answer, or a failure. -/
def fileOutcome (t : FileTree) : Except TxError (FileTree × Json) → FileTree × Json
  | .ok r => r
  | .error e => (t, failureJson storeIds e)

/-- A change made directly to the files: the tree it leaves, and whether it worked. -/
def tried (t : FileTree) (r : FsRun Unit) : FileTree × Json :=
  let (res, t') := r.apply t
  (t', .bool res.toBool)

/-- Runs one step on the file store. -/
def filestoreStep (t : FileTree) (step : Json) : FileTree × Json :=
  let s : FileStore := ⟨storeDir⟩
  let rm := storeRm ((natArg step "rm").getD 0)
  let uow := storeUow ((natArg step "uow").getD 0)
  let name := (textArg step "name").getD ""
  match (textArg step "do").getD "" with
  | "save" =>
    match (s.save (fileDescriptor step)).apply t with
    | (.ok (), t') => (t', .str "ok")
    | (.error e, t') => (t', failureJson storeIds (ioFailure e))
  | "load" => fileOutcome t do pure (t, ((← s.load t rm uow).map storeDescriptorAnswer).getD .null)
  | "list" =>
    fileOutcome t do pure (t, .arr (((← s.list t rm).foldr insertByUow []).map storeDescriptorAnswer))
  | "remove" =>
    fileOutcome t do
      let (b, t) ← s.remove t rm uow
      pure (t, .bool b)
  | "write_raw" =>
    tried t do
      FsRun.change (·.createDirAll (s.managerDir rm))
      FsRun.change (·.writeAt (s.managerDir rm) name ((textArg step "text").getD ""))
  | "mkdir" =>
    tried t do
      FsRun.change (·.createDirAll (s.managerDir rm))
      FsRun.makePath (s.managerDir rm) (name.splitOn "/")
  | "block_rm" => tried t (FsRun.change (·.write (s.managerDir rm) ""))
  | "read_raw" => (t, Json.optStr (t.read (s.path rm uow)).toOption)
  | op => (t, usageError ("unknown step: " ++ op))

/-- Answers `filestore`. -/
def filestoreAnswer (req : Json) : Json :=
  let start : FileTree :=
    if (flagArg req "dir_is_file").getD false then ⟨[(storeDir, .file "")]⟩ else {}
  match FileStore.open start storeDir with
  | .error e => .obj [("open", failureJson storeIds e)]
  | .ok t =>
    let steps := ((req.get? "steps").bind Json.arr?).getD []
    let (_, out) := steps.foldl (fun (acc : FileTree × List Json) st =>
      let (t, j) := filestoreStep acc.1 st
      (t, acc.2 ++ [j])) (t, [])
    .obj [("open", .str "ok"), ("steps", .arr out)]

end TxnCoord.Simulation
