import TxnCoord.Recovery.Descriptor
import TxnCoord.Json.Decode
/-!
# Descriptors in files

A store that keeps each descriptor in a file of its own:
`<dir>/<resource manager>/<unit of work>.json`, in pretty JSON.

The files live in a `FileTree`, a model of a directory tree with the failures of a POSIX
file system:

* a path whose parent does not exist fails with "No such file or directory";
* a path through a file fails with "Not a directory";
* making something where something already is fails with "File exists";
* reading, writing or unlinking a directory fails with "Is a directory".

A directory lists its entries in the order they were made. A name given relative to a
directory is split into parts at `/`, and `.` and `..` are followed as POSIX follows them.

* Opening the store makes its directory and every directory above it.
* Saving writes a temporary file next to the descriptor's and renames it over the
  descriptor's, so a reader never sees half a file. A change made before a failure stays
  made (`FsRun`), so a failed rename leaves the temporary file behind.
* Loading a missing descriptor gives none, and removing one gives false. Listing a manager
  that has no directory gives nothing; otherwise every `*.json` entry is read.
* A file system failure is a coordination failure, and a file that does not hold a
  descriptor is a serialization failure.
-/

namespace TxnCoord.Recovery

/-- A failure of the file system. -/
inductive FsError where
  | notFound
  | alreadyExists
  | notADirectory
  | isADirectory
  deriving DecidableEq, Repr

/-- The text of a file system failure. -/
def FsError.message : FsError → String
  | .notFound => "No such file or directory (os error 2)"
  | .alreadyExists => "File exists (os error 17)"
  | .notADirectory => "Not a directory (os error 20)"
  | .isADirectory => "Is a directory (os error 21)"

/-- What stands at a path. -/
inductive Entry where
  | file (text : String)
  | dir
  deriving DecidableEq, Repr

/-- A path: the names from the root down. -/
abbrev Path := List String

/-- A directory tree: every path that exists below the root, in the order it was made. -/
structure FileTree where
  entries : List (Path × Entry) := []

namespace FileTree

/-- What stands at a path; the root is a directory. -/
def get? (t : FileTree) (p : Path) : Option Entry :=
  if p.isEmpty then some .dir else t.entries.lookup p

/-- Whether a path is a directory. -/
def isDir (t : FileTree) (p : Path) : Bool := t.get? p == some .dir

/-- Checks that every directory above a path exists, from the root down. -/
def checkParents (t : FileTree) (p : Path) : Except FsError Unit :=
  ((List.range (p.length - 1)).map fun i => p.take (i + 1)).forM fun q =>
    match t.get? q with
    | some .dir => .ok ()
    | some (.file _) => .error .notADirectory
    | none => .error .notFound

/-- Makes one directory. -/
def mkdir (t : FileTree) (p : Path) : Except FsError FileTree := do
  t.checkParents p
  match t.get? p with
  | some _ => throw .alreadyExists
  | none => pure { entries := t.entries ++ [(p, .dir)] }

/-- Makes a directory and the missing ones above it. -/
def createDirAll (t : FileTree) (p : Path) : Except FsError FileTree :=
  if p.isEmpty then .ok t
  else
    match t.mkdir p with
    | .ok t' => .ok t'
    | .error .notFound => do
      let t ← t.createDirAll p.dropLast
      match t.mkdir p with
      | .ok t' => pure t'
      | .error e => if t.isDir p then pure t else throw e
    | .error e => if t.isDir p then .ok t else .error e
termination_by p.length
decreasing_by
  simp only [List.length_dropLast]
  have : p ≠ [] := by simpa using ‹¬p.isEmpty = true›
  have : 0 < p.length := List.length_pos_iff.mpr this
  omega

/-- Replaces what stands at a path, keeping its place. -/
def replace (t : FileTree) (p : Path) (e : Entry) : FileTree :=
  { entries := t.entries.map fun (q, x) => if q == p then (q, e) else (q, x) }

/-- Writes a file, making it or truncating it. -/
def write (t : FileTree) (p : Path) (text : String) : Except FsError FileTree := do
  t.checkParents p
  match t.get? p with
  | some .dir => throw .isADirectory
  | some (.file _) => pure (t.replace p (.file text))
  | none => pure { entries := t.entries ++ [(p, .file text)] }

/-- Reads a file. -/
def read (t : FileTree) (p : Path) : Except FsError String := do
  t.checkParents p
  match t.get? p with
  | some .dir => throw .isADirectory
  | some (.file text) => pure text
  | none => throw .notFound

/-- Unlinks a file. -/
def removeFile (t : FileTree) (p : Path) : Except FsError FileTree := do
  t.checkParents p
  match t.get? p with
  | some .dir => throw .isADirectory
  | some (.file _) => pure { entries := t.entries.filter (·.1 != p) }
  | none => throw .notFound

/-- Renames a file over another path, replacing a file there. -/
def rename (t : FileTree) (src dst : Path) : Except FsError FileTree := do
  t.checkParents src
  let text ← match t.get? src with
    | some (.file text) => pure text
    | some .dir => throw .isADirectory
    | none => throw .notFound
  t.checkParents dst
  match t.get? dst with
  | some .dir => throw .isADirectory
  | some (.file _) => pure (FileTree.replace ⟨t.entries.filter (·.1 != src)⟩ dst (.file text))
  | none => pure { entries := t.entries.map fun (q, x) => if q == src then (dst, x) else (q, x) }

/-- The names in a directory, in the order they were made. -/
def readDir (t : FileTree) (p : Path) : Except FsError (List String) := do
  t.checkParents p
  match t.get? p with
  | some .dir =>
    pure (t.entries.filterMap fun (q, _) =>
      if q.length == p.length + 1 && q.take p.length == p then q.getLast? else none)
  | some (.file _) => throw .notADirectory
  | none => throw .notFound

/-- The path that the parts of a relative name lead to from a directory. An empty part and
`.` stay where they are and `..` goes up, and both need the place they stand on to be a
directory; a named part goes down into it. -/
def follow (t : FileTree) (base : Path) : List String → Except FsError Path
  | [] => .ok base
  | p :: rest =>
    if p == "" || p == "." || p == ".." then
      match t.get? base with
      | some .dir => t.follow (if p == ".." then base.dropLast else base) rest
      | some (.file _) => .error .notADirectory
      | none => .error .notFound
    else t.follow (base ++ [p]) rest

/-- Writes a file at a name relative to a directory. A name that ends in a directory part
(empty, `.` or `..`) names a directory, which cannot be written. -/
def writeAt (t : FileTree) (dir : Path) (name : String) (text : String) :
    Except FsError FileTree := do
  let parts := name.splitOn "/"
  let last := parts.getLast?.getD ""
  let parent ← t.follow dir parts.dropLast
  if last == "" || last == "." || last == ".." then
    match t.get? (← t.follow parent [last]) with
    | some .dir => throw .isADirectory
    | some (.file _) => throw .notADirectory
    | none => throw .notFound
  else t.write (parent ++ [last]) text

end FileTree

/-- A run of file operations: each change stays made when a later one fails, as on a disk. -/
abbrev FsRun := ExceptT FsError (StateM FileTree)

namespace FsRun

/-- Makes one change to the tree, or fails with the tree as it was. -/
def change (f : FileTree → Except FsError FileTree) : FsRun Unit := do
  match f (← get) with
  | .ok t => set t
  | .error e => throw e

/-- Runs file operations on a tree: their outcome and the tree they leave. -/
def apply {α : Type} (r : FsRun α) (t : FileTree) : Except FsError α × FileTree := (r.run).run t

/-- Makes the directories that a name relative to an existing directory passes through,
each one that is missing; `.` and empty parts stay and `..` goes up. Directories made before
a failure stay. -/
def makePath (base : Path) : List String → FsRun Unit
  | [] => pure ()
  | p :: rest =>
    if p == "" || p == "." then makePath base rest
    else if p == ".." then makePath base.dropLast rest
    else do
      let here := base ++ [p]
      if !(← get).isDir here then change (·.mkdir here)
      makePath here rest

end FsRun

/-- The extension of a file name: the text after its last dot, unless that dot starts the
name. The name is cut at every dot. -/
def extension (name : String) : Option String :=
  if name == ".." then none
  else
    match (name.toList.splitOn '.').map String.ofList with
    | [] | [_] => none
    | parts =>
      if parts.dropLast == [""] then none else parts.getLast?

/-- The record shape of a stored descriptor. -/
def descriptorShape : Json.Shape :=
  .record "RecoveryDescriptor" [
    ("resource_manager_id", .uuid, .required),
    ("unit_of_work_id", .uuid, .required),
    ("configuration", Config.shape, .required),
    ("transport", .choice "TransportKind" ["Http", "Driver"], .required),
    ("server_version", .record "ServerVersion"
      [("major", .nat32, .required), ("minor", .nat32, .required), ("patch", .nat32, .required)],
      .required),
    ("database", .text, .required),
    ("location", .opt .text, .required),
    ("recorded_at", .stamp, .required)]

/-- A descriptor from a decoded record. -/
def Descriptor.ofDecoded (j : Json) : Descriptor :=
  let str (k : String) := ((j.get? k).bind Json.str?).getD ""
  let uuid (k : String) := ((Uuid.parse (str k)).toOption).getD default
  let v := (j.get? "server_version").getD .null
  let num (k : String) := (((v.get? k).bind Json.int?).getD 0).toNat
  { rm := uuid "resource_manager_id", uow := uuid "unit_of_work_id"
    config := Config.ofDecoded ((j.get? "configuration").getD .null)
    transport := if str "transport" == "Driver" then .driver else .http
    version := ⟨num "major", num "minor", num "patch"⟩
    database := str "database", location := (j.get? "location").bind Json.str?
    recordedAt := ((Time.Rfc3339.parse (str "recorded_at")).toOption).getD ⟨0, 0, false⟩ }

/-- The text of a descriptor file. -/
def Descriptor.fileText (d : Descriptor) : String := d.toJson.pretty 0

/-- Reads a descriptor file. -/
def Descriptor.ofFileText (text : String) : Except TxError Descriptor :=
  match descriptorShape.decodeText text with
  | .ok j => .ok (Descriptor.ofDecoded j)
  | .error e => .error (.serialization e)

/-- A file system failure as a coordination failure. -/
def ioFailure (e : FsError) : TxError := TxError.io e.message

/-- Lifts a file system step into the store's failures. -/
def io {α : Type} : Except FsError α → Except TxError α
  | .ok a => .ok a
  | .error e => .error (ioFailure e)

/-- A store of descriptor files under a directory. -/
structure FileStore where
  dir : Path

namespace FileStore

/-- The directory of a resource manager. -/
def managerDir (s : FileStore) (rm : Uuid) : Path := s.dir ++ [rm.render]

/-- The file of a descriptor. -/
def path (s : FileStore) (rm uow : Uuid) : Path := s.managerDir rm ++ [uow.render ++ ".json"]

/-- The temporary file a descriptor is written to first. -/
def tempPath (s : FileStore) (rm uow : Uuid) : Path := s.managerDir rm ++ [uow.render ++ ".json.tmp"]

/-- Opens the store, making its directory. -/
def «open» (t : FileTree) (dir : Path) : Except TxError FileTree := io (t.createDirAll dir)

/-- Saves a descriptor. When the rename fails, the temporary file stays. -/
def save (s : FileStore) (d : Descriptor) : FsRun Unit := do
  FsRun.change (·.createDirAll (s.managerDir d.rm))
  FsRun.change (·.write (s.tempPath d.rm d.uow) d.fileText)
  FsRun.change (·.rename (s.tempPath d.rm d.uow) (s.path d.rm d.uow))

/-- Loads a descriptor; none when its file does not exist. -/
def load (s : FileStore) (t : FileTree) (rm uow : Uuid) : Except TxError (Option Descriptor) :=
  match t.read (s.path rm uow) with
  | .ok text => (Descriptor.ofFileText text).map some
  | .error .notFound => .ok none
  | .error e => .error (ioFailure e)

/-- Reads the descriptor files of a directory's entries, in order. -/
def readAll (t : FileTree) (dir : Path) : List String → Except TxError (List Descriptor)
  | [] => .ok []
  | name :: rest =>
    if extension name == some "json" then do
      let text ← io (t.read (dir ++ [name]))
      let d ← Descriptor.ofFileText text
      let more ← readAll t dir rest
      pure (d :: more)
    else readAll t dir rest

/-- Lists a resource manager's descriptors, in directory order. -/
def list (s : FileStore) (t : FileTree) (rm : Uuid) : Except TxError (List Descriptor) :=
  match t.readDir (s.managerDir rm) with
  | .ok names => readAll t (s.managerDir rm) names
  | .error .notFound => .ok []
  | .error e => .error (ioFailure e)

/-- Removes a descriptor; says whether its file existed. -/
def remove (s : FileStore) (t : FileTree) (rm uow : Uuid) : Except TxError (Bool × FileTree) :=
  match t.removeFile (s.path rm uow) with
  | .ok t' => .ok (true, t')
  | .error .notFound => .ok (false, t)
  | .error e => .error (ioFailure e)

end FileStore

end TxnCoord.Recovery
