import TxnCoord.Simulation.Labels
import TxnCoord.Text.Quoted
/-!
# What a session shows after each step

After each step a session shows the calls the peers saw, and for every manager the depth
and current transaction of code outside any task and the number of live enlistments. It
also shows every labelled handle, every scope the session made, the recovery store, and
the units of work.

The debugging views are the ones the types print. Identifiers in them are replaced by
labels, and the numbers of managers and scopes, which depend on everything that ran
before, become `#`.
-/

namespace TxnCoord.Simulation

open Recovery Manager

/-- A handle as a snapshot shows it. -/
def handleAnswer (w : World) (h : Nat) : Json :=
  let hd := w.handle h
  .obj [("tx", Json.optStr (handleLabel w h)), ("state", .str hd.state.render),
    ("open", .bool hd.isOpen), ("database", .str hd.database),
    ("transport", .str hd.transport.render), ("begun", .bool hd.isBegun),
    ("location", Json.optStr hd.location),
    ("expires_at", Json.optStr (hd.expiresAt.map Time.Instant.render)),
    ("pending", .nat hd.pending)]

/-- A scope as a snapshot shows it. -/
def slotAnswer (w : World) : Option Slot → Json
  | some s =>
    let r := w.record s.record
    .obj [("m", .nat s.manager), ("open", .bool (scopeIsOpen w s.record)), ("owner", .bool r.owner),
      ("enlisted", .bool r.enlisted)]
  | none => .null

/-- A local unit of work as a snapshot shows it. -/
def localUnitAnswer (w : World) (i : Nat) : Json :=
  let label := Json.str ("u" ++ toString (i + 1))
  if w.unitAlive (.local i) then
    let u := w.unit i
    .obj [("unit", label), ("current", .bool (w.current == some i)),
      ("outcome", Json.optStr (u.outcome.map Outcome.debugName)), ("doomed", .bool u.doomed),
      ("participants", .nat u.parties.length)]
  else .obj [("unit", label), ("released", .bool true)]

/-- A host-driven unit of work as a snapshot shows it. -/
def manualAnswer (w : World) (i : Nat) : Json :=
  let label := Json.str ("w" ++ toString (i + 1))
  if w.unitAlive (.manual i) then
    .obj [("unit", label), ("current", .bool (w.manualCurrent == some i)),
      ("participants", .nat (w.manualUnit i).parties.length)]
  else .obj [("unit", label), ("released", .bool true)]

/-- Puts a descriptor in its place by unit-of-work identifier. -/
def insertByUow (d : Descriptor) : List Descriptor → List Descriptor
  | [] => [d]
  | e :: rest => if d.uow.value < e.uow.value then d :: e :: rest else e :: insertByUow d rest

/-- The descriptors of the session's store as a snapshot shows them: in store order, or,
for a store of files, manager by manager in identifier order. -/
def storeAnswer (w : World) : List Json :=
  let ds := if w.fileMode then
      (List.range w.managers.size).flatMap fun m =>
        if (w.manager m).shared then []
        else (w.ledger.list (w.manager m).config.resourceManager).foldr insertByUow []
    else w.ledger.entries
  ds.map (descriptorAnswer w)

/-- Labels the current transaction of each manager, for code outside any task. -/
def currentHandles (w : World) : List (Option Nat) :=
  (List.range w.managers.size).map fun m => currentOf w (w.manager m).detached

/-- Gives labels to handles not yet shown. -/
def showHandles (hs : List Nat) : Step Unit :=
  Step.change fun w => { w with shown := hs.foldl (fun acc h =>
    if acc.contains h then acc else acc ++ [h]) w.shown }

/-- The snapshot after a step with its result; takes the log. -/
def snapshot (result : Json) : Step Json := do
  showHandles ((currentHandles (← Step.read)).filterMap id)
  let w ← Step.read
  Step.change fun w => { w with log := #[] }
  let managers := List.range w.managers.size
  let fields : List (String × Json) := [("result", result), ("log", .arr w.log.toList),
    ("depth", .arr (managers.map fun m => .nat (w.context (w.manager m).detached).records.length)),
    ("current", .arr ((currentHandles w).map fun h => Json.optStr (h.bind (handleLabel w)))),
    ("enlistments", .arr (managers.map fun m => .nat (liveCount w m))),
    ("txs", .arr (w.shown.map (handleAnswer w))),
    ("scopes", .arr (w.slots.toList.map (slotAnswer w))),
    ("store", .arr (storeAnswer w)),
    ("units", .arr ((List.range w.units.size).map (localUnitAnswer w)))]
  let manual : List (String × Json) :=
    if w.manualMode then [("manual_units", .arr ((List.range w.manualUnits.size).map (manualAnswer w)))]
    else []
  pure (.obj (fields ++ manual))

/-- Replaces the number after every `id: ` by `#`; its digits may be of any script. -/
def hashIds : List Char → List Char
  | [] => []
  | 'i' :: 'd' :: ':' :: ' ' :: rest =>
    if (rest.head?.map Text.isDecimalDigit).getD false then
      'i' :: 'd' :: ':' :: ' ' :: '#' :: hashIds (rest.dropWhile Text.isDecimalDigit)
    else 'i' :: 'd' :: ':' :: ' ' :: hashIds rest
  | c :: rest => c :: hashIds rest
termination_by cs => cs.length
decreasing_by
  all_goals simp only [List.length_cons]
  all_goals first
    | omega
    | (have h : (rest.dropWhile Text.isDecimalDigit).length ≤ rest.length :=
        (List.dropWhile_suffix Text.isDecimalDigit).length_le
       omega)

/-- The debugging view of a server version. -/
def versionDebug (v : ServerVersion) : String :=
  "ServerVersion \x7b major: " ++ toString v.major ++ ", minor: " ++ toString v.minor ++
    ", patch: " ++ toString v.patch ++ " \x7d"

/-- The debugging view of a manager. -/
def managerDebug (w : World) (m : Nat) : String :=
  let mg := w.manager m
  "TransactionManager \x7b id: " ++ toString (m + 1) ++ ", root_uri: " ++ Text.debugQuote mg.config.rootUri ++
    ", transport: " ++ mg.backend.debugName ++ ", server_version: " ++
    (match mg.version with
      | some v => "Some(" ++ versionDebug v ++ ")"
      | none => "None") ++ " \x7d"

/-- The debugging view of a handle. -/
def handleDebug (w : World) (h : Nat) : String :=
  let hd := w.handle h
  "TransactionHandle \x7b id: " ++ hd.id.render ++ ", transport: " ++ hd.transport.debugName ++
    ", database: " ++ Text.debugQuote hd.database ++ ", state: " ++ hd.state.debugName ++ " \x7d"

/-- The debugging view of a scope. -/
def scopeDebug (w : World) (r : Nat) : String :=
  let sr := w.record r
  "ScopeHandle \x7b id: " ++ toString sr.serial ++ ", option: " ++ sr.option.debugName ++ ", owner: " ++
    toString sr.owner ++ ", transaction: " ++
    (match sr.handle with
      | some h => "Some(" ++ handleDebug w h ++ ")"
      | none => "None") ++ " \x7d"

/-- A debugging view as an answer: identifiers labelled and counters hidden. -/
def debugText (w : World) (s : String) : Json := .str (String.ofList (hashIds (scrub w s).toList))

/-- The answer of a `debug` step, with the stacks seen by the running code. -/
def debugAnswer : Step Json := do
  let n := (← Step.read).managers.size
  let contexts ← (List.range n).mapM fun m => do
    let ctx ← contextOf m
    pure ("TransactionContext \x7b depth: " ++ toString ((← Step.read).context ctx).records.length ++ " \x7d")
  let w ← Step.read
  let first := 1
  pure (.obj [
    ("managers", .arr ((List.range n).map fun m => debugText w (managerDebug w m))),
    ("contexts", .arr (contexts.map (debugText w))),
    ("scopes", .arr (w.slots.toList.map fun
      | some s => .obj [("debug", debugText w (scopeDebug w s.record)),
          ("id", .nat ((w.record s.record).serial - first))]
      | none => .null)),
    ("txs", .arr (w.shown.map fun h => debugText w (handleDebug w h)))])

end TxnCoord.Simulation
