import TxnCoord.Recovery.Recover
import TxnCoord.Simulation.Encode
/-!
# Labels

Identifiers in answers are replaced by short labels, so that answers do not depend on how
identifiers are drawn:

* handles are `t1`, `t2`, … in the order they were first shown;
* local units of work are `u1`, `u2`, … and host-driven ones `w1`, `w2`, …, in the order
  they were made;
* recorders are `r0`, `r1`, … in the order they were made;
* manager `i`'s resource manager is `rm<i>`;
* units of work named in requests keep the names they were given, and a name given first
  keeps its identity when a label of the same text is handed out later.

Recorders and units of work named in requests get identities the session makes up, in the
order they are made (`madeUpId`). In a text, every known identifier written in lower case is
replaced by its label, and then every other identifier in hyphenated form, in either case,
by `<uuid>`.
-/

namespace TxnCoord.Simulation

open Recovery

/-- The label of a handle, once it was shown. -/
def handleLabel (w : World) (h : Nat) : Option String :=
  (w.shown.findIdx? (· == h)).map fun k => "t" ++ toString (k + 1)

/-- Every identifier with a label, first match first: the names given in requests come
before the labels the session hands out. -/
def knownIds (w : World) : List (Uuid × String) :=
  w.named.map (fun (l, u) => (u, l)) ++
  (w.shown.filterMap fun h => (handleLabel w h).map fun l => ((w.handle h).id, l)) ++
  (List.range w.units.size).map (fun i => ((w.unit i).id, "u" ++ toString (i + 1))) ++
  (List.range w.manualUnits.size).map (fun i => ((w.manualUnit i).id, "w" ++ toString (i + 1))) ++
  (List.range w.recorders.size).map (fun i => ((w.recorder i).id, "r" ++ toString i)) ++
  (List.range w.managers.size).map (fun i =>
    ((w.manager i).config.resourceManager, "rm" ++ toString i))

/-- The label of an identifier, or `<uuid>`. -/
def idLabel (w : World) (u : Uuid) : String :=
  match (knownIds w).find? (·.1 == u) with
  | some (_, l) => l
  | none => Uuid.unlabelled

/-- The identifier a label stands for, if any. -/
def labelId? (w : World) (label : String) : Option Uuid :=
  ((knownIds w).find? (·.2 == label)).map (·.1)

/-- A text with every known identifier replaced by its label and every other by `<uuid>`. -/
def scrub (w : World) (s : String) : String := Uuid.relabel (knownIds w) s

/-- A failure as an answer, with identifiers replaced by labels. -/
def failureAnswer (w : World) (e : TxError) : Json := failureJson (knownIds w) e

/-- An outcome without a value as an answer. -/
def doneAnswer (w : World) : Except TxError Unit → Json
  | .ok () => .str "ok"
  | .error e => failureAnswer w e

/-- The `k`-th identity the session makes up; these sort above the resource managers' and
below the host-driven units'. -/
def madeUpId (k : Nat) : Uuid := Uuid.ofNat (0x3000 + k)

/-- Makes up the next identity. -/
def freshId : Step Uuid := do
  let k := (← Step.read).issued + 1
  Step.change fun w => { w with issued := k }
  pure (madeUpId k)

/-- A descriptor as an answer, with labels for its identifiers. -/
def descriptorAnswer (w : World) (d : Descriptor) : Json :=
  .obj [("rm", .str (idLabel w d.rm)), ("uow", .str (idLabel w d.uow)),
    ("transport", .str d.transport.render), ("server_version", .str d.version.render),
    ("database", .str d.database), ("location", Json.optStr d.location),
    ("root_uri", .str d.config.rootUri)]

/-- The identifier for a unit-of-work label of a request: the one it stands for, or a new
one kept under that name. -/
def namedId (label : String) : Step Uuid := do
  match labelId? (← Step.read) label with
  | some u => pure u
  | none =>
    let u ← freshId
    Step.change fun w => { w with named := w.named ++ [(label, u)] }
    pure u

end TxnCoord.Simulation
