import TxnCoord.Config
import TxnCoord.Version
import TxnCoord.Time.Calendar
/-!
# Recovery descriptors

A descriptor records, for one resource manager and one unit of work, everything needed to
finish a transaction after a crash: the settings, the transport, the server version, the
database, the location of the transaction on the server if it has begun, and when the
record was made.

Descriptors are kept in a `Ledger`: a finite map from (resource manager, unit of work) to
descriptor that remembers the order in which keys first came. Saving a key that is there
replaces its descriptor in place.

Main statements:

    (l.save d).load d.rm d.uow = some d                          (load_save)
    (l.remove rm u).2.load rm u = none                           (load_remove)
    (l.remove rm u).1 = (l.load rm u).isSome                     (remove_fst)
-/

namespace TxnCoord.Recovery

/-- What is needed to finish one unit of work's transaction on one server. -/
structure Descriptor where
  rm : Uuid
  uow : Uuid
  config : Config
  transport : TransportKind
  version : ServerVersion
  database : String
  location : Option String
  recordedAt : Time.Instant
  deriving DecidableEq

namespace Descriptor

/-- Whether a descriptor is the one of a key. -/
def isFor (rm uow : Uuid) (d : Descriptor) : Bool := d.rm == rm && d.uow == uow

/-- The instant written with a `Z` for UTC, as descriptors record it. -/
def renderStamp (t : Time.Instant) : String :=
  let s := t.render
  String.ofList (s.toList.take (s.length - 6)) ++ "Z"

/-- The descriptor as a JSON record, fields in declared order. -/
def toJson (d : Descriptor) : Json :=
  .obj [("resource_manager_id", .str d.rm.render),
    ("unit_of_work_id", .str d.uow.render),
    ("configuration", d.config.toJson),
    ("transport", .str d.transport.debugName),
    ("server_version", .obj [("major", .nat d.version.major), ("minor", .nat d.version.minor),
      ("patch", .nat d.version.patch)]),
    ("database", .str d.database),
    ("location", Json.optStr d.location),
    ("recorded_at", .str (renderStamp d.recordedAt))]

end Descriptor

/-- Descriptors by key, in the order their keys first came. -/
structure Ledger where
  entries : List Descriptor := []
  deriving Inhabited

namespace Ledger

/-- Records a descriptor, replacing the one of the same key in place. -/
def save (l : Ledger) (d : Descriptor) : Ledger :=
  if l.entries.any (Descriptor.isFor d.rm d.uow) then
    ⟨l.entries.map fun e => if e.isFor d.rm d.uow then d else e⟩
  else ⟨l.entries ++ [d]⟩

/-- The descriptor of a key. -/
def load (l : Ledger) (rm uow : Uuid) : Option Descriptor := l.entries.find? (Descriptor.isFor rm uow)

/-- The descriptors of a resource manager, in order. -/
def list (l : Ledger) (rm : Uuid) : List Descriptor := l.entries.filter (·.rm == rm)

/-- Removes the descriptor of a key; says whether there was one. -/
def remove (l : Ledger) (rm uow : Uuid) : Bool × Ledger :=
  (l.entries.any (Descriptor.isFor rm uow), ⟨l.entries.filter fun e => !e.isFor rm uow⟩)

/-- The number of descriptors. -/
def size (l : Ledger) : Nat := l.entries.length

theorem find_map_replace (d : Descriptor) (es : List Descriptor)
    (h : es.any (Descriptor.isFor d.rm d.uow) = true) :
    (es.map fun e => if e.isFor d.rm d.uow then d else e).find? (Descriptor.isFor d.rm d.uow) =
      some d := by
  induction es with
  | nil => simp at h
  | cons e rest ih =>
    by_cases he : e.isFor d.rm d.uow = true
    · rw [List.map_cons, List.find?_cons]
      have hd : Descriptor.isFor d.rm d.uow d = true := by simp [Descriptor.isFor]
      simp only [he, if_true, hd]
    · simp only [List.any_cons, he, Bool.false_or] at h
      simp [he, ih h]

theorem load_save (l : Ledger) (d : Descriptor) : (l.save d).load d.rm d.uow = some d := by
  unfold save load
  split
  · exact find_map_replace d l.entries (by assumption)
  · rename_i h
    simp only [Bool.not_eq_true, List.any_eq_false] at h
    rw [List.find?_append]
    have : l.entries.find? (Descriptor.isFor d.rm d.uow) = none := by
      rw [List.find?_eq_none]
      intro x hx
      simpa using h x hx
    simp [this, Descriptor.isFor]

theorem load_remove (l : Ledger) (rm uow : Uuid) : (l.remove rm uow).2.load rm uow = none := by
  simp [remove, load, List.find?_eq_none]

theorem remove_fst (l : Ledger) (rm uow : Uuid) :
    (l.remove rm uow).1 = (l.load rm uow).isSome := by
  simp only [remove, load]
  rw [Bool.eq_iff_iff, List.any_eq_true, List.find?_isSome]

end Ledger

end TxnCoord.Recovery
