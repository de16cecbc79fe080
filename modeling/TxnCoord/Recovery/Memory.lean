import TxnCoord.Recovery.Descriptor
/-!
# Descriptors in memory

The process-local store keeps its descriptors in two levels of maps: from resource manager
to a map from unit of work to descriptor. A map here is a list of entries, one per key;
setting a key that is there replaces its value in place, and a new key goes at the end, so a
map is walked in the order its keys first came.

* Saving puts the descriptor in the map of its resource manager, which starts empty if the
  manager has none yet.
* Removing a key takes it out of its manager's map and drops that map once it is empty; the
  answer says whether the key was there.
* Listing a manager gives the values of its map; the number of descriptors is the sum of
  the sizes of the inner maps.
-/

namespace TxnCoord.Recovery

/-- Sets the value of a key: in place if the key is there, otherwise as a new last entry. -/
def setKey {β : Type} (k : Uuid) (v : β) : List (Uuid × β) → List (Uuid × β)
  | [] => [(k, v)]
  | (k', v') :: rest => if k' = k then (k, v) :: rest else (k', v') :: setKey k v rest

/-- Takes the entry of a key out. -/
def dropKey {β : Type} (k : Uuid) (l : List (Uuid × β)) : List (Uuid × β) :=
  l.filter fun e => e.1 != k

/-- Descriptors by resource manager, then by unit of work. -/
structure MemStore where
  entries : List (Uuid × List (Uuid × Descriptor)) := []

namespace MemStore

/-- Records a descriptor under its resource manager and unit of work. -/
def save (s : MemStore) (d : Descriptor) : MemStore :=
  ⟨setKey d.rm (setKey d.uow d ((s.entries.lookup d.rm).getD [])) s.entries⟩

/-- The descriptor of a key. -/
def load (s : MemStore) (rm uow : Uuid) : Option Descriptor :=
  (s.entries.lookup rm).bind fun byUow => byUow.lookup uow

/-- The descriptors of a resource manager. -/
def list (s : MemStore) (rm : Uuid) : List Descriptor :=
  ((s.entries.lookup rm).map fun byUow => byUow.map Prod.snd).getD []

/-- Removes the descriptor of a key; says whether there was one. A resource manager whose
map becomes empty is dropped. -/
def remove (s : MemStore) (rm uow : Uuid) : Bool × MemStore :=
  match s.entries.lookup rm with
  | none => (false, s)
  | some byUow =>
    let removed := (byUow.lookup uow).isSome
    let rest := dropKey uow byUow
    if rest.isEmpty then (removed, ⟨dropKey rm s.entries⟩)
    else (removed, ⟨setKey rm rest s.entries⟩)

/-- The number of descriptors: the sizes of the inner maps added up. -/
def size (s : MemStore) : Nat := (s.entries.map fun e => e.2.length).foldr (· + ·) 0

end MemStore

end TxnCoord.Recovery
