import Mathlib.Data.Finmap
import TxnCoord.Recovery.Memory
/-!
# The in-memory store is a finite map

A recovery store stands for a finite map from (resource manager, unit of work) to
descriptor (`DescriptorMap`). A save sets the descriptor's own key and a removal deletes a
key (`StoreUpdate.onMap`).

The in-memory store keeps the map in two levels. It stays well formed (`MemStore.Wf`): one
entry per resource manager, one per unit of work inside it, and no resource manager with an
empty map, because a removal drops a map that it empties. A well-formed store whose loads
agree with a map (`MemStore.Represents`) answers every other call as that map does too.

Main statement: after any sequence of saves and removals, the store loads, lists, removes
and counts as the map that the same sequence makes, and holds no empty inner map.

    let s := MemStore.replay {} us; let M := StoreUpdate.replayMap ∅ us
    s.load rm u = M.lookup (rm, u) ∧ ((s.remove rm u).1 = true ↔ (rm, u) ∈ M) ∧
      ↑(s.list rm) = M.valuesOf rm ∧ s.size = M.keys.card ∧ ∀ e ∈ s.entries, e.2 ≠ []
                                                          (memory_store_is_a_finite_map)
-/

namespace TxnCoord.Recovery

/-! ## Maps as lists of entries -/

section Entries

variable {α β : Type}

theorem lookup_cons_eq [BEq α] [LawfulBEq α] [DecidableEq α] (k k' : α) (v : β) (l : List (α × β)) :
    ((k', v) :: l).lookup k = if k = k' then some v else l.lookup k := by
  simp only [List.lookup_cons]
  cases hk : k == k' <;> simp_all

@[simp] theorem lookup_setKey (k k' : Uuid) (v : β) (l : List (Uuid × β)) :
    (setKey k v l).lookup k' = if k' = k then some v else l.lookup k' := by
  induction l with
  | nil => simp [setKey, lookup_cons_eq]
  | cons e rest ih =>
    obtain ⟨k'', v'⟩ := e
    by_cases h : k'' = k
    · subst h
      by_cases h' : k' = k'' <;> simp [setKey, lookup_cons_eq, h']
    · by_cases h' : k' = k'' <;> by_cases h'' : k' = k <;>
        simp_all [setKey, lookup_cons_eq]

theorem dropKey_cons (k k' : Uuid) (v : β) (rest : List (Uuid × β)) :
    dropKey k ((k', v) :: rest) =
      if k' = k then dropKey k rest else (k', v) :: dropKey k rest := by
  by_cases h : k' = k <;> simp [dropKey, h]

@[simp] theorem lookup_dropKey (k k' : Uuid) (l : List (Uuid × β)) :
    (dropKey k l).lookup k' = if k' = k then none else l.lookup k' := by
  induction l with
  | nil => simp [dropKey]
  | cons e rest ih =>
    obtain ⟨k'', v'⟩ := e
    rw [dropKey_cons, lookup_cons_eq]
    by_cases h : k'' = k
    · subst h
      rw [if_pos rfl, ih]
      by_cases h' : k' = k'' <;> simp [h']
    · rw [if_neg h, lookup_cons_eq, ih]
      by_cases h' : k' = k'' <;> by_cases h'' : k' = k <;> simp_all

theorem mem_setKey {k : Uuid} {v : β} {l : List (Uuid × β)} {e : Uuid × β}
    (he : e ∈ setKey k v l) : e ∈ l ∨ e = (k, v) := by
  induction l with
  | nil => simpa [setKey] using he
  | cons e' rest ih =>
    obtain ⟨k', v'⟩ := e'
    by_cases h : k' = k
    · simp only [setKey, h, if_true, List.mem_cons] at he
      rcases he with rfl | he
      · exact .inr rfl
      · exact .inl (List.mem_cons_of_mem _ he)
    · simp only [setKey, h, if_false, List.mem_cons] at he
      rcases he with rfl | he
      · exact .inl List.mem_cons_self
      · exact (ih he).imp (List.mem_cons_of_mem _) id

theorem keys_setKey (k : Uuid) (v : β) (l : List (Uuid × β)) :
    (setKey k v l).map Prod.fst =
      if k ∈ l.map Prod.fst then l.map Prod.fst else l.map Prod.fst ++ [k] := by
  induction l with
  | nil => simp [setKey]
  | cons e rest ih =>
    obtain ⟨k', v'⟩ := e
    by_cases h : k' = k
    · subst h
      simp [setKey]
    · by_cases hk : k ∈ rest.map Prod.fst <;> simp_all [setKey, Ne.symm h]

theorem setKey_ne_nil (k : Uuid) (v : β) (l : List (Uuid × β)) : setKey k v l ≠ [] := by
  cases l with
  | nil => simp [setKey]
  | cons e rest => unfold setKey; split <;> simp

theorem nodup_setKey (k : Uuid) (v : β) {l : List (Uuid × β)} (hl : (l.map Prod.fst).Nodup) :
    ((setKey k v l).map Prod.fst).Nodup := by
  rw [keys_setKey]
  split
  · exact hl
  · exact hl.append (List.nodup_singleton k) (List.disjoint_singleton.2 ‹_›)

theorem nodup_dropKey (k : Uuid) {l : List (Uuid × β)} (hl : (l.map Prod.fst).Nodup) :
    ((dropKey k l).map Prod.fst).Nodup :=
  hl.sublist (List.filter_sublist.map Prod.fst)

/-- With one entry per key, a key finds exactly the value it is listed with. -/
theorem lookup_eq_some_iff_mem [BEq α] [LawfulBEq α] [DecidableEq α] {l : List (α × β)}
    (hl : (l.map Prod.fst).Nodup) {k : α} {v : β} : l.lookup k = some v ↔ (k, v) ∈ l := by
  induction l with
  | nil => simp
  | cons e rest ih =>
    obtain ⟨k', v'⟩ := e
    simp only [List.map_cons, List.nodup_cons] at hl
    rw [lookup_cons_eq, List.mem_cons]
    by_cases h : k = k'
    · subst h
      have hout : (k, v) ∉ rest := fun hm => hl.1 (List.mem_map.2 ⟨_, hm, rfl⟩)
      simp [hout, eq_comm]
    · simp [h, ih hl.2]

end Entries

/-! ## The finite map a store stands for -/

/-- Descriptors by (resource manager, unit of work). -/
abbrev DescriptorMap := Finmap fun _ : Uuid × Uuid => Descriptor

namespace DescriptorMap

/-- The descriptors under one resource manager, one for each of its units of work. -/
def valuesOf (M : DescriptorMap) (rm : Uuid) : Multiset Descriptor :=
  (M.entries.filter fun e => e.1.1 = rm).map Sigma.snd

end DescriptorMap

/-- A call that changes a recovery store. -/
inductive StoreUpdate where
  | save (d : Descriptor)
  | remove (rm uow : Uuid)

namespace StoreUpdate

/-- What an update does to the map: a save sets the descriptor's own key, a removal deletes
the key. -/
def onMap : StoreUpdate → DescriptorMap → DescriptorMap
  | .save d, M => M.insert (d.rm, d.uow) d
  | .remove rm uow, M => M.erase (rm, uow)

/-- What an update does to the in-memory store. -/
def onMemory : StoreUpdate → MemStore → MemStore
  | .save d, s => s.save d
  | .remove rm uow, s => (s.remove rm uow).2

/-- The map after a sequence of updates. -/
def replayMap (M : DescriptorMap) (us : List StoreUpdate) : DescriptorMap :=
  us.foldl (fun M u => u.onMap M) M

end StoreUpdate

/-! ## The two levels against the map -/

namespace MemStore

/-- The store after a sequence of updates. -/
def replay (s : MemStore) (us : List StoreUpdate) : MemStore :=
  us.foldl (fun s u => u.onMemory s) s

/-- Every descriptor of the store with its key. -/
def pairs (s : MemStore) : List (Σ _ : Uuid × Uuid, Descriptor) :=
  s.entries.flatMap fun e => e.2.map fun p => ⟨(e.1, p.1), p.2⟩

/-- One entry per resource manager, one per unit of work in each, and no empty inner map. -/
structure Wf (s : MemStore) : Prop where
  nodup : (s.entries.map Prod.fst).Nodup
  nodup_inner : ∀ e ∈ s.entries, (e.2.map Prod.fst).Nodup
  nonempty : ∀ e ∈ s.entries, e.2 ≠ []

/-- A well-formed store whose loads are the lookups of a map. -/
structure Represents (s : MemStore) (M : DescriptorMap) : Prop where
  wf : s.Wf
  load : ∀ rm uow, s.load rm uow = M.lookup (rm, uow)

theorem represents_empty : Represents {} ∅ where
  wf := ⟨List.nodup_nil, by simp, by simp⟩
  load rm uow := by simp [load]

variable {s : MemStore} {M : DescriptorMap}

theorem Wf.lookup_nodup (hs : s.Wf) {rm : Uuid} {byUow : List (Uuid × Descriptor)}
    (h : s.entries.lookup rm = some byUow) : (byUow.map Prod.fst).Nodup :=
  hs.nodup_inner _ ((lookup_eq_some_iff_mem hs.nodup).1 h)

theorem Wf.lookup_nonempty (hs : s.Wf) {rm : Uuid} {byUow : List (Uuid × Descriptor)}
    (h : s.entries.lookup rm = some byUow) : byUow ≠ [] :=
  hs.nonempty _ ((lookup_eq_some_iff_mem hs.nodup).1 h)

/-- The map a save starts from: the manager's map, or an empty one. -/
theorem lookup_getD_load (s : MemStore) (rm uow : Uuid) :
    ((s.entries.lookup rm).getD []).lookup uow = s.load rm uow := by
  cases h : s.entries.lookup rm <;> simp [load, h]

theorem Wf.save (hs : s.Wf) (d : Descriptor) : (s.save d).Wf where
  nodup := nodup_setKey _ _ hs.nodup
  nodup_inner e he := by
    rcases mem_setKey he with he | rfl
    · exact hs.nodup_inner e he
    · apply nodup_setKey
      cases h : s.entries.lookup d.rm with
      | none => exact List.nodup_nil
      | some byUow => exact hs.lookup_nodup h
  nonempty e he := by
    rcases mem_setKey he with he | rfl
    · exact hs.nonempty e he
    · exact setKey_ne_nil _ _ _

theorem Represents.save (h : Represents s M) (d : Descriptor) :
    Represents (s.save d) (M.insert (d.rm, d.uow) d) where
  wf := h.wf.save d
  load rm uow := by
    simp only [MemStore.save, MemStore.load, lookup_setKey]
    by_cases hrm : rm = d.rm
    · subst hrm
      by_cases hu : uow = d.uow
      · subst hu
        simp
      · have hne : (d.rm, uow) ≠ (d.rm, d.uow) := by simp [hu]
        simp only [if_true, Option.bind_some, lookup_setKey, hu, if_false,
          Finmap.lookup_insert_of_ne _ hne, lookup_getD_load, ← h.load]
    · have hne : (rm, uow) ≠ (d.rm, d.uow) := by simp [hrm]
      rw [if_neg hrm, Finmap.lookup_insert_of_ne _ hne, ← h.load]
      rfl

theorem remove_of_lookup_none {s : MemStore} {rm : Uuid} (uow : Uuid)
    (h : s.entries.lookup rm = none) : s.remove rm uow = (false, s) := by
  simp [remove, h]

theorem remove_of_lookup_some {s : MemStore} {rm : Uuid} (uow : Uuid)
    {byUow : List (Uuid × Descriptor)} (h : s.entries.lookup rm = some byUow) :
    s.remove rm uow = ((byUow.lookup uow).isSome,
      if (dropKey uow byUow).isEmpty then ⟨dropKey rm s.entries⟩
      else ⟨setKey rm (dropKey uow byUow) s.entries⟩) := by
  simp only [remove, h]
  split <;> simp_all

/-- What removing a key does: it answers whether the key had a descriptor, and afterwards the
key has none while every other key keeps its own. -/
theorem remove_spec (s : MemStore) (rm uow : Uuid) :
    (s.remove rm uow).1 = (s.load rm uow).isSome ∧
      ∀ rm' uow', (s.remove rm uow).2.load rm' uow' =
        if rm' = rm ∧ uow' = uow then none else s.load rm' uow' := by
  cases hl : s.entries.lookup rm with
  | none =>
    rw [remove_of_lookup_none uow hl]
    refine ⟨by simp [load, hl], fun rm' uow' => ?_⟩
    by_cases hk : rm' = rm ∧ uow' = uow
    · obtain ⟨rfl, rfl⟩ := hk
      simp [load, hl]
    · rw [if_neg hk]
  | some byUow =>
    rw [remove_of_lookup_some uow hl]
    refine ⟨by simp [load, hl], fun rm' uow' => ?_⟩
    by_cases hrm : rm' = rm
    · subst hrm
      -- the manager's map lost the key; if it became empty the manager went with it
      split
      · rename_i hempty
        have hgone : ∀ u, u ≠ uow → byUow.lookup u = none := by
          intro u hu
          have := lookup_dropKey uow u byUow
          rw [List.isEmpty_iff.1 hempty, if_neg hu] at this
          exact this.symm
        simp only [load, lookup_dropKey, if_true, Option.bind_none, hl, Option.bind_some]
        by_cases hu : uow' = uow
        · simp [hu]
        · simp [hu, hgone uow' hu]
      · simp only [load, lookup_setKey, if_true, Option.bind_some, hl, lookup_dropKey]
        by_cases hu : uow' = uow <;> simp [hu]
    · have hk : ¬(rm' = rm ∧ uow' = uow) := fun h => hrm h.1
      rw [if_neg hk]
      split <;> simp [load, hrm]

theorem Wf.remove (hs : s.Wf) (rm uow : Uuid) : (s.remove rm uow).2.Wf := by
  cases hl : s.entries.lookup rm with
  | none => rwa [remove_of_lookup_none uow hl]
  | some byUow =>
    rw [remove_of_lookup_some uow hl]
    split
    · exact ⟨nodup_dropKey _ hs.nodup,
        fun e he => hs.nodup_inner e (List.mem_of_mem_filter he),
        fun e he => hs.nonempty e (List.mem_of_mem_filter he)⟩
    · rename_i hne
      refine ⟨nodup_setKey _ _ hs.nodup, fun e he => ?_, fun e he => ?_⟩
      · rcases mem_setKey he with he | rfl
        · exact hs.nodup_inner e he
        · exact nodup_dropKey _ (hs.lookup_nodup hl)
      · rcases mem_setKey he with he | rfl
        · exact hs.nonempty e he
        · simpa using hne

theorem Represents.remove (h : Represents s M) (rm uow : Uuid) :
    Represents (s.remove rm uow).2 (M.erase (rm, uow)) where
  wf := h.wf.remove rm uow
  load rm' uow' := by
    rw [(remove_spec s rm uow).2, h.load]
    split
    · obtain ⟨rfl, rfl⟩ := ‹rm' = rm ∧ uow' = uow›
      simp
    · rename_i hne
      have : (rm', uow') ≠ (rm, uow) := fun e => hne (Prod.mk.inj e)
      rw [Finmap.lookup_erase_ne this]

theorem Represents.removed (h : Represents s M) (rm uow : Uuid) :
    (s.remove rm uow).1 = true ↔ (rm, uow) ∈ M := by
  rw [(remove_spec s rm uow).1, h.load, Finmap.lookup_isSome]

/-! ## Counting and listing through the pairs -/

theorem mem_pairs {x : Σ _ : Uuid × Uuid, Descriptor} :
    x ∈ s.pairs ↔ ∃ e ∈ s.entries, ∃ p ∈ e.2, x = ⟨(e.1, p.1), p.2⟩ := by
  simp [pairs, eq_comm]

theorem Wf.mem_pairs_iff (hs : s.Wf) {x : Σ _ : Uuid × Uuid, Descriptor} :
    x ∈ s.pairs ↔ s.load x.1.1 x.1.2 = some x.2 := by
  rw [mem_pairs]
  constructor
  · rintro ⟨e, he, p, hp, rfl⟩
    have hout : s.entries.lookup e.1 = some e.2 := (lookup_eq_some_iff_mem hs.nodup).2 he
    have hin : e.2.lookup p.1 = some p.2 :=
      (lookup_eq_some_iff_mem (hs.nodup_inner e he)).2 hp
    simp [load, hout, hin]
  · intro hx
    obtain ⟨byUow, hout, hin⟩ := Option.bind_eq_some_iff.1 hx
    have he := (lookup_eq_some_iff_mem hs.nodup).1 hout
    have hp := (lookup_eq_some_iff_mem (hs.lookup_nodup hout)).1 hin
    exact ⟨_, he, _, hp, rfl⟩

theorem Wf.nodup_pairs (hs : s.Wf) : s.pairs.Nodup := by
  unfold pairs
  rw [List.nodup_flatMap]
  constructor
  · -- inside one manager the units of work are distinct
    intro e he
    apply List.Nodup.of_map fun x => x.1.2
    simpa [Function.comp_def] using hs.nodup_inner e he
  · -- two managers share no pair, as their keys differ
    refine (List.pairwise_map.1 hs.nodup).imp fun hne => ?_
    intro x hx hy
    obtain ⟨p, -, rfl⟩ := List.mem_map.1 hx
    obtain ⟨q, -, hq⟩ := List.mem_map.1 hy
    simp only [Sigma.mk.injEq, Prod.mk.injEq] at hq
    exact hne hq.1.1.symm

/-- The pairs of a store that represents a map are the map's entries. -/
theorem Represents.pairs_eq (h : Represents s M) :
    (s.pairs : Multiset (Σ _ : Uuid × Uuid, Descriptor)) = M.entries := by
  apply (Multiset.Nodup.ext (Multiset.coe_nodup.2 h.wf.nodup_pairs) M.nodup_entries).2
  intro x
  rw [Multiset.mem_coe, h.wf.mem_pairs_iff, h.load, ← Finmap.lookup_eq_some_iff]

theorem size_eq_length_pairs (s : MemStore) : s.size = s.pairs.length := by
  simp [size, pairs, List.length_flatMap, ← List.sum_eq_foldr]

theorem Represents.size (h : Represents s M) : s.size = M.keys.card := by
  have hcard := congrArg Multiset.card h.pairs_eq
  simp only [Multiset.coe_card] at hcard
  rw [size_eq_length_pairs, hcard]
  simp [Finmap.keys, Multiset.keys]

theorem pairs_cons (k : Uuid) (byUow : List (Uuid × Descriptor))
    (rest : List (Uuid × List (Uuid × Descriptor))) :
    MemStore.pairs ⟨(k, byUow) :: rest⟩ =
      byUow.map (fun p => ⟨(k, p.1), p.2⟩) ++ MemStore.pairs ⟨rest⟩ := rfl

theorem list_cons (k rm : Uuid) (byUow : List (Uuid × Descriptor))
    (rest : List (Uuid × List (Uuid × Descriptor))) :
    MemStore.list ⟨(k, byUow) :: rest⟩ rm =
      if rm = k then byUow.map Prod.snd else MemStore.list ⟨rest⟩ rm := by
  by_cases h : rm = k <;> simp [list, lookup_cons_eq, h]

/-- The pairs of one manager's map, kept when they are under `rm`. -/
theorem filter_block (k rm : Uuid) (byUow : List (Uuid × Descriptor)) :
    ((byUow.map fun p => (⟨(k, p.1), p.2⟩ : Σ _ : Uuid × Uuid, Descriptor)).filter
      fun x => x.1.1 = rm).map Sigma.snd = if rm = k then byUow.map Prod.snd else [] := by
  by_cases h : rm = k
  · subst h
    simp [List.filter_map, Function.comp_def]
  · simp [List.filter_map, Function.comp_def, Ne.symm h, h]

/-- The pairs under one resource manager are its inner map, when managers are unique. -/
theorem filter_pairs (rm : Uuid) {es : List (Uuid × List (Uuid × Descriptor))}
    (hes : (es.map Prod.fst).Nodup) :
    ((MemStore.pairs ⟨es⟩).filter fun x => x.1.1 = rm).map Sigma.snd =
      MemStore.list ⟨es⟩ rm := by
  induction es with
  | nil => simp [pairs, list]
  | cons e rest ih =>
    obtain ⟨k, byUow⟩ := e
    have hk : k ∉ rest.map Prod.fst := (List.nodup_cons.1 hes).1
    rw [pairs_cons, List.filter_append, List.map_append, filter_block, ih (List.nodup_cons.1 hes).2,
      list_cons]
    by_cases h : rm = k
    · -- the other managers hold nothing under `k`
      subst h
      have hnone : rest.lookup rm = none :=
        List.lookup_eq_none_iff.2 fun p hp =>
          bne_iff_ne.2 fun h => hk (List.mem_map.2 ⟨p, hp, h.symm⟩)
      simp [list, hnone]
    · simp [h]

theorem Represents.list (h : Represents s M) (rm : Uuid) :
    (s.list rm : Multiset Descriptor) = M.valuesOf rm := by
  rw [DescriptorMap.valuesOf, ← h.pairs_eq, Multiset.filter_coe, Multiset.map_coe,
    filter_pairs rm h.wf.nodup]

/-- A run of updates keeps the store representing the map that the same run makes. -/
theorem represents_replay (us : List StoreUpdate) :
    ∀ {s : MemStore} {M : DescriptorMap}, Represents s M →
      Represents (s.replay us) (StoreUpdate.replayMap M us) := by
  induction us with
  | nil => exact fun h => h
  | cons u us ih =>
    intro s M h
    apply ih
    cases u with
    | save d => exact h.save d
    | remove rm uow => exact h.remove rm uow

end MemStore

/-- After any sequence of saves and removals, the in-memory store answers as the finite map
that the same sequence makes: loads are lookups, a removal answers whether the key was there,
a listing holds the manager's descriptors one per unit of work, the size is the number of
keys, and no manager is left with an empty map. -/
theorem memory_store_is_a_finite_map (us : List StoreUpdate) :
    let s := MemStore.replay {} us
    let M := StoreUpdate.replayMap ∅ us
    (∀ rm uow, s.load rm uow = M.lookup (rm, uow)) ∧
      (∀ rm uow, (s.remove rm uow).1 = true ↔ (rm, uow) ∈ M) ∧
      (∀ rm, (s.list rm : Multiset Descriptor) = M.valuesOf rm) ∧
      s.size = M.keys.card ∧
      ∀ e ∈ s.entries, e.2 ≠ [] := by
  intro s M
  have h : MemStore.Represents s M := MemStore.represents_replay us MemStore.represents_empty
  exact ⟨h.load, h.removed, h.list, h.size, h.wf.nonempty⟩

end TxnCoord.Recovery
