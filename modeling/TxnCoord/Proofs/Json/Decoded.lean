import Mathlib.Data.List.Forall2
import TxnCoord.Json.Decode
/-!
# What a decoded value looks like

Decoding a value against a shape gives it in normal form: a text decodes to a string, a list
to an array of values decoded against the item shape, a nullable value to null or to a value
decoded against the inner shape, and a record to an object that lists the declared fields in
their order, each with a value decoded against the field's shape or the one the field takes when
the document leaves it out (`FieldReads`). A record's field names are taken to be distinct, as
they are in every record shape the coordinator reads.

    Shape.decodeWith (n + 1) (.record name fields) v = .ok y →
      ∃ vals, y = .obj vals ∧ List.Forall₂ (FieldReads n) fields vals     (decodeWith_record)
-/

namespace TxnCoord.Json

theorem bind_eq_ok {ε α β : Type} {x : Except ε α} {f : α → Except ε β} {b : β}
    (h : x >>= f = .ok b) : ∃ a, x = .ok a ∧ f a = .ok b := by
  cases x with
  | error e => cases h
  | ok a => exact ⟨a, rfl, h⟩

@[simp] theorem pure_eq_ok {ε α : Type} (a : α) : (pure a : Except ε α) = .ok a := rfl

@[simp] theorem ok_bind {ε α β : Type} (a : α) (f : α → Except ε β) :
    (Except.ok a >>= f : Except ε β) = f a := rfl

@[simp] theorem throw_eq_error {ε α : Type} (e : ε) : (throw e : Except ε α) = .error e := rfl

/-- A failure passes through what follows it. -/
@[simp] theorem error_bind {ε α β : Type} (e : ε) (f : α → Except ε β) :
    (Except.error e >>= f : Except ε β) = .error e := rfl

@[simp] theorem map_error {ε α β : Type} (g : α → β) (e : ε) :
    (g <$> Except.error e : Except ε β) = .error e := rfl

-- Here and below the decoder is unfolded by its definition (`cases h`, `change`, `bind_eq_ok`):
-- its generated equation lemmas are costly, and proofs checked side by side would wait on them.
theorem decodeWith_text {n : Nat} {v y : Json} (h : Shape.decodeWith n .text v = .ok y) :
    ∃ t, y = .str t := by
  cases n with
  | zero => cases h
  | succ n =>
    cases v with
    | str t => exact ⟨t, (Except.ok.inj h).symm⟩
    | _ => cases h

theorem decodeWith_opt {n : Nat} {s : Shape} {v y : Json}
    (h : Shape.decodeWith (n + 1) (.opt s) v = .ok y) :
    y = .null ∨ Shape.decodeWith n s v = .ok y := by
  change (if v.isNull then .ok .null else Shape.decodeWith n s v) = .ok y at h
  split at h
  · exact .inl (Except.ok.inj h).symm
  · exact .inr h

theorem forall₂_of_mapM {α β ε : Type} {f : α → Except ε β} {xs : List α} {ys : List β}
    (h : xs.mapM f = .ok ys) : List.Forall₂ (fun x y => f x = .ok y) xs ys := by
  induction xs generalizing ys with
  | nil =>
    simp only [List.mapM_nil, pure_eq_ok, Except.ok.injEq] at h
    subst h
    exact .nil
  | cons x xs ih =>
    simp only [List.mapM_cons] at h
    obtain ⟨y, hx, h⟩ := bind_eq_ok h
    obtain ⟨zs, hxs, h⟩ := bind_eq_ok h
    cases h
    exact .cons hx (ih hxs)

theorem exists_of_forall₂ {α β : Type} {R : α → β → Prop} {xs : List α} {ys : List β}
    (h : List.Forall₂ R xs ys) : ∀ y ∈ ys, ∃ x ∈ xs, R x y := by
  induction h with
  | nil => intro y hy; cases hy
  | cons hxy _ ih =>
    intro y hy
    rcases List.mem_cons.1 hy with rfl | hy
    · exact ⟨_, List.mem_cons_self, hxy⟩
    · obtain ⟨x, hx, hr⟩ := ih y hy
      exact ⟨x, List.mem_cons_of_mem _ hx, hr⟩

theorem mem_of_filterMapM {α β ε : Type} {g : α → Except ε (Option β)} {xs : List α}
    {ys : List β} (h : xs.filterMapM g = .ok ys) : ∀ y ∈ ys, ∃ x ∈ xs, g x = .ok (some y) := by
  induction xs generalizing ys with
  | nil =>
    simp only [List.filterMapM_nil, pure_eq_ok, Except.ok.injEq] at h
    subst h
    intro y hy
    cases hy
  | cons x xs ih =>
    simp only [List.filterMapM_cons] at h
    obtain ⟨o, hx, h⟩ := bind_eq_ok h
    intro y hy
    cases o with
    | none =>
      obtain ⟨x', hx', hg⟩ := ih h y hy
      exact ⟨x', List.mem_cons_of_mem _ hx', hg⟩
    | some z =>
      obtain ⟨zs, hzs, h⟩ := bind_eq_ok h
      cases h
      rcases List.mem_cons.1 hy with rfl | hy
      · exact ⟨x, List.mem_cons_self, hx⟩
      · obtain ⟨x', hx', hg⟩ := ih hzs y hy
        exact ⟨x', List.mem_cons_of_mem _ hx', hg⟩

theorem decodeWith_list {n : Nat} {s : Shape} {v y : Json}
    (h : Shape.decodeWith (n + 1) (.list s) v = .ok y) :
    ∃ ys, y = .arr ys ∧ ∀ z ∈ ys, ∃ x, Shape.decodeWith n s x = .ok z := by
  cases v with
  | arr xs =>
    obtain ⟨ys, hys, h⟩ := bind_eq_ok h
    cases h
    refine ⟨ys, rfl, fun z hz => ?_⟩
    obtain ⟨x, -, hx⟩ := exists_of_forall₂ (forall₂_of_mapM hys) z hz
    exact ⟨x, hx⟩
  | _ => cases h

/-- A member of a decoded record: the field's name, with a value decoded against the field's
shape or the one the field takes when left out. -/
structure FieldReads (n : Nat) (f : String × Shape × Absent) (kv : String × Json) : Prop where
  name : kv.1 = f.1
  value : (∃ x, Shape.decodeWith n f.2.1 x = .ok kv.2) ∨ absentValue f.1 f.2.1 f.2.2 = .ok kv.2

theorem find?_field {fields : List (String × Shape × Absent)} (hn : (fields.map (·.1)).Nodup)
    {f : String × Shape × Absent} (hf : f ∈ fields) : fields.find? (fun g => g.1 == f.1) = some f := by
  induction fields with
  | nil => cases hf
  | cons g rest ih =>
    rw [List.map_cons, List.nodup_cons] at hn
    rcases List.mem_cons.1 hf with rfl | hf
    · simp
    · have hne : g.1 ≠ f.1 := fun heq => hn.1 (heq ▸ List.mem_map_of_mem hf)
      rw [List.find?_cons_of_neg (by simpa using hne)]
      exact ih hn.2 hf

theorem decodeWith_record {n : Nat} {name : String} {fields : List (String × Shape × Absent)}
    {v y : Json} (hn : (fields.map (·.1)).Nodup)
    (h : Shape.decodeWith (n + 1) (.record name fields) v = .ok y) :
    ∃ vals, y = .obj vals ∧ List.Forall₂ (FieldReads n) fields vals := by
  cases v with
  | arr xs =>
    obtain ⟨vals, hvals, h⟩ := bind_eq_ok h
    split at h
    · cases h
    · cases h
      refine ⟨vals, rfl, ?_⟩
      rw [← List.zipIdx_map_fst 0 fields, List.forall₂_map_left_iff]
      refine (forall₂_of_mapM hvals).imp fun fi kv hfi => ?_
      obtain ⟨⟨fname, s, a⟩, i⟩ := fi
      dsimp only at hfi
      split at hfi
      · obtain ⟨z, hz, hkv⟩ := bind_eq_ok hfi
        cases hkv
        exact ⟨rfl, .inl ⟨_, hz⟩⟩
      · split at hfi
        · cases hfi
          exact ⟨rfl, .inr rfl⟩
        · cases hfi
  | obj fs =>
    obtain ⟨found, hfound, h⟩ := bind_eq_ok h
    obtain ⟨out, hout, h⟩ := bind_eq_ok h
    cases h
    have hall := (List.forall₂_and_left _ _).2 ⟨fun f hf => hf, forall₂_of_mapM hout⟩
    refine ⟨out, rfl, hall.imp fun f kv hf => ?_⟩
    obtain ⟨hmemf, hf⟩ := hf
    obtain ⟨fname, s, a⟩ := f
    dsimp only at hf
    split at hf
    · rename_i v hv
      cases hf
      refine ⟨rfl, .inl ?_⟩
      -- the member found under the field's name was decoded against that field's shape
      obtain ⟨l₁, l₂, hsplit, -⟩ := List.lookup_eq_some_iff.1 hv
      have hmem : (fname, v) ∈ found := by rw [hsplit]; simp
      obtain ⟨⟨k, x⟩, -, hg⟩ := mem_of_filterMapM hfound _ hmem
      dsimp only at hg
      split at hg
      · rename_i hf'
        obtain ⟨z, hz, hkv⟩ := bind_eq_ok hg
        cases hkv
        rw [find?_field hn hmemf] at hf'
        cases hf'
        exact ⟨x, hz⟩
      · cases hg
    · obtain ⟨z, hz, hkv⟩ := bind_eq_ok hf
      cases hkv
      exact ⟨rfl, .inr hz⟩
  | _ => cases h

/-- A list member of a record that defaults to the empty list holds values of the item shape. -/
theorem FieldReads.list {m : Nat} {k : String} {s : Shape} {kv : String × Json}
    (h : FieldReads (m + 1) (k, .list s, .fill (.arr [])) kv) :
    ∃ ys, kv = (k, .arr ys) ∧ ∀ z ∈ ys, ∃ x, Shape.decodeWith m s x = .ok z := by
  obtain ⟨k', v⟩ := kv
  obtain ⟨rfl, ⟨x, hx⟩ | hv⟩ := h
  · obtain ⟨ys, rfl, hys⟩ := decodeWith_list hx
    exact ⟨ys, rfl, hys⟩
  · cases hv
    exact ⟨[], rfl, fun _ h => by cases h⟩

/-- A text member of a record is a string, whether given or left to its default text. -/
theorem FieldReads.text {n : Nat} {k : String} {a : Absent} {kv : String × Json}
    (ha : ∀ v, absentValue k .text a = .ok v → ∃ t, v = .str t) (h : FieldReads n (k, .text, a) kv) :
    ∃ t, kv = (k, .str t) := by
  obtain ⟨k', v⟩ := kv
  obtain ⟨rfl, ⟨x, hx⟩ | hv⟩ := h
  · obtain ⟨t, rfl⟩ := decodeWith_text hx
    exact ⟨t, rfl⟩
  · obtain ⟨t, rfl⟩ := ha v hv
    exact ⟨t, rfl⟩

end TxnCoord.Json
