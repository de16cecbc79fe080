import TxnCoord.Proofs.Json.Decoded
/-!
# What decoding a text gives

Decoding a JSON text against a shape gives a value in the shape's normal form
(`Shape.Normal`) whenever every record of the shape names each of its fields once
(`Shape.Distinct`): a string for a text, the hyphenated form of a UUID that parses, a timestamp
that parses, one of the names of a choice, a boolean for a flag, a whole number within 64 or
32 bits, null or the inner shape's form for a nullable value, and a record as an object that
lists its fields in their declared order, each read against its shape or filled as the field
says when the text leaves it out.

The statement covers every text, so it is about what a reader can hand back rather than about
what it reads: `Yields r P` says that every value `r` gives, from any bytes, satisfies `P`. Each
reader of a leaf gets one such lemma. The five readers of shapes call each other on less fuel,
so they are proved together, by induction on the fuel (`ReadsNormal`).

Main statement:

    s.Distinct → s.decodeText text = .ok v → s.Normal v             (Shape.decodeText_normal)
-/

namespace TxnCoord.Json

/-- Every record of a shape, at any depth, names each of its fields once. -/
inductive Shape.Distinct : Shape → Prop
  | any : Shape.Distinct .any
  | text : Shape.Distinct .text
  | flag : Shape.Distinct .flag
  | nat64 : Shape.Distinct .nat64
  | nat32 : Shape.Distinct .nat32
  | uuid : Shape.Distinct .uuid
  | opt {s} : Shape.Distinct s → Shape.Distinct (.opt s)
  | list {s} : Shape.Distinct s → Shape.Distinct (.list s)
  | dict {s} : Shape.Distinct s → Shape.Distinct (.dict s)
  | record {name fields} : (fields.map (·.1)).Nodup → (∀ f ∈ fields, Shape.Distinct f.2.1) →
      Shape.Distinct (.record name fields)
  | choice {name variants} : Shape.Distinct (.choice name variants)
  | stamp : Shape.Distinct .stamp

mutual
/-- The values that decoding against a shape gives. -/
inductive Shape.Normal : Shape → Json → Prop
  | any (v : Json) : Shape.Normal .any v
  | text (t : String) : Shape.Normal .text (.str t)
  | uuid {t : String} {u : Uuid} : Uuid.parse t = .ok u → Shape.Normal .uuid (.str u.render)
  | stamp {t : String} {i} : Time.Rfc3339.parse t = .ok i → Shape.Normal .stamp (.str t)
  | choice {name variants} {t : String} : t ∈ variants → Shape.Normal (.choice name variants) (.str t)
  | flag (b : Bool) : Shape.Normal .flag (.bool b)
  | nat64 {n : Nat} : n ≤ Reader.u64Max → Shape.Normal .nat64 (.nat n)
  | nat32 {n : Nat} : n ≤ u32Max → Shape.Normal .nat32 (.nat n)
  | null (s : Shape) : Shape.Normal (.opt s) .null
  | some {s v} : Shape.Normal s v → Shape.Normal (.opt s) v
  | list {s vs} : (∀ v ∈ vs, Shape.Normal s v) → Shape.Normal (.list s) (.arr vs)
  | dict {s fs} : (∀ kv ∈ fs, Shape.Normal s kv.2) → Shape.Normal (.dict s) (.obj fs)
  | record {name fields vals} : Shape.NormalFields fields vals →
      Shape.Normal (.record name fields) (.obj vals)

/-- The members of a decoded record: one per field, in declared order, each read against its
field's shape or filled as the field says when it is left out. -/
inductive Shape.NormalFields : List (String × Shape × Absent) → Fields → Prop
  | nil : Shape.NormalFields [] []
  | given {k s a v fields vals} : Shape.Normal s v → Shape.NormalFields fields vals →
      Shape.NormalFields ((k, s, a) :: fields) ((k, v) :: vals)
  | absent {k s a v fields vals} : absentValue k s a = .ok v → Shape.NormalFields fields vals →
      Shape.NormalFields ((k, s, a) :: fields) ((k, v) :: vals)
end

namespace Reader

variable {α β : Type}

/-- Every value the reader hands back, from any bytes, satisfies `P`. -/
def Yields (r : Reader α) (P : α → Prop) : Prop :=
  ∀ b v rest, (r.run).run b = (.ok v, rest) → P v

theorem Yields.mono {r : Reader α} {P Q : α → Prop} (h : r.Yields P) (hPQ : ∀ a, P a → Q a) :
    r.Yields Q :=
  fun b v rest hr => hPQ v (h b v rest hr)

theorem yields_true (r : Reader α) : r.Yields fun _ => True := fun _ _ _ _ => trivial

theorem Yields.bind {r : Reader α} {f : α → Reader β} {Q : α → Prop} {P : β → Prop}
    (h : r.Yields Q) (hf : ∀ a, Q a → (f a).Yields P) : (r >>= f).Yields P := by
  intro b v rest hrun
  simp only [ExceptT.run_bind, StateT.run_bind] at hrun
  rcases hr : (r.run).run b with ⟨_ | a, b'⟩ <;> rw [hr] at hrun
  · cases hrun
  · exact hf a (h b a b' hr) b' v rest hrun

theorem pure_yields {a : α} {P : α → Prop} (h : P a) : (pure a : Reader α).Yields P := by
  rintro b v rest ⟨⟩
  exact h

theorem throw_yields (e : ReadError) (P : α → Prop) : (throw e : Reader α).Yields P := by
  rintro b v rest ⟨⟩

theorem fail_yields (f : ReadFault) (P : α → Prop) : (fail f : Reader α).Yields P :=
  Yields.bind (yields_true _) fun _ _ => throw_yields _ P

theorem failAhead_yields (f : ReadFault) (P : α → Prop) : (failAhead f : Reader α).Yields P :=
  Yields.bind (yields_true _) fun _ _ => throw_yields _ P

theorem ofExcept_yields {e : Except ReadError α} {P : α → Prop} (h : ∀ a, e = .ok a → P a) :
    (ofExcept e).Yields P := by
  cases e with
  | error e => exact throw_yields e P
  | ok a => exact pure_yields (h a rfl)

theorem attempt_yields {x : Reader α} {P : α → Prop} (h : x.Yields P) :
    (attempt x).Yields fun r => ∀ a, r = .ok a → P a := by
  intro b v rest hrun a ha
  change (Except.ok ((x.run).run b).1, ((x.run).run b).2) = _ at hrun
  obtain ⟨⟩ := hrun
  exact h b a _ (Prod.ext ha rfl)

theorem placing_yields {x : Reader α} {P : α → Prop} (h : x.Yields P) : (placing x).Yields P := by
  refine Yields.bind (attempt_yields h) fun r hr => ?_
  cases r with
  | ok a => exact pure_yields (hr a rfl)
  | error e => exact Yields.bind (yields_true _) fun _ _ => throw_yields _ P

theorem thenClose_yields {body : Reader α} {close : Reader Unit} {P : α → Prop}
    (h : body.Yields P) : (thenClose body close).Yields P := by
  refine Yields.bind (attempt_yields h) fun r hr => Yields.bind (yields_true _) fun c _ => ?_
  rcases r with e | a <;> rcases c with e' | ⟨⟩
  · exact throw_yields e P
  · exact throw_yields e P
  · exact throw_yields e' P
  · exact pure_yields (hr a rfl)

/-- Reporting a value of the wrong kind never gives a value: every way through names the
value and throws. -/
theorem invalidAhead_yields (expected : String) (P : α → Prop) :
    (invalidAhead expected : Reader α).Yields P := by
  unfold invalidAhead
  refine Yields.bind (yields_true _) fun _ _ => ?_
  dsimp only
  split_ifs <;>
    repeat' first
      | exact throw_yields _ P
      | exact failAhead_yields _ _
      | refine Yields.bind (yields_true _) fun _ _ => ?_

/-! ## Leaves -/

theorem readText_yields (s : Shape) : (readText s).Yields fun v => ∃ t, acceptText s t = .ok v := by
  refine placing_yields (Yields.bind (yields_true _) fun c _ => ?_)
  split
  · exact failAhead_yields _ _
  · exact Yields.bind (yields_true _) fun _ _ => Yields.bind (yields_true _) fun t _ =>
      ofExcept_yields fun v hv => ⟨t, hv⟩
  · exact invalidAhead_yields _ _

theorem acceptText_text {t : String} {v : Json} (h : acceptText .text t = .ok v) :
    Shape.Normal .text v := by
  cases h
  exact .text t

theorem acceptText_uuid {t : String} {v : Json} (h : acceptText .uuid t = .ok v) :
    Shape.Normal .uuid v := by
  unfold acceptText at h
  cases hu : Uuid.parse t with
  | ok u =>
    rw [hu] at h
    cases h
    exact .uuid hu
  | error e =>
    rw [hu] at h
    cases h

theorem acceptText_stamp {t : String} {v : Json} (h : acceptText .stamp t = .ok v) :
    Shape.Normal .stamp v := by
  unfold acceptText at h
  cases hi : Time.Rfc3339.parse t with
  | ok i =>
    rw [hi] at h
    cases h
    exact .stamp hi
  | error e =>
    rw [hi] at h
    cases h

theorem acceptText_choice {n : String} {vs : List String} {t : String} {v : Json}
    (h : acceptText (.choice n vs) t = .ok v) : Shape.Normal (.choice n vs) v := by
  unfold acceptText at h
  dsimp only at h
  split_ifs at h with hm
  cases h
  exact .choice (List.contains_iff_mem.1 hm)

theorem acceptScanned_ok {expected : String} {max : Nat} {sc : Scanned} {v : Json}
    (h : acceptScanned expected max sc = .ok v) : ∃ n ≤ max, v = .nat n := by
  cases sc with
  | unsigned n =>
    simp only [acceptScanned, acceptUnsigned] at h
    split_ifs at h with hn
    cases h
    exact ⟨n, hn, rfl⟩
  | signed i => cases h
  | double f => cases h

theorem readUnsigned_yields (expected : String) (max : Nat) :
    (readUnsigned expected max).Yields fun v => ∃ n ≤ max, v = .nat n := by
  refine placing_yields (Yields.bind (yields_true _) fun c _ => ?_)
  rcases c with _ | c
  · exact failAhead_yields _ _
  · dsimp only
    split_ifs
    · exact Yields.bind (yields_true _) fun _ _ => Yields.bind (yields_true _) fun _ _ =>
        ofExcept_yields fun _ hv => acceptScanned_ok hv
    · exact Yields.bind (yields_true _) fun _ _ => ofExcept_yields fun _ hv => acceptScanned_ok hv
    · exact invalidAhead_yields _ _

/-! ## Records and collections -/

/-- Members found so far in a record in object form: each is normal for every field of its
name. -/
def Found (fields : List (String × Shape × Absent)) (acc : List (String × Json)) : Prop :=
  ∀ kv ∈ acc, ∀ f ∈ fields, f.1 = kv.1 → f.2.1.Normal kv.2

theorem Found.nil (fields : List (String × Shape × Absent)) : Found fields [] := by
  intro kv hkv
  cases hkv

theorem Found.append {fields : List (String × Shape × Absent)} {acc : List (String × Json)}
    (h : Found fields acc) {k : String} {v : Json} (hv : ∀ f ∈ fields, f.1 = k → f.2.1.Normal v) :
    Found fields (acc ++ [(k, v)]) := by
  intro kv hkv
  rcases List.mem_append.1 hkv with hkv | hkv
  · exact h kv hkv
  · rw [List.mem_singleton.1 hkv]
    exact hv

theorem completeRecord_normal {fields : List (String × Shape × Absent)}
    {found : List (String × Json)} (hfound : Found fields found) {v : Json}
    (h : completeRecord fields found = .ok v) :
    ∃ vals, v = .obj vals ∧ Shape.NormalFields fields vals := by
  obtain ⟨out, hout, hv⟩ := bind_eq_ok h
  refine ⟨out, (Except.ok.inj hv).symm, ?_⟩
  have hall := forall₂_of_mapM hout
  clear h hout hv
  -- each field is filled from the member of its name, or else as it says when left out
  induction hall with
  | nil => exact .nil
  | @cons f kv rest vals hkv _ ih =>
    obtain ⟨fname, s, a⟩ := f
    have hrest : Found rest found := fun kv hkv f hf => hfound kv hkv f (List.mem_cons_of_mem _ hf)
    dsimp only at hkv
    split at hkv
    · next w hw =>
      cases hkv
      obtain ⟨l₁, l₂, rfl, -⟩ := List.lookup_eq_some_iff.1 hw
      have hmem : (fname, w) ∈ l₁ ++ (fname, w) :: l₂ := List.mem_append_right _ List.mem_cons_self
      exact .given (hfound _ hmem _ List.mem_cons_self rfl) (ih hrest)
    · obtain ⟨d, hd, hkv⟩ := bind_eq_ok hkv
      cases hkv
      exact .absent hd (ih hrest)

theorem Fields.mem_insert {k : String} {v : Json} {fs : Fields} {kv : String × Json}
    (h : kv ∈ Fields.insert k v fs) : kv = (k, v) ∨ kv ∈ fs := by
  induction fs with
  | nil => exact .inl (List.mem_singleton.1 h)
  | cons f rest ih =>
    simp only [Fields.insert] at h
    split_ifs at h
    · exact List.mem_cons.1 h
    · rcases List.mem_cons.1 h with h | h
      · exact .inl h
      · exact .inr (List.mem_cons_of_mem _ h)
    · rcases List.mem_cons.1 h with h | h
      · exact .inr (List.mem_cons.2 (.inl h))
      · exact (ih h).imp_right (List.mem_cons_of_mem _)

/-! ## The readers of shapes -/

/-- What the readers of shapes give on `fuel`: values in the normal form of their shapes. The
five readers call each other on the fuel below, so they are proved together. -/
structure ReadsNormal (fuel : Nat) : Prop where
  shape : ∀ depth s, Shape.Distinct s → (readShape depth s fuel).Yields s.Normal
  items : ∀ depth s first acc, Shape.Distinct s → (∀ v ∈ acc, s.Normal v) →
    (readShapeItems depth s first acc fuel).Yields fun vs => ∀ v ∈ vs, s.Normal v
  members : ∀ depth s first (acc : Fields), Shape.Distinct s → (∀ kv ∈ acc, s.Normal kv.2) →
    (readShapeMembers depth s first acc fuel).Yields fun fs => ∀ kv ∈ fs, s.Normal kv.2
  recordItems : ∀ depth name count first index fields acc,
    (∀ f ∈ fields, Shape.Distinct f.2.1) →
    (readRecordItems depth name count first index fields acc fuel).Yields
      fun v => ∃ vals, v = .obj (acc ++ vals) ∧ Shape.NormalFields fields vals
  recordMembers : ∀ depth fields first acc, (fields.map (·.1)).Nodup →
    (∀ f ∈ fields, Shape.Distinct f.2.1) → Found fields acc →
    (readRecordMembers depth fields first acc fuel).Yields (Found fields)

-- With no fuel every reader fails at once, except that a record with no fields left is done.
-- Here and below the readers are unfolded by their definitions (`show`, `exact`): their
-- generated equation lemmas are costly, and proofs checked side by side would wait on them.
theorem readsNormal_zero : ReadsNormal 0 where
  shape _ _ _ := fail_yields _ _
  items _ _ _ _ _ _ := fail_yields _ _
  members _ _ _ _ _ _ := fail_yields _ _
  recordItems _ _ _ _ _ fields acc _ := by
    rcases fields with _ | ⟨⟨fname, s, a⟩, rest⟩
    · exact pure_yields ⟨[], by rw [List.append_nil], .nil⟩
    · exact fail_yields _ _
  recordMembers _ _ _ _ _ _ _ := fail_yields _ _

theorem readShape_flag (depth n : Nat) : (readShape depth .flag (n + 1)).Yields (Shape.Normal .flag) := by
  show (placing _).Yields _
  refine placing_yields (Yields.bind (yields_true _) fun c _ => ?_)
  rcases c with _ | c
  · exact failAhead_yields _ _
  · dsimp only
    split_ifs
    · exact Yields.bind (yields_true _) fun _ _ => Yields.bind (yields_true _) fun _ _ =>
        pure_yields (.flag true)
    · exact Yields.bind (yields_true _) fun _ _ => Yields.bind (yields_true _) fun _ _ =>
        pure_yields (.flag false)
    · exact invalidAhead_yields _ _

theorem readShape_choice (depth n : Nat) (name : String) (vs : List String) :
    (readShape depth (.choice name vs) (n + 1)).Yields (Shape.Normal (.choice name vs)) := by
  show (placing _).Yields _
  refine placing_yields (Yields.bind (yields_true _) fun c _ => ?_)
  split
  · exact failAhead_yields _ _
  · -- a name written as a string
    exact Yields.bind (yields_true _) fun _ _ => Yields.bind (yields_true _) fun _ _ =>
      ofExcept_yields fun _ hv => acceptText_choice hv
  · -- a name written as the one key of an object
    split_ifs
    · exact failAhead_yields _ _
    · refine Yields.bind (yields_true _) fun _ _ => Yields.bind (yields_true _) fun _ _ =>
        Yields.bind (ofExcept_yields fun _ hv => acceptText_choice hv) fun v hv => ?_
      refine Yields.bind (yields_true _) fun _ _ => Yields.bind (yields_true _) fun _ _ =>
        Yields.bind (yields_true _) fun c _ => ?_
      split
      · exact Yields.bind (yields_true _) fun _ _ => pure_yields hv
      · exact fail_yields _ _
      · exact fail_yields _ _
  · exact failAhead_yields _ _

theorem ReadsNormal.opt_succ {n : Nat} (ih : ReadsNormal n) (depth : Nat) {s : Shape}
    (hs : s.Distinct) : (readShape depth (.opt s) (n + 1)).Yields (Shape.Normal (.opt s)) := by
  show (skipBlank >>= _).Yields _
  refine Yields.bind (yields_true _) fun c _ => ?_
  split
  · exact Yields.bind (yields_true _) fun _ _ => Yields.bind (yields_true _) fun _ _ =>
      pure_yields (.null s)
  · exact (ih.shape depth s hs).mono fun _ hv => .some hv

theorem ReadsNormal.list_succ {n : Nat} (ih : ReadsNormal n) (depth : Nat) {s : Shape}
    (hs : s.Distinct) : (readShape depth (.list s) (n + 1)).Yields (Shape.Normal (.list s)) := by
  show (placing _).Yields _
  refine placing_yields (Yields.bind (yields_true _) fun c _ => ?_)
  split
  · exact failAhead_yields _ _
  · split_ifs
    · exact failAhead_yields _ _
    · refine Yields.bind (yields_true _) fun _ _ =>
        Yields.bind (thenClose_yields (ih.items (depth - 1) s true [] hs ?_)) fun vs hvs =>
          pure_yields (.list hvs)
      intro v hv
      cases hv
  · exact invalidAhead_yields _ _

theorem ReadsNormal.dict_succ {n : Nat} (ih : ReadsNormal n) (depth : Nat) {s : Shape}
    (hs : s.Distinct) : (readShape depth (.dict s) (n + 1)).Yields (Shape.Normal (.dict s)) := by
  show (placing _).Yields _
  refine placing_yields (Yields.bind (yields_true _) fun c _ => ?_)
  split
  · exact failAhead_yields _ _
  · split_ifs
    · exact failAhead_yields _ _
    · refine Yields.bind (yields_true _) fun _ _ =>
        Yields.bind (thenClose_yields (ih.members (depth - 1) s true [] hs ?_)) fun fs hfs =>
          pure_yields (.dict hfs)
      intro kv hkv
      cases hkv
  · exact invalidAhead_yields _ _

theorem ReadsNormal.record_succ {n : Nat} (ih : ReadsNormal n) (depth : Nat) {name : String}
    {fields : List (String × Shape × Absent)} (hnd : (fields.map (·.1)).Nodup)
    (hf : ∀ f ∈ fields, Shape.Distinct f.2.1) :
    (readShape depth (.record name fields) (n + 1)).Yields (Shape.Normal (.record name fields)) := by
  show (placing _).Yields _
  refine placing_yields (Yields.bind (yields_true _) fun c _ => ?_)
  split
  · exact failAhead_yields _ _
  · -- the fields listed in order in an array
    split_ifs
    · exact failAhead_yields _ _
    · refine Yields.bind (yields_true _) fun _ _ =>
        (thenClose_yields (ih.recordItems (depth - 1) name fields.length true 0 fields [] hf)).mono ?_
      rintro _ ⟨vals, rfl, hvals⟩
      exact .record hvals
  · -- the fields as the members of an object
    split_ifs
    · exact failAhead_yields _ _
    · refine Yields.bind (yields_true _) fun _ _ => Yields.bind
        (thenClose_yields (ih.recordMembers (depth - 1) fields true [] hnd hf (Found.nil fields)))
        fun found hfound => ofExcept_yields fun v hv => ?_
      obtain ⟨vals, rfl, hvals⟩ := completeRecord_normal hfound hv
      exact .record hvals
  · exact invalidAhead_yields _ _

theorem ReadsNormal.shape_succ {n : Nat} (ih : ReadsNormal n) (depth : Nat) {s : Shape}
    (hs : s.Distinct) : (readShape depth s (n + 1)).Yields s.Normal := by
  cases hs with
  | any => exact (yields_true _).mono fun v _ => .any v
  | text =>
    show (readText _).Yields _
    exact (readText_yields _).mono fun _ ⟨_, h⟩ => acceptText_text h
  | uuid =>
    show (readText _).Yields _
    exact (readText_yields _).mono fun _ ⟨_, h⟩ => acceptText_uuid h
  | stamp =>
    show (readText _).Yields _
    exact (readText_yields _).mono fun _ ⟨_, h⟩ => acceptText_stamp h
  | flag => exact readShape_flag depth n
  | nat64 =>
    show (readUnsigned _ _).Yields _
    exact (readUnsigned_yields _ _).mono fun _ ⟨_, hm, hv⟩ => hv ▸ .nat64 hm
  | nat32 =>
    show (readUnsigned _ _).Yields _
    exact (readUnsigned_yields _ _).mono fun _ ⟨_, hm, hv⟩ => hv ▸ .nat32 hm
  | choice => exact readShape_choice depth n _ _
  | opt hs => exact ih.opt_succ depth hs
  | list hs => exact ih.list_succ depth hs
  | dict hs => exact ih.dict_succ depth hs
  | record hnd hf => exact ih.record_succ depth hnd hf

theorem ReadsNormal.items_succ {n : Nat} (ih : ReadsNormal n) (depth : Nat) (s : Shape)
    (first : Bool) (acc : List Json) (hs : s.Distinct) (hacc : ∀ v ∈ acc, s.Normal v) :
    (readShapeItems depth s first acc (n + 1)).Yields fun vs => ∀ v ∈ vs, s.Normal v := by
  show (hasNextItem first >>= _).Yields _
  refine Yields.bind (yields_true _) fun more _ => ?_
  split
  · refine Yields.bind (ih.shape depth s hs) fun v hv => ih.items depth s false _ hs ?_
    intro w hw
    rcases List.mem_append.1 hw with hw | hw
    · exact hacc w hw
    · exact List.mem_singleton.1 hw ▸ hv
  · exact pure_yields hacc

theorem ReadsNormal.members_succ {n : Nat} (ih : ReadsNormal n) (depth : Nat) (s : Shape)
    (first : Bool) (acc : Fields) (hs : s.Distinct) (hacc : ∀ kv ∈ acc, s.Normal kv.2) :
    (readShapeMembers depth s first acc (n + 1)).Yields fun fs => ∀ kv ∈ fs, s.Normal kv.2 := by
  show (nextKey first >>= _).Yields _
  refine Yields.bind (yields_true _) fun key _ => ?_
  split
  · exact pure_yields hacc
  · refine Yields.bind (yields_true _) fun _ _ =>
      Yields.bind (ih.shape depth s hs) fun v hv => ih.members depth s false _ hs ?_
    intro kv hkv
    rcases Fields.mem_insert hkv with rfl | hkv
    · exact hv
    · exact hacc kv hkv

theorem ReadsNormal.recordItems_succ {n : Nat} (ih : ReadsNormal n) (depth : Nat) (name : String)
    (count : Nat) (first : Bool) (index : Nat) (fields : List (String × Shape × Absent))
    (acc : List (String × Json)) (hf : ∀ f ∈ fields, Shape.Distinct f.2.1) :
    (readRecordItems depth name count first index fields acc (n + 1)).Yields
      fun v => ∃ vals, v = .obj (acc ++ vals) ∧ Shape.NormalFields fields vals := by
  rcases fields with _ | ⟨⟨fname, s, a⟩, rest⟩
  · exact pure_yields ⟨[], by rw [List.append_nil], .nil⟩
  have hrest : ∀ f ∈ rest, Shape.Distinct f.2.1 := fun f hm => hf f (List.mem_cons_of_mem _ hm)
  show (hasNextItem first >>= _).Yields _
  refine Yields.bind (yields_true _) fun more _ => ?_
  split
  · -- the next item is there: it is the field's value
    refine Yields.bind (ih.shape depth s (hf _ List.mem_cons_self)) fun v hv => ?_
    refine (ih.recordItems depth name count false (index + 1) rest _ hrest).mono ?_
    rintro w ⟨vals, rfl, hvals⟩
    exact ⟨(fname, v) :: vals, by simp, .given hv hvals⟩
  · -- the array has ended: the field takes its default, or there is none
    split
    · next d =>
      refine (ih.recordItems depth name count first (index + 1) rest _ hrest).mono ?_
      rintro w ⟨vals, rfl, hvals⟩
      exact ⟨(fname, d) :: vals, by simp, .absent rfl hvals⟩
    · exact throw_yields _ _

theorem ReadsNormal.recordMembers_succ {n : Nat} (ih : ReadsNormal n) (depth : Nat)
    (fields : List (String × Shape × Absent)) (first : Bool) (acc : List (String × Json))
    (hnd : (fields.map (·.1)).Nodup) (hf : ∀ f ∈ fields, Shape.Distinct f.2.1)
    (hacc : Found fields acc) :
    (readRecordMembers depth fields first acc (n + 1)).Yields (Found fields) := by
  show (nextKey first >>= _).Yields _
  refine Yields.bind (yields_true _) fun key _ => ?_
  split
  · exact pure_yields hacc
  · split
    · next fname s a hfind =>
      split
      · exact throw_yields _ _
      · have hmem := List.mem_of_find?_eq_some hfind
        refine Yields.bind (yields_true _) fun _ _ =>
          Yields.bind (ih.shape depth s (hf _ hmem)) fun v hv => ?_
        refine ih.recordMembers depth fields false _ hnd hf (hacc.append fun f hf' hname => ?_)
        -- the field found is the only one of its name
        have hfield : f = (fname, s, a) := by
          have h₁ := find?_field hnd hf'
          rw [hname] at h₁
          exact Option.some.inj (h₁.symm.trans (find?_field hnd hmem))
        exact hfield ▸ hv
    · exact Yields.bind (yields_true _) fun _ _ => Yields.bind (yields_true _) fun _ _ =>
        ih.recordMembers depth fields false acc hnd hf hacc

theorem ReadsNormal.succ {n : Nat} (ih : ReadsNormal n) : ReadsNormal (n + 1) where
  shape depth _ hs := ih.shape_succ depth hs
  items := ih.items_succ
  members := ih.members_succ
  recordItems := ih.recordItems_succ
  recordMembers := ih.recordMembers_succ

theorem readsNormal (fuel : Nat) : ReadsNormal fuel := by
  induction fuel with
  | zero => exact readsNormal_zero
  | succ n ih => exact ih.succ

end Reader

theorem Shape.NormalFields.cons_inv {k : String} {s : Shape} {a : Absent}
    {rest : List (String × Shape × Absent)} {vals : Fields}
    (h : Shape.NormalFields ((k, s, a) :: rest) vals) :
    ∃ v vals', vals = (k, v) :: vals' ∧ (s.Normal v ∨ absentValue k s a = .ok v) ∧
      Shape.NormalFields rest vals' := by
  cases h with
  | given hv hrest => exact ⟨_, _, rfl, .inl hv, hrest⟩
  | absent hv hrest => exact ⟨_, _, rfl, .inr hv, hrest⟩

/-- In a decoded record, the member of a field's name holds a value of the field's shape, or
the value the field takes when the text leaves it out. -/
theorem Shape.NormalFields.lookup {fields : List (String × Shape × Absent)} {vals : Fields}
    (h : Shape.NormalFields fields vals) (hnd : (fields.map (·.1)).Nodup) {k : String} {s : Shape}
    {a : Absent} (hf : (k, s, a) ∈ fields) :
    ∃ v, Fields.lookup k vals = some v ∧ (s.Normal v ∨ absentValue k s a = .ok v) := by
  induction fields generalizing vals with
  | nil => cases hf
  | cons f rest ih =>
    obtain ⟨k', s', a'⟩ := f
    obtain ⟨v, vals', rfl, hv, hrest⟩ := h.cons_inv
    rw [List.map_cons, List.nodup_cons] at hnd
    by_cases hk : k = k'
    · -- the field is the first one, since no later field has its name
      subst hk
      have hfirst : (k, s, a) = (k, s', a') := by
        rcases List.mem_cons.1 hf with hf | hf
        · exact hf
        · exact absurd (List.mem_map_of_mem (f := (·.1)) hf) hnd.1
      cases hfirst
      exact ⟨v, by simp [Fields.lookup], hv⟩
    · have hf' : (k, s, a) ∈ rest := by
        rcases List.mem_cons.1 hf with hf | hf
        · exact absurd (congrArg (·.1) hf) hk
        · exact hf
      obtain ⟨w, hw, hn⟩ := ih hrest hnd.2 hf'
      exact ⟨w, by simp [Fields.lookup, hk, hw], hn⟩

/-- Decoding a text against a shape whose records name their fields once gives a value in the
shape's normal form. -/
theorem Shape.decodeText_normal {s : Shape} (hs : s.Distinct) {text : String} {v : Json}
    (h : s.decodeText text = .ok v) : s.Normal v := by
  unfold Shape.decodeText Reader.runText at h
  dsimp only at h
  split at h
  · next w rest hrun =>
    cases h
    exact Reader.Yields.bind ((Reader.readsNormal _).shape 128 s hs) (fun w hw =>
      Reader.Yields.bind (Reader.yields_true _) fun _ _ => Reader.pure_yields hw) _ _ _ hrun
  · cases h


end TxnCoord.Json
