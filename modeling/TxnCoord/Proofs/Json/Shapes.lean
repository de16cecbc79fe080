import TxnCoord.Proofs.Json.Scalars
/-!
# Reading back what the writer prints: shapes

The pretty text of a value reads back against a record shape as the value itself, field by
field. `ReadsBack sh j out d f` says that the pretty text of `j`, at any level, after any
blanks and before anything that may follow a value, reads against `sh` as `out`, given `d`
levels of nesting and `f` fuel. Each kind of shape gets its lemma: the scalars, `null` and a
present value under an optional shape, and records, whose members are read back one round of
the member loop at a time (`member_step`, `tail_gives`).

Main statements:

    (∀ m ∈ ms, ReadsBack m.shape m.value m.out d f) → ms ≠ [] → (ms.map Member.key).Nodup →
      ReadsBack (.record name (ms.map Member.field)) (.obj (ms.map Member.written))
        (.obj (ms.map Member.read)) (d + 2) (f + ms.length + 2)          (readsBack_record)
    ReadsBack sh j out d f → d ≤ 128 → f ≤ fuelFor (utf8 (pretty 0 j)).length →
      sh.decodeText (pretty 0 j) = .ok out                               (decodeText_pretty)
-/

namespace TxnCoord.Json.Reader

/-- What may follow a value in pretty text: the end of the text, a comma or a line break. -/
def Follows (rest : List UInt8) : Prop :=
  rest.head? = none ∨ rest.head? = some 44 ∨ rest.head? = some 10

theorem Follows.endsNumber {rest : List UInt8} (h : Follows rest) : EndsNumber rest := by
  intro b hb
  rcases h with h | h | h <;> rw [h] at hb <;> simp only [Option.mem_def, reduceCtorEq,
    Option.some.injEq] at hb <;> subst hb <;> decide

/-- The pretty text of `j`, at any level, after any blanks and before anything that may
follow a value, reads back against the shape `sh` as `out`, given at least `d` levels of
nesting and `f` fuel. -/
def ReadsBack (sh : Shape) (j out : Json) (d f : Nat) : Prop :=
  ∀ depth fuel level (bl rest : List UInt8), d ≤ depth → f ≤ fuel →
    (∀ b ∈ bl, isBlank b = true) → Follows rest →
      (readShape depth sh fuel).Gives (bl ++ utf8 (pretty level j) ++ rest) out rest

theorem ReadsBack.mono {sh : Shape} {j out : Json} {d f d' f' : Nat} (h : ReadsBack sh j out d f)
    (hd : d ≤ d') (hf : f ≤ f') : ReadsBack sh j out d' f' :=
  fun depth fuel level bl rest h₁ h₂ => h depth fuel level bl rest (by omega) (by omega)

/-- A reading that is given fuel need only be shown on fuel `n + 1`: a reader with none fails. -/
theorem ReadsBack.of_succ {sh : Shape} {j out : Json} {d f : Nat} (hf : 0 < f)
    (h : ∀ depth n level (bl rest : List UInt8), d ≤ depth → f ≤ n + 1 →
      (∀ b ∈ bl, isBlank b = true) → Follows rest →
        (readShape depth sh (n + 1)).Gives (bl ++ utf8 (pretty level j) ++ rest) out rest) :
    ReadsBack sh j out d f := by
  intro depth fuel level bl rest hd hfuel hbl hr
  obtain ⟨n, rfl⟩ : ∃ n, fuel = n + 1 := ⟨fuel - 1, by omega⟩
  exact h depth n level bl rest hd hfuel hbl hr

/-- A string shape that accepts a text reads its quoted form back. -/
theorem readsBack_readText {sh : Shape} {t : String} {out : Json} (h : acceptText sh t = .ok out)
    (heq : ∀ depth n, readShape depth sh (n + 1) = readText sh) :
    ReadsBack sh (.str t) out 0 1 := by
  refine ReadsBack.of_succ (by omega) fun depth fuel level bl rest _ _ hbl _ => ?_
  rw [heq depth fuel]
  exact readText_gives hbl h

-- Here and below the readers' cases are reached by their definitions (`rfl`, `show`): their
-- generated equation lemmas are costly, and proofs checked side by side would wait on them.
theorem readsBack_text (t : String) : ReadsBack .text (.str t) (.str t) 0 1 :=
  readsBack_readText rfl fun _ _ => rfl

theorem readsBack_uuid {t : String} {u : Uuid} (h : Uuid.parse t = .ok u) :
    ReadsBack .uuid (.str t) (.str u.render) 0 1 :=
  readsBack_readText (by unfold acceptText; rw [h]) fun _ _ => rfl

theorem readsBack_stamp {t : String} {i : Time.Instant} (h : Time.Rfc3339.parse t = .ok i) :
    ReadsBack .stamp (.str t) (.str t) 0 1 :=
  readsBack_readText (by unfold acceptText; rw [h]) fun _ _ => rfl

theorem readsBack_choice {n t : String} {vs : List String} (h : t ∈ vs) :
    ReadsBack (.choice n vs) (.str t) (.str t) 0 1 := by
  refine ReadsBack.of_succ (by omega) fun depth fuel level bl rest _ _ hbl _ => ?_
  show (placing _).Gives (bl ++ utf8 (quote t) ++ rest) _ _
  rw [utf8_quote, List.append_assoc, List.cons_append, List.append_assoc, List.singleton_append]
  refine placing_gives (Gives.bind (skipBlank_gives hbl (by simp; decide)) ?_)
  simp only [List.head?_cons]
  refine Gives.bind (bump_gives _ _) (Gives.bind (readStr_gives t rest) ?_)
  rw [show acceptText (.choice n vs) t = .ok (.str t) from if_pos (List.contains_iff_mem.2 h)]
  exact ofExcept_gives _ _

theorem readsBack_flag (b : Bool) : ReadsBack .flag (.bool b) (.bool b) 0 1 := by
  refine ReadsBack.of_succ (by omega) fun depth fuel level bl rest _ _ hbl _ => ?_
  show (placing _).Gives _ _ _
  cases b with
  | true =>
    rw [show utf8 (pretty level (.bool true)) = 116 :: utf8 "rue" from by
      rw [show pretty level (.bool true) = "true" from rfl]; decide]
    rw [List.append_assoc, List.cons_append]
    refine placing_gives (Gives.bind (skipBlank_gives hbl (by simp; decide)) ?_)
    simp only [List.head?_cons, show (116 == byteOf 't') = true from rfl, if_true]
    exact Gives.bind (bump_gives _ _)
      (Gives.bind (expectWord_gives _ rest) (pure_gives _ rest))
  | false =>
    rw [show utf8 (pretty level (.bool false)) = 102 :: utf8 "alse" from by
      rw [show pretty level (.bool false) = "false" from rfl]; decide]
    rw [List.append_assoc, List.cons_append]
    refine placing_gives (Gives.bind (skipBlank_gives hbl (by simp; decide)) ?_)
    simp only [List.head?_cons, show (102 == byteOf 't') = false from rfl,
      show (102 == byteOf 'f') = true from rfl, if_true]
    exact Gives.bind (bump_gives _ _)
      (Gives.bind (expectWord_gives _ rest) (pure_gives _ rest))

theorem utf8_toString (n : Nat) : utf8 (toString n) = (Nat.toDigits 10 n).map byteOf := by
  have h : (toString n).toList = Nat.toDigits 10 n := Nat.toList_repr
  rw [utf8_ascii, h]
  intro c hc
  rw [h] at hc
  have := digit_toNat (Nat.isDigit_of_mem_toDigits (by decide) (by decide) hc)
  omega

theorem readsBack_unsigned {sh : Shape} {expected : String} {max n : Nat}
    (hmax : max ≤ u64Max) (hn : n ≤ max)
    (heq : ∀ depth n, readShape depth sh (n + 1) = readUnsigned expected max) :
    ReadsBack sh (.nat n) (.nat n) 0 1 := by
  refine ReadsBack.of_succ (by omega) fun depth fuel level bl rest _ _ hbl hr => ?_
  rw [heq depth fuel]
  show (readUnsigned expected max).Gives (bl ++ utf8 (toString n) ++ rest) _ _
  rw [utf8_toString]
  exact readUnsigned_gives hbl hmax hn hr.endsNumber

theorem readsBack_nat64 {n : Nat} (hn : n ≤ u64Max) : ReadsBack .nat64 (.nat n) (.nat n) 0 1 :=
  readsBack_unsigned (Nat.le_refl _) hn fun _ _ => rfl

theorem readsBack_nat32 {n : Nat} (hn : n ≤ u32Max) : ReadsBack .nat32 (.nat n) (.nat n) 0 1 :=
  readsBack_unsigned (by decide) hn fun _ _ => rfl

theorem readsBack_null (sh : Shape) : ReadsBack (.opt sh) .null .null 0 1 := by
  refine ReadsBack.of_succ (by omega) fun depth fuel level bl rest _ _ hbl _ => ?_
  show (skipBlank >>= _).Gives _ _ _
  rw [show utf8 (pretty level .null) = 110 :: utf8 "ull" from by
    rw [show pretty level .null = "null" from rfl]; decide]
  rw [List.append_assoc, List.cons_append]
  refine Gives.bind (skipBlank_gives hbl (by simp; decide)) ?_
  simp only [List.head?_cons]
  exact Gives.bind (bump_gives _ _) (Gives.bind (expectWord_gives _ rest) (pure_gives _ rest))

/-- The text of a value starts with a byte that is neither a blank nor the `n` of `null`. -/
def Leads (j : Json) : Prop :=
  ∀ level, ∃ b bs, utf8 (pretty level j) = b :: bs ∧ b ≠ 110 ∧ isBlank b = false

theorem readsBack_some {sh : Shape} {j out : Json} {d f : Nat} (h : ReadsBack sh j out d f)
    (hj : Leads j) : ReadsBack (.opt sh) j out d (f + 1) := by
  refine ReadsBack.of_succ (by omega) fun depth fuel level bl rest hd hf hbl hr => ?_
  obtain ⟨b, bs, hb, h110, hblank⟩ := hj level
  show (skipBlank >>= _).Gives _ _ _
  rw [List.append_assoc]
  refine Gives.bind (skipBlank_gives hbl (by simp [hb, hblank])) ?_
  rw [hb, List.cons_append, List.head?_cons]
  split
  · simp_all
  · have := h depth fuel level [] rest hd (by omega) (by simp) hr
    rwa [hb, List.nil_append] at this

theorem leads_str (t : String) : Leads (.str t) := fun _ =>
  ⟨34, escBytes t.toList ++ [34], utf8_quote t, by decide, by decide⟩

theorem leads_nat (n : Nat) : Leads (.nat n) := by
  intro level
  obtain ⟨c, cs, hcs⟩ : ∃ c cs, Nat.toDigits 10 n = c :: cs :=
    List.exists_cons_of_ne_nil Nat.toDigits_ne_nil
  have hc := digit_toNat (Nat.isDigit_of_mem_toDigits (by decide) (by decide) (hcs ▸ List.mem_cons_self))
  have hb := byteOf_toNat (by omega : c.toNat < 256)
  refine ⟨byteOf c, cs.map byteOf, ?_, ?_, ?_⟩
  · show utf8 (toString n) = _
    rw [utf8_toString, hcs, List.map_cons]
  · intro h
    have := congrArg UInt8.toNat h
    simp only [hb, UInt8.reduceToNat] at this
    omega
  · simp [isBlank, ← UInt8.toNat_inj, hb]
    omega

/-! The printer's cases for objects with members, unfolded from its definition. -/

theorem pretty_obj (level : Nat) (fs : List (String × Json)) (h : fs ≠ []) :
    pretty level (.obj fs) =
      "\x7b\n" ++ prettyFields (level + 1) fs ++ "\n" ++ indent level ++ "\x7d" := by
  obtain ⟨f, fs, rfl⟩ := List.exists_cons_of_ne_nil h
  rfl

theorem prettyFields_single (level : Nat) (k : String) (v : Json) :
    prettyFields level [(k, v)] = indent level ++ quote k ++ ": " ++ pretty level v :=
  rfl

theorem prettyFields_cons (level : Nat) (k : String) (v : Json) (rest : List (String × Json))
    (h : rest ≠ []) :
    prettyFields level ((k, v) :: rest) =
      indent level ++ quote k ++ ": " ++ pretty level v ++ ",\n" ++ prettyFields level rest := by
  obtain ⟨e, rest, rfl⟩ := List.exists_cons_of_ne_nil h
  rfl

theorem leads_obj {fs : List (String × Json)} (h : fs ≠ []) : Leads (.obj fs) := by
  intro level
  refine ⟨123, utf8 ("\n" ++ prettyFields (level + 1) fs ++ "\n" ++ indent level ++ "\x7d"), ?_,
    by decide, by decide⟩
  rw [pretty_obj _ _ h]
  simp only [utf8_append, List.append_assoc]
  rfl

/-! ## Records -/

section Punctuation
variable {bl : List UInt8} (hbl : ∀ b ∈ bl, isBlank b = true)
include hbl

theorem nextKey_first_gives (k : String) (more : List UInt8) :
    (nextKey true).Gives (bl ++ utf8 (quote k) ++ more) (some k) more := by
  unfold nextKey
  rw [utf8_quote, List.append_assoc, List.cons_append, List.append_assoc, List.singleton_append]
  refine Gives.bind (skipBlank_gives hbl (by simp; decide)) ?_
  simp only [List.head?_cons]
  refine Gives.bind (pure_gives _ _) ?_
  exact Gives.bind (bump_gives _ _) (Gives.map (readStr_gives k more))

theorem nextKey_comma_gives (k : String) (more : List UInt8) :
    (nextKey false).Gives (44 :: (bl ++ utf8 (quote k) ++ more)) (some k) more := by
  unfold nextKey
  refine Gives.bind (skipBlank_gives (by simp : ∀ b ∈ ([] : List UInt8), isBlank b = true) (by simp; decide)) ?_
  simp only [List.head?_cons]
  rw [utf8_quote, List.append_assoc, List.cons_append, List.append_assoc, List.singleton_append]
  split
  · simp_all
  · simp_all
  rename_i b _ hb
  obtain rfl : b = 44 := by simpa using hb.symm
  simp only [show (44 == (44 : UInt8) && !false) = true from rfl, if_true]
  refine Gives.bind (bump_gives _ _) (Gives.bind (skipBlank_gives hbl (by simp; decide)) ?_)
  simp only [List.head?_cons]
  exact Gives.bind (bump_gives _ _) (Gives.map (readStr_gives k more))

theorem nextKey_end_gives (more : List UInt8) :
    (nextKey false).Gives (bl ++ 125 :: more) none (125 :: more) := by
  unfold nextKey
  refine Gives.bind (skipBlank_gives hbl (by simp; decide)) ?_
  exact pure_gives _ _

end Punctuation

theorem expectColon_gives (more : List UInt8) : expectColon.Gives (58 :: more) () more := by
  unfold expectColon
  exact Gives.bind (skipBlank_gives (by simp : ∀ b ∈ ([] : List UInt8), isBlank b = true) (by simp; decide)) (bump_gives _ _)

theorem endObject_gives (more : List UInt8) : endObject.Gives (125 :: more) () more := by
  unfold endObject
  exact Gives.bind (skipBlank_gives (by simp : ∀ b ∈ ([] : List UInt8), isBlank b = true) (by simp; decide)) (bump_gives _ _)

/-- One field of a record: its name, shape and default, the value written and the value
read back. -/
structure Member where
  key : String
  shape : Shape
  absent : Absent
  value : Json
  out : Json

namespace Member

/-- The field as a record shape lists it. -/
def field (m : Member) : String × Shape × Absent := (m.key, m.shape, m.absent)

/-- The member as the writer's object holds it. -/
def written (m : Member) : String × Json := (m.key, m.value)

/-- The member as decoding gives it back. -/
def read (m : Member) : String × Json := (m.key, m.out)

/-- The line of a member in pretty text, without its line break. -/
def text (level : Nat) (m : Member) : String :=
  indent level ++ quote m.key ++ ": " ++ pretty level m.value

end Member

/-- The members after the first, each after a comma and a line break. -/
def tailText (level : Nat) : List Member → String
  | [] => ""
  | m :: ms => ",\n" ++ m.text level ++ tailText level ms

theorem prettyFields_members (level : Nat) (m : Member) (ms : List Member) :
    prettyFields level ((m :: ms).map Member.written) = m.text level ++ tailText level ms := by
  induction ms generalizing m with
  | nil => simp [Member.written, prettyFields_single, Member.text, tailText]
  | cons m' ms ih =>
    rw [List.map_cons, Member.written, prettyFields_cons _ _ _ _ (by simp), ih]
    simp [Member.text, tailText, String.append_assoc]

theorem indent_blank (level : Nat) : ∀ b ∈ utf8 ("\n" ++ indent level), isBlank b = true := by
  intro b hb
  obtain ⟨c, hc, hb⟩ := List.mem_flatMap.1 hb
  simp only [indent, String.toList_append, String.toList_ofList, List.mem_append,
    List.mem_replicate] at hc
  rcases hc with hc | ⟨-, rfl⟩
  · obtain rfl : c = '\n' := by simpa using hc
    rw [show String.utf8EncodeChar '\n' = [10] from rfl, List.mem_singleton] at hb
    rw [hb]
    rfl
  · rw [show String.utf8EncodeChar ' ' = [32] from rfl, List.mem_singleton] at hb
    rw [hb]
    rfl

theorem utf8_tailText_cons (level : Nat) (m : Member) (ms : List Member) :
    utf8 (tailText level (m :: ms)) = 44 :: (utf8 ("\n" ++ indent level) ++ utf8 (quote m.key) ++
      58 :: 32 :: (utf8 (pretty level m.value) ++ utf8 (tailText level ms))) := by
  simp only [tailText, Member.text, utf8_append, List.append_assoc]
  rfl

theorem lookup_read {ms : List Member} (hk : (ms.map Member.key).Nodup) {m : Member}
    (hm : m ∈ ms) : (ms.map Member.read).lookup m.key = some m.out := by
  induction ms with
  | nil => simp at hm
  | cons m' ms ih =>
    rw [List.map_cons, Member.read, List.lookup_cons]
    rw [List.map_cons, List.nodup_cons] at hk
    rcases List.mem_cons.1 hm with rfl | hm
    · simp
    · have hne : (m.key == m'.key) = false :=
        beq_false_of_ne fun e => hk.1 (e ▸ List.mem_map_of_mem hm)
      rw [hne, ih hk.2 hm]

theorem lookup_read_none {ms : List Member} {k : String} (hk : k ∉ ms.map Member.key) :
    (ms.map Member.read).lookup k = none := by
  induction ms with
  | nil => rfl
  | cons m ms ih =>
    rw [List.map_cons, List.mem_cons, not_or] at hk
    rw [List.map_cons, Member.read, List.lookup_cons, beq_false_of_ne hk.1, ih hk.2]

theorem find_field {ms : List Member} (hk : (ms.map Member.key).Nodup) {m : Member}
    (hm : m ∈ ms) : (ms.map Member.field).find? (fun f => f.1 == m.key) = some m.field := by
  induction ms with
  | nil => simp at hm
  | cons m' ms ih =>
    rw [List.map_cons, List.nodup_cons] at hk
    rw [List.map_cons, List.find?_cons]
    rcases List.mem_cons.1 hm with rfl | hm
    · simp [Member.field]
    · have hne : (m'.key == m.key) = false :=
        beq_false_of_ne fun e => hk.1 (e ▸ List.mem_map_of_mem hm)
      simp only [Member.field] at ih ⊢
      rw [hne, ih hk.2 hm]

theorem mapM_members {g : String × Shape × Absent → Except ReadError (String × Json)}
    {ns : List Member} (hg : ∀ m ∈ ns, g m.field = .ok m.read) :
    (ns.map Member.field).mapM g = .ok (ns.map Member.read) := by
  induction ns with
  | nil => rfl
  | cons n ns ih =>
    rw [List.map_cons, List.mapM_cons, hg n List.mem_cons_self,
      ih fun m hm => hg m (List.mem_cons_of_mem _ hm)]
    rfl

/-- A record whose fields are all present is filled as it stands. -/
theorem completeRecord_members {ms : List Member} (hk : (ms.map Member.key).Nodup) :
    completeRecord (ms.map Member.field) (ms.map Member.read) = .ok (.obj (ms.map Member.read)) := by
  unfold completeRecord
  rw [mapM_members fun m hm => ?_]
  · rfl
  · simp only [Member.field, lookup_read hk hm]
    rfl

section Members
variable {d f depth : Nat} {fields : List (String × Shape × Absent)}

/-- One round of the member loop: a key, its colon and its value. -/
theorem member_step {acc res : List (String × Json)} {m : Member} {first : Bool}
    {fuel level : Nat} {bytes after rest : List UInt8}
    (hfind : fields.find? (fun f => f.1 == m.key) = some m.field)
    (hacc : acc.lookup m.key = none) (hv : ReadsBack m.shape m.value m.out d f) (hd : d ≤ depth)
    (hf : f ≤ fuel)
    (hkey : (nextKey first).Gives bytes (some m.key)
      (58 :: 32 :: (utf8 (pretty level m.value) ++ after)))
    (hafter : Follows after)
    (hnext : (readRecordMembers depth fields false (acc ++ [m.read]) fuel).Gives after res rest) :
    (readRecordMembers depth fields first acc (fuel + 1)).Gives bytes res rest := by
  show (nextKey first >>= _).Gives _ _ _
  refine Gives.bind hkey ?_
  simp only [hfind, Member.field, hacc, Option.isSome_none, Bool.false_eq_true, if_false]
  refine Gives.bind (expectColon_gives _) ?_
  exact Gives.bind (hv depth fuel level [32] after hd hf (by simp; decide) hafter) hnext

theorem tailText_follows (level lvl : Nat) (ms : List Member) (rest : List UInt8) :
    Follows (utf8 (tailText level ms) ++ utf8 ("\n" ++ indent lvl) ++ rest) := by
  cases ms with
  | nil => right; right; simp [tailText, utf8, String.toList_append]; rfl
  | cons m ms => right; left; simp [tailText, utf8, String.toList_append]; rfl

/-- The members after the first read back, each after its comma. -/
theorem tail_gives (level lvl : Nat) (rest : List UInt8) :
    ∀ (ms pre : List Member) (fuel : Nat), ((pre ++ ms).map Member.key).Nodup →
      (∀ m ∈ ms, ReadsBack m.shape m.value m.out d f) → d ≤ depth → f + ms.length + 1 ≤ fuel →
      (readRecordMembers depth ((pre ++ ms).map Member.field) false (pre.map Member.read) fuel).Gives
        (utf8 (tailText level ms) ++ utf8 ("\n" ++ indent lvl) ++ 125 :: rest)
        ((pre ++ ms).map Member.read) (125 :: rest)
  | [], pre, fuel, _, _, _, hf => by
    obtain ⟨fuel, rfl⟩ : ∃ k, fuel = k + 1 := ⟨fuel - 1, by omega⟩
    show (nextKey false >>= _).Gives _ _ _
    rw [List.append_nil]
    exact Gives.bind (nextKey_end_gives (indent_blank lvl) _) (pure_gives _ _)
  | m :: ms, pre, fuel, hk, h, hd, hf => by
    obtain ⟨fuel, rfl⟩ : ∃ k, fuel = k + 1 := ⟨fuel - 1, by simp at hf; omega⟩
    have e : pre ++ m :: ms = (pre ++ [m]) ++ ms := by simp
    have hnd : ((pre ++ m :: ms).map Member.key).Nodup := hk
    rw [e] at hk ⊢
    have hmem : m ∈ (pre ++ [m]) ++ ms := by simp
    have hkey : (nextKey false).Gives
        (utf8 (tailText level (m :: ms)) ++ utf8 ("\n" ++ indent lvl) ++ 125 :: rest) (some m.key)
        (58 :: 32 :: (utf8 (pretty level m.value) ++
          (utf8 (tailText level ms) ++ utf8 ("\n" ++ indent lvl) ++ 125 :: rest))) := by
      have := nextKey_comma_gives (indent_blank level) m.key
        (58 :: 32 :: (utf8 (pretty level m.value) ++
          (utf8 (tailText level ms) ++ utf8 ("\n" ++ indent lvl) ++ 125 :: rest)))
      rw [utf8_tailText_cons]
      simpa using this
    refine member_step (find_field hk hmem) (lookup_read_none ?_) (h m List.mem_cons_self) hd
      (by simp at hf; omega) hkey (tailText_follows level lvl ms _) ?_
    · rw [List.map_append, List.nodup_append] at hnd
      exact fun hm => hnd.2.2 _ hm m.key (by simp) rfl
    · rw [show pre.map Member.read ++ [m.read] = (pre ++ [m]).map Member.read by simp]
      exact tail_gives level lvl rest ms (pre ++ [m]) fuel hk
        (fun m' hm' => h m' (List.mem_cons_of_mem _ hm')) hd (by simp at hf; omega)

end Members

/-- A record written with all its fields, in their declared order, reads back with each
field read back. -/
theorem readsBack_record {d f : Nat} (name : String) (ms : List Member) (hne : ms ≠ [])
    (hk : (ms.map Member.key).Nodup) (h : ∀ m ∈ ms, ReadsBack m.shape m.value m.out d f) :
    ReadsBack (.record name (ms.map Member.field)) (.obj (ms.map Member.written))
      (.obj (ms.map Member.read)) (d + 2) (f + ms.length + 2) := by
  refine ReadsBack.of_succ (by omega) fun depth fuel level bl rest hd hf hbl _ => ?_
  obtain ⟨m, ms', rfl⟩ := List.exists_cons_of_ne_nil hne
  have hkey := nextKey_first_gives (indent_blank (level + 1)) m.key
    (58 :: 32 :: (utf8 (pretty (level + 1) m.value) ++
      (utf8 (tailText (level + 1) ms') ++ utf8 ("\n" ++ indent level) ++ 125 :: rest)))
  have hbytes : utf8 (pretty level (.obj ((m :: ms').map Member.written))) ++ rest =
      123 :: (utf8 ("\n" ++ indent (level + 1)) ++ utf8 (quote m.key) ++
        58 :: 32 :: (utf8 (pretty (level + 1) m.value) ++
          (utf8 (tailText (level + 1) ms') ++ utf8 ("\n" ++ indent level) ++ 125 :: rest))) := by
    rw [pretty_obj _ _ (by simp), prettyFields_members]
    simp only [Member.text, utf8_append, List.append_assoc]
    rfl
  show (placing _).Gives _ _ _
  rw [List.append_assoc, hbytes]
  refine placing_gives (Gives.bind (skipBlank_gives hbl (by simp; decide)) ?_)
  simp only [List.head?_cons, if_neg (show ¬ depth ≤ 1 by omega)]
  have hmembers : (readRecordMembers (depth - 1) ((m :: ms').map Member.field) true [] fuel).Gives
      (utf8 ("\n" ++ indent (level + 1)) ++ utf8 (quote m.key) ++
        58 :: 32 :: (utf8 (pretty (level + 1) m.value) ++
          (utf8 (tailText (level + 1) ms') ++ utf8 ("\n" ++ indent level) ++ 125 :: rest)))
      ((m :: ms').map Member.read) (125 :: rest) := by
    obtain ⟨fuel, rfl⟩ : ∃ k, fuel = k + 1 := ⟨fuel - 1, by simp at hf; omega⟩
    refine member_step (find_field hk List.mem_cons_self) rfl (h m List.mem_cons_self)
      (by omega) (by simp at hf; omega) hkey (tailText_follows _ level ms' _) ?_
    exact tail_gives (level + 1) level rest ms' [m] fuel hk
      (fun m' hm' => h m' (List.mem_cons_of_mem _ hm')) (by omega) (by simp at hf; omega)
  refine Gives.bind (bump_gives _ _)
    (Gives.bind (thenClose_gives hmembers (endObject_gives rest)) ?_)
  rw [completeRecord_members hk]
  exact ofExcept_gives _ _

/-- The pretty text of an object is at least as long as the quoted key of its first member. -/
theorem length_quote_le_pretty (level : Nat) (k : String) (v : Json) (rest : List (String × Json)) :
    (utf8 (quote k)).length ≤ (utf8 (pretty level (.obj ((k, v) :: rest)))).length := by
  rw [pretty_obj _ _ (by simp)]
  cases rest with
  | nil =>
    rw [prettyFields_single]
    simp only [utf8_append, List.length_append]
    omega
  | cons e rest =>
    rw [prettyFields_cons _ _ _ _ (by simp)]
    simp only [utf8_append, List.length_append]
    omega

theorem expectEnd_gives : expectEnd.Gives [] () [] := rfl

/-- A value whose pretty text reads back decodes from that text, given the nesting and fuel
that decoding a text starts with. -/
theorem decodeText_pretty {sh : Shape} {j out : Json} {d f : Nat} (h : ReadsBack sh j out d f)
    (hd : d ≤ 128) (hf : f ≤ fuelFor (utf8 (pretty 0 j)).length) :
    sh.decodeText (pretty 0 j) = .ok out := by
  have hr := h 128 _ 0 [] [] hd hf (by simp) (Or.inl rfl)
  rw [List.nil_append, List.append_nil] at hr
  have hrun : (do let v ← readShape 128 sh (fuelFor (utf8 (pretty 0 j)).length); expectEnd; pure v :
      Reader Json).Gives (utf8 (pretty 0 j)) out [] :=
    Gives.bind hr (Gives.bind expectEnd_gives (pure_gives out []))
  unfold Gives at hrun
  unfold Shape.decodeText runText
  simp only [hrun]


end TxnCoord.Json.Reader
