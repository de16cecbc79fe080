import Mathlib
import TxnCoord.Uuid
/-!
# The written form of an identifier reads back

An identifier below 2^128 is written as 32 hex digits in five groups, and reading that form
gives the identifier back. So two such identifiers with the same written form are equal, and
a written form has 36 characters, none of them a dot. Every form reads at most 32 hex digits,
so every identifier read is below 2^128.

Main statements:

    u.value < Nat.pow 2 128 → parse u.render = .ok u                    (parse_render)
    parse s = .ok u → u.value < Nat.pow 2 128                           (parse_lt)
-/

namespace TxnCoord.Uuid

theorem length_hexDigits (n k : Nat) : (hexDigits n k).length = k := by
  induction k generalizing n with
  | zero => rfl
  | succ k ih => simp [hexDigits, ih]

theorem mem_hexDigits {n k : Nat} {c : Char} (h : c ∈ hexDigits n k) :
    ∃ d < 16, c = hexDigit d := by
  induction k generalizing n with
  | zero => simp [hexDigits] at h
  | succ k ih =>
    rw [hexDigits, List.mem_append, List.mem_singleton] at h
    rcases h with h | rfl
    · exact ih h
    · exact ⟨n % 16, Nat.mod_lt _ (by omega), rfl⟩

theorem hexValue_hexDigit {d : Nat} (h : d < 16) : hexValue (hexDigit d) = some d :=
  (by decide : ∀ d : Fin 16, hexValue (hexDigit d) = some d) ⟨d, h⟩

theorem hexDigit_ne_hyphen {d : Nat} (h : d < 16) : hexDigit d ≠ '-' :=
  (by decide : ∀ d : Fin 16, hexDigit d ≠ '-') ⟨d, h⟩

theorem hexDigit_ascii {d : Nat} (h : d < 16) : (hexDigit d).toNat < 128 :=
  (by decide : ∀ d : Fin 16, (hexDigit d).toNat < 128) ⟨d, h⟩

/-- The `k` hex digits of a number read back as the number modulo `16 ^ k`. -/
theorem hexNumber_hexDigits (n k : Nat) : hexNumber (hexDigits n k) = some (n % 16 ^ k) := by
  induction k generalizing n with
  | zero => simp [hexDigits, hexNumber, Nat.mod_one]
  | succ k ih =>
    have h := ih (n / 16)
    unfold hexNumber at h ⊢
    rw [hexDigits, List.foldl_append, h]
    simp only [List.foldl_cons, List.foldl_nil, Option.bind_eq_bind, Option.bind_some,
      hexValue_hexDigit (Nat.mod_lt n (by omega : 16 > 0))]
    rw [Nat.pow_succ', Nat.mod_mul, Nat.mul_comm, Nat.add_comm]
    rfl

theorem utf8ByteSize_ofList_ascii {cs : List Char} (h : ∀ c ∈ cs, c.toNat < 128) :
    (String.ofList cs).utf8ByteSize = cs.length := by
  rw [← String.size_toByteArray, String.toByteArray_ofList, List.utf8Encode,
    List.size_toByteArray]
  induction cs with
  | nil => rfl
  | cons c cs ih =>
    have hc : c.utf8Size = 1 := by
      have := h c (by simp)
      rw [Char.utf8Size_eq_one_iff, UInt32.le_iff_toNat_le]
      exact Nat.le_of_lt_succ this
    rw [List.flatMap_cons, List.length_append, String.length_utf8EncodeChar, hc,
      ih fun x hx => h x (by simp [hx])]
    simp [Nat.add_comm]

/-- The characters of the hyphenated form: five groups of the 32 digits joined by hyphens. -/
theorem render_toList (u : Uuid) :
    u.render.toList =
      let d := hexDigits u.value 32
      d.take 8 ++ ['-'] ++ (d.drop 8).take 4 ++ ['-'] ++ (d.drop 12).take 4 ++ ['-'] ++
        (d.drop 16).take 4 ++ ['-'] ++ d.drop 20 := by
  simp [render]

theorem groups_join (d : List Char) :
    d.take 8 ++ (d.drop 8).take 4 ++ (d.drop 12).take 4 ++ (d.drop 16).take 4 ++ d.drop 20 = d := by
  have h3 : (d.drop 16).take 4 ++ d.drop 20 = d.drop 16 := by
    rw [show 20 = 16 + 4 from rfl, ← List.drop_drop, List.take_append_drop]
  have h2 : (d.drop 12).take 4 ++ d.drop 16 = d.drop 12 := by
    rw [show 16 = 12 + 4 from rfl, ← List.drop_drop, List.take_append_drop]
  have h1 : (d.drop 8).take 4 ++ d.drop 12 = d.drop 8 := by
    rw [show 12 = 8 + 4 from rfl, ← List.drop_drop, List.take_append_drop]
  simp only [List.append_assoc, h3, h2, h1, List.take_append_drop]

theorem ofHyphenated_render {u : Uuid} (h : u.value < Nat.pow 2 128) :
    ofHyphenated u.render.toList = some u := by
  have hd := length_hexDigits u.value 32
  have hnh : ∀ c ∈ hexDigits u.value 32, (c != '-') = true := by
    intro c hc
    obtain ⟨k, hk, rfl⟩ := mem_hexDigits hc
    simpa using hexDigit_ne_hyphen hk
  have hf : u.render.toList.filter (· != '-') = hexDigits u.value 32 := by
    rw [render_toList]
    simp only [List.filter_append, List.filter_cons, List.filter_nil,
      show ('-' != '-') = false from rfl, Bool.false_eq_true, if_false, List.append_nil]
    rw [List.filter_eq_self.2 fun c hc => hnh c (List.mem_of_mem_take hc),
      List.filter_eq_self.2 fun c hc => hnh c (List.mem_of_mem_drop (List.mem_of_mem_take hc)),
      List.filter_eq_self.2 fun c hc => hnh c (List.mem_of_mem_drop (List.mem_of_mem_take hc)),
      List.filter_eq_self.2 fun c hc => hnh c (List.mem_of_mem_drop (List.mem_of_mem_take hc)),
      List.filter_eq_self.2 fun c hc => hnh c (List.mem_of_mem_drop hc), groups_join]
  have hv : u.value % 16 ^ 32 = u.value := Nat.mod_eq_of_lt (by simpa [Nat.pow_eq] using h)
  unfold ofHyphenated
  rw [if_pos (by rw [render_toList]; simp [hd]), hf, hexNumber_hexDigits, hv]
  simp [hd]

theorem utf8ByteSize_render (u : Uuid) : u.render.utf8ByteSize = 36 := by
  have hd := length_hexDigits u.value 32
  have ha : ∀ c ∈ hexDigits u.value 32, c.toNat < 128 := by
    intro c hc
    obtain ⟨k, hk, rfl⟩ := mem_hexDigits hc
    exact hexDigit_ascii hk
  unfold render
  generalize hexDigits u.value 32 = d at ha hd ⊢
  rw [utf8ByteSize_ofList_ascii]
  · simp [hd]
  · intro c hc
    simp only [List.mem_append, List.mem_singleton] at hc
    rcases hc with ((((((((hc | rfl) | hc) | rfl) | hc) | rfl) | hc) | rfl) | hc)
    all_goals first
      | exact ha c (List.mem_of_mem_take hc)
      | exact ha c (List.mem_of_mem_drop (List.mem_of_mem_take hc))
      | exact ha c (List.mem_of_mem_drop hc)
      | decide

/-- An identifier below 2^128 reads back from its hyphenated form. -/
theorem parse_render {u : Uuid} (h : u.value < Nat.pow 2 128) : parse u.render = .ok u := by
  unfold parse shaped
  simp only [utf8ByteSize_render, ofHyphenated_render h]
  rfl

theorem render_injective {u v : Uuid} (hu : u.value < Nat.pow 2 128) (hv : v.value < Nat.pow 2 128)
    (h : u.render = v.render) : u = v := by
  have hp := parse_render hu
  rw [h, parse_render hv] at hp
  exact (Except.ok.inj hp).symm

theorem length_render (u : Uuid) : u.render.toList.length = 36 := by
  rw [render_toList]
  simp [length_hexDigits]

/-- A written identifier holds only hex digits and hyphens. -/
theorem mem_render {u : Uuid} {c : Char} (h : c ∈ u.render.toList) :
    c = '-' ∨ ∃ d < 16, c = hexDigit d := by
  have hd : ∀ c ∈ hexDigits u.value 32, ∃ d < 16, c = hexDigit d := fun _ hc => mem_hexDigits hc
  rw [render_toList] at h
  dsimp only at h
  generalize hexDigits u.value 32 = ds at hd h
  simp only [List.mem_append, List.mem_singleton] at h
  rcases h with ((((((((h | h) | h) | h) | h) | h) | h) | h) | h)
  all_goals first
    | exact Or.inl h
    | exact Or.inr (hd c (List.mem_of_mem_take h))
    | exact Or.inr (hd c (List.mem_of_mem_drop (List.mem_of_mem_take h)))
    | exact Or.inr (hd c (List.mem_of_mem_drop h))

theorem dot_not_mem_render (u : Uuid) : '.' ∉ u.render.toList := by
  intro h
  rcases mem_render h with h | ⟨d, hd, h⟩
  · exact absurd h (by decide)
  · exact absurd h ((by decide : ∀ d : Fin 16, '.' ≠ hexDigit d) ⟨d, hd⟩)

/-! ## Every identifier read is below 2^128 -/

theorem hexValue_lt {c : Char} {d : Nat} (h : hexValue c = some d) : d < 16 := by
  unfold hexValue at h
  split_ifs at h with h₁ h₂ h₃ <;> cases h
  · have := h₁.2
    rw [Char.le_def, UInt32.le_iff_toNat_le] at this
    change c.toNat ≤ 57 at this
    omega
  · have := h₂.2
    rw [Char.le_def, UInt32.le_iff_toNat_le] at this
    change c.toNat ≤ 102 at this
    omega
  · have := h₃.2
    rw [Char.le_def, UInt32.le_iff_toNat_le] at this
    change c.toNat ≤ 70 at this
    omega

/-- Reading hex digits on from a number `a` gives less than `a + 1` followed by as many zero
digits; reading on from no number gives none. -/
theorem foldl_hex_lt (cs : List Char) {o : Option Nat} {n : Nat}
    (h : cs.foldl (fun acc c => do let a ← acc; let d ← hexValue c; pure (a * 16 + d)) o = some n) :
    ∃ a, o = some a ∧ n < (a + 1) * 16 ^ cs.length := by
  induction cs generalizing o with
  | nil => exact ⟨n, h, by simp⟩
  | cons c rest ih =>
    obtain ⟨a', ha', hn⟩ := ih h
    cases o with
    | none => cases ha'
    | some a =>
      cases hc : hexValue c with
      | none => simp [hc] at ha'
      | some d =>
        simp [hc] at ha'
        have hd := hexValue_lt hc
        refine ⟨a, rfl, ?_⟩
        calc n < (a' + 1) * 16 ^ rest.length := hn
          _ ≤ (a + 1) * 16 * 16 ^ rest.length := Nat.mul_le_mul_right _ (by omega)
          _ = (a + 1) * 16 ^ (c :: rest).length := by rw [List.length_cons, Nat.pow_succ']; ring

theorem hexNumber_lt {cs : List Char} {n : Nat} (h : hexNumber cs = some n) :
    n < 16 ^ cs.length := by
  obtain ⟨a, ha, hn⟩ := foldl_hex_lt cs h
  cases ha
  simpa using hn

theorem ofHyphenated_lt {cs : List Char} {u : Uuid} (h : ofHyphenated cs = some u) :
    u.value < Nat.pow 2 128 := by
  unfold ofHyphenated at h
  split_ifs at h with _ hlen
  · obtain ⟨n, hn, hu⟩ := Option.bind_eq_some_iff.1 h
    cases hu
    have := hexNumber_lt hn
    rw [hlen] at this
    exact this.trans_eq (by norm_num)
  · simp at h

theorem parse_lt {s : String} {u : Uuid} (h : parse s = .ok u) : u.value < Nat.pow 2 128 := by
  unfold parse at h
  split at h
  · next u' hs =>
    cases h
    unfold shaped at hs
    dsimp only at hs
    split_ifs at hs
    · unfold ofSimple at hs
      split_ifs at hs with hlen
      obtain ⟨n, hn, rfl⟩ := Option.map_eq_some_iff.1 hs
      have := hexNumber_lt hn
      rw [hlen] at this
      exact this.trans_eq (by norm_num)
    all_goals exact ofHyphenated_lt hs
  · cases h

end TxnCoord.Uuid
