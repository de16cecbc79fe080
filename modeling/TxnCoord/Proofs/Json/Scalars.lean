import Mathlib
import TxnCoord.Json.Decode
/-!
# Reading back what the writer prints: bytes

Statements about the byteOf machine of the reader, stated with `Gives r bytes v rest`: run on
`bytes`, the reader `r` gives `v` and leaves `rest`. Each reader of the machine gets one such
lemma, and a whole read is the chain of them (`Gives.bind`).

* A quoted string, as `quote` writes it, reads back as its text, whatever the text holds:
  a plain character stands for itself and every other one for its escape (`readStr_gives`).
* A whole number that fits 64 bits, in decimal, reads back when nothing that would continue
  it follows (`readNumber_gives`).

Main statements:

    readStr.Gives (escBytes t.toList ++ 34 :: rest) t rest                   (readStr_gives)
    n ≤ u64Max → EndsNumber rest →
      (readNumber true).Gives ((Nat.toDigits 10 n).map byteOf ++ rest) (.unsigned n) rest
                                                                         (readNumber_gives)
-/

namespace TxnCoord.Json.Reader

/-- Run on `bytes`, the reader gives `v` and leaves `rest`. -/

def Gives {α : Type} (r : Reader α) (bytes : List UInt8) (v : α) (rest : List UInt8) : Prop :=
  (r.run).run bytes = (.ok v, rest)

section Basics
variable {α β : Type}

theorem Gives.bind {r : Reader α} {f : α → Reader β} {b m rest : List UInt8}
    {v : α} {w : β} (h₁ : r.Gives b v m) (h₂ : (f v).Gives m w rest) :
    (r >>= f).Gives b w rest := by
  unfold Gives at *
  simp only [ExceptT.run_bind, StateT.run_bind] at *
  rw [h₁]
  exact h₂

theorem pure_gives (v : α) (b : List UInt8) : (pure v : Reader α).Gives b v b := rfl

theorem Gives.map {r : Reader α} {f : α → β} {b rest : List UInt8} {v : α}
    (h : r.Gives b v rest) : (f <$> r).Gives b (f v) rest := by
  rw [map_eq_pure_bind]
  exact Gives.bind h (pure_gives _ rest)
theorem peek_gives (b : List UInt8) : peek.Gives b b.head? b := rfl
theorem bump_gives (x : UInt8) (b : List UInt8) : bump.Gives (x :: b) () b := rfl
theorem next_gives (x : UInt8) (b : List UInt8) : next.Gives (x :: b) (some x) b := rfl
theorem get_gives (b : List UInt8) : (get : Reader (List UInt8)).Gives b b b := rfl
theorem set_gives (b b' : List UInt8) : (set b' : Reader Unit).Gives b () b' := rfl

theorem attempt_gives {x : Reader α} {b rest : List UInt8} {v : α} (h : x.Gives b v rest) :
    (attempt x).Gives b (.ok v) rest := by
  unfold Gives attempt at *
  show (Except.ok ((x.run).run b).1, ((x.run).run b).2) = _
  rw [h]

theorem placing_gives {x : Reader α} {b rest : List UInt8} {v : α} (h : x.Gives b v rest) :
    (placing x).Gives b v rest := by
  unfold placing
  exact Gives.bind (attempt_gives h) (pure_gives v rest)

theorem ofExcept_gives (v : α) (b : List UInt8) : (ofExcept (.ok v) : Reader α).Gives b v b := rfl

theorem thenClose_gives {body : Reader α} {close : Reader Unit} {b m rest : List UInt8} {v : α}
    (h₁ : body.Gives b v m) (h₂ : close.Gives m () rest) :
    (thenClose body close).Gives b v rest := by
  unfold thenClose
  exact Gives.bind (attempt_gives h₁) (Gives.bind (attempt_gives h₂) (pure_gives v rest))

end Basics

/-! ## Blanks and words -/

theorem skipBlank_gives {bl rest : List UInt8} (hbl : ∀ b ∈ bl, isBlank b = true)
    (hr : ∀ b ∈ rest.head?, isBlank b = false) :
    skipBlank.Gives (bl ++ rest) rest.head? rest := by
  have hd : (bl ++ rest).dropWhile isBlank = rest := by
    rw [List.dropWhile_append_of_pos hbl]
    cases rest with
    | nil => rfl
    | cons x xs => simp [hr x rfl]
  show (Except.ok ((bl ++ rest).dropWhile isBlank).head?, (bl ++ rest).dropWhile isBlank) = _
  rw [hd]

theorem expectWord_gives (w rest : List UInt8) : (expectWord w).Gives (w ++ rest) () rest := by
  induction w with
  | nil => exact pure_gives () rest
  | cons c w ih =>
    rw [expectWord]
    refine Gives.bind (next_gives c _) ?_
    simpa using ih


/-! ## Text -/

theorem utf8_append (s t : String) : utf8 (s ++ t) = utf8 s ++ utf8 t := by
  simp [utf8, String.toList_append]

theorem decodeText_utf8 (s : String) : decodeText (utf8 s) = s := by
  have hb : (⟨(utf8 s).toArray⟩ : ByteArray) = s.toByteArray := by
    rw [← String.utf8Encode_toList]
    cases h : s.toList.utf8Encode with
    | mk data =>
      have := congrArg ByteArray.data h
      simp only [List.utf8Encode, List.data_toByteArray] at this
      simp [utf8, this]
  unfold decodeText String.fromUTF8?
  rw [hb, dif_pos s.isValidUTF8]
  rfl

theorem utf8EncodeChar_ascii {c : Char} (h : c.toNat < 128) :
    String.utf8EncodeChar c = [c.toNat.toUInt8] := by
  have hv : c.val.toNat ≤ 0x7f := by change c.toNat ≤ 0x7f; omega
  unfold String.utf8EncodeChar
  rw [if_pos hv]
  rfl

theorem utf8EncodeChar_high {c : Char} (h : 128 ≤ c.toNat) :
    ∀ b ∈ String.utf8EncodeChar c, 128 ≤ b.toNat := by
  have hv : ¬ c.val.toNat ≤ 0x7f := by change ¬ c.toNat ≤ 0x7f; omega
  unfold String.utf8EncodeChar
  rw [if_neg hv]
  intro b hb
  repeat' split at hb
  all_goals
    simp only [List.mem_cons, List.not_mem_nil, or_false] at hb
    rcases hb with rfl | rfl | rfl | rfl <;> simp <;> omega

/-! ## Quoted text -/

/-- A character that a quoted string holds as it is: no escape and no fault. -/
def Plain (c : Char) : Prop := c.toNat ≠ 34 ∧ c.toNat ≠ 92 ∧ 32 ≤ c.toNat

instance : DecidablePred Plain := fun _ => inferInstanceAs (Decidable (_ ∧ _ ∧ _))

theorem isPlain_iff (b : UInt8) :
    isPlain b = true ↔ b.toNat ≠ 34 ∧ b.toNat ≠ 92 ∧ 32 ≤ b.toNat := by
  simp [isPlain, UInt8.le_iff_toNat_le, ← UInt8.toNat_inj, and_assoc]

theorem plain_bytes {c : Char} (h : Plain c) : ∀ b ∈ String.utf8EncodeChar c, isPlain b = true := by
  intro b hb
  rw [isPlain_iff]
  by_cases hc : c.toNat < 128
  · rw [utf8EncodeChar_ascii hc, List.mem_singleton] at hb
    subst hb
    obtain ⟨h1, h2, h3⟩ := h
    simp only [Nat.toUInt8]
    show c.toNat % 256 ≠ 34 ∧ c.toNat % 256 ≠ 92 ∧ 32 ≤ c.toNat % 256
    omega
  · have := utf8EncodeChar_high (by omega) b hb
    omega

theorem escapeChar_plain {c : Char} (h : Plain c) : escapeChar c = String.singleton c := by
  obtain ⟨h1, h2, h3⟩ := h
  have e1 : c ≠ '"' := fun e => h1 (by rw [e]; rfl)
  have e2 : c ≠ '\\' := fun e => h2 (by rw [e]; rfl)
  unfold escapeChar
  rw [if_neg e1, if_neg e2, if_neg (by omega), if_neg (by omega), if_neg (by omega),
    if_neg (by omega), if_neg (by omega), if_neg (by omega)]

theorem utf8_singleton (c : Char) : utf8 (String.singleton c) = String.utf8EncodeChar c := by
  simp [utf8]

theorem readHex4_gives {a b c d : UInt8} {w x y z : Nat} (rest : List UInt8)
    (ha : hexValue a = some w) (hb : hexValue b = some x) (hc : hexValue c = some y)
    (hd : hexValue d = some z) :
    readHex4.Gives (a :: b :: c :: d :: rest) (((w * 16 + x) * 16 + y) * 16 + z) rest := by
  unfold readHex4
  refine Gives.bind (get_gives _) ?_
  simp only [ha, hb, hc, hd]
  exact Gives.bind (set_gives _ rest) (pure_gives _ rest)

theorem readUnicodeEscape_gives {a b c d : UInt8} {w x y z : Nat} (rest : List UInt8)
    (ha : hexValue a = some w) (hb : hexValue b = some x) (hc : hexValue c = some y)
    (hd : hexValue d = some z) (hn : ((w * 16 + x) * 16 + y) * 16 + z < 0xD800) :
    readUnicodeEscape.Gives (a :: b :: c :: d :: rest)
      (codeBytes (((w * 16 + x) * 16 + y) * 16 + z)) rest := by
  unfold readUnicodeEscape
  refine Gives.bind (readHex4_gives rest ha hb hc hd) ?_
  have h1 : (0xDC00 ≤ ((w * 16 + x) * 16 + y) * 16 + z &&
      ((w * 16 + x) * 16 + y) * 16 + z ≤ 0xDFFF) = false := by simp; omega
  have h2 : (((w * 16 + x) * 16 + y) * 16 + z < 0xD800 ||
      ((w * 16 + x) * 16 + y) * 16 + z > 0xDBFF) = true := by simp; omega
  simp only [h1, h2]
  exact pure_gives _ rest

theorem readEscape_unicode {tail rest v : List UInt8} (h : readUnicodeEscape.Gives tail v rest) :
    readEscape.Gives (117 :: tail) v rest := by
  unfold readEscape
  exact Gives.bind (next_gives 117 tail) h

theorem hexValue_hexDigit {k : Nat} (hk : k < 16) :
    hexValue ((hexDigit k).toNat.toUInt8) = some k :=
  (by decide : ∀ k : Fin 16, hexValue ((hexDigit k).toNat.toUInt8) = some k) ⟨k, hk⟩

theorem hexDigit_ascii {k : Nat} (hk : k < 16) : (hexDigit k).toNat < 128 :=
  (by decide : ∀ k : Fin 16, (hexDigit k).toNat < 128) ⟨k, hk⟩

/-- The escape of a character that is not plain is a backslash and bytes that `readEscape`
turns back into the character. -/
theorem escape_gives {c : Char} (h : ¬ Plain c) (rest : List UInt8) :
    ∃ e, utf8 (escapeChar c) = 92 :: e ∧
      readEscape.Gives (e ++ rest) (String.utf8EncodeChar c) rest := by
  unfold Plain at h
  by_cases hl : c.toNat = 34 ∨ c.toNat = 92 ∨ c.toNat = 8 ∨ c.toNat = 9 ∨ c.toNat = 10 ∨
    c.toNat = 12 ∨ c.toNat = 13
  · have hc := Char.ofNat_toNat c
    rcases hl with hk | hk | hk | hk | hk | hk | hk <;> rw [hk] at hc <;> subst hc <;>
      exact ⟨_, rfl, rfl⟩
  -- every other control character is written `\u00XX`
  have hlt : c.toNat < 32 := by omega
  have hesc : escapeChar c = "\\u00" ++ String.singleton (hexDigit (c.toNat / 16)) ++
      String.singleton (hexDigit (c.toNat % 16)) := by
    have e1 : c ≠ '"' := fun e => hl (Or.inl (by rw [e]; rfl))
    have e2 : c ≠ '\\' := fun e => hl (Or.inr (Or.inl (by rw [e]; rfl)))
    unfold escapeChar
    rw [if_neg e1, if_neg e2, if_neg (by omega), if_neg (by omega), if_neg (by omega),
      if_neg (by omega), if_neg (by omega), if_pos hlt]
  refine ⟨[117, 48, 48, (hexDigit (c.toNat / 16)).toNat.toUInt8,
    (hexDigit (c.toNat % 16)).toNat.toUInt8], ?_, ?_⟩
  · rw [hesc, utf8_append, utf8_append, utf8_singleton, utf8_singleton,
      utf8EncodeChar_ascii (hexDigit_ascii (by omega)),
      utf8EncodeChar_ascii (hexDigit_ascii (by omega))]
    rfl
  · have h0 : hexValue 48 = some 0 := by decide
    have hr := readUnicodeEscape_gives rest h0 h0
      (hexValue_hexDigit (by omega : c.toNat / 16 < 16))
      (hexValue_hexDigit (by omega : c.toNat % 16 < 16)) (by omega)
    rw [show ((0 * 16 + 0) * 16 + c.toNat / 16) * 16 + c.toNat % 16 = c.toNat by omega] at hr
    unfold codeBytes at hr
    rw [Char.ofNat_toNat] at hr
    exact readEscape_unicode hr

/-- The bytes of a list of characters, each escaped as a quoted string writes it. -/
def escBytes (cs : List Char) : List UInt8 := cs.flatMap fun c => utf8 (escapeChar c)

theorem span_plain {p : List Char} {x : UInt8} {more : List UInt8} (hp : ∀ c ∈ p, Plain c)
    (hx : isPlain x = false) :
    (escBytes p ++ x :: more).span isPlain = (p.flatMap String.utf8EncodeChar, x :: more) := by
  have he : escBytes p = p.flatMap String.utf8EncodeChar := by
    unfold escBytes
    refine List.flatMap_congr fun c hc => ?_
    rw [escapeChar_plain (hp c hc), utf8_singleton]
  have hall : ∀ b ∈ p.flatMap String.utf8EncodeChar, isPlain b = true := by
    intro b hb
    obtain ⟨c, hc, hb⟩ := List.mem_flatMap.1 hb
    exact plain_bytes (hp c hc) b hb
  rw [he, List.span_eq_takeWhile_dropWhile, List.takeWhile_append_of_pos hall,
    List.dropWhile_append_of_pos hall]
  simp [hx]

theorem escBytes_append (p q : List Char) : escBytes (p ++ q) = escBytes p ++ escBytes q := by
  simp [escBytes]

/-- Every text splits into its longest run of plain characters and the rest. -/
theorem plain_split (cs : List Char) :
    ∃ p t, cs = p ++ t ∧ (∀ c ∈ p, Plain c) ∧ ∀ c ∈ t.head?, ¬ Plain c := by
  let f : Char → Bool := fun c => decide (Plain c)
  refine ⟨cs.takeWhile f, cs.dropWhile f, List.takeWhile_append_dropWhile.symm,
    fun c hc => ?_, fun c hc => ?_⟩
  · simpa [f] using List.mem_takeWhile_imp hc
  · have h := List.head?_dropWhile_not f cs
    rw [Option.mem_def] at hc
    rw [hc] at h
    simpa [f] using h

/-- The body of a quoted string reads back as its text: one round of the loop takes the run
of plain characters and one escape. -/
theorem strBody_gives (cs : List Char) (acc rest : List UInt8) (fuel : Nat)
    (hf : cs.length < fuel) :
    (strBody acc fuel).Gives (escBytes cs ++ 34 :: rest)
      (decodeText (acc ++ cs.flatMap String.utf8EncodeChar)) rest := by
  induction fuel generalizing cs acc with
  | zero => omega
  | succ fuel ih =>
    obtain ⟨p, t, rfl, hp, ht⟩ := plain_split cs
    rw [strBody.eq_2]
    refine Gives.bind (get_gives _) ?_
    cases t with
    | nil =>
      rw [List.append_nil, span_plain hp rfl]
      refine Gives.bind (set_gives _ _) (Gives.bind (peek_gives _) ?_)
      simp only [List.head?_cons]
      exact Gives.bind (bump_gives _ _) (by simpa using pure_gives _ rest)
    | cons c t =>
      obtain ⟨e, he, hr⟩ := escape_gives (ht c rfl) (escBytes t ++ 34 :: rest)
      have hb : escBytes (p ++ c :: t) ++ 34 :: rest =
          escBytes p ++ 92 :: (e ++ (escBytes t ++ 34 :: rest)) := by
        simp [escBytes, he]
      rw [hb, span_plain hp rfl]
      refine Gives.bind (set_gives _ _) (Gives.bind (peek_gives _) ?_)
      simp only [List.head?_cons]
      refine Gives.bind (bump_gives _ _) (Gives.bind hr ?_)
      have := ih t (acc ++ p.flatMap String.utf8EncodeChar ++ String.utf8EncodeChar c)
        (by simp at hf; omega)
      simpa [List.append_assoc] using this

theorem escape_ne_nil (c : Char) : utf8 (escapeChar c) ≠ [] := by
  by_cases h : Plain c
  · rw [escapeChar_plain h, utf8_singleton]
    exact String.utf8EncodeChar_ne_nil
  · obtain ⟨e, he, -⟩ := escape_gives h []
    simp [he]

theorem length_le_escBytes (cs : List Char) : cs.length ≤ (escBytes cs).length := by
  induction cs with
  | nil => simp
  | cons c cs ih =>
    have := List.length_pos_iff.2 (escape_ne_nil c)
    simp only [escBytes, List.flatMap_cons, List.length_append, List.length_cons] at ih ⊢
    omega

theorem utf8_quote (t : String) : utf8 (quote t) = 34 :: (escBytes t.toList ++ [34]) := by
  have hq : String.utf8EncodeChar '"' = [34] := rfl
  simp [quote, escBytes, utf8, hq, List.flatMap_assoc, List.flatMap_map]

/-- A quoted string, after its opening quote, reads back as its text. -/
theorem readStr_gives (t : String) (rest : List UInt8) :
    readStr.Gives (escBytes t.toList ++ 34 :: rest) t rest := by
  unfold readStr
  refine Gives.bind (get_gives _) ?_
  have h := strBody_gives t.toList [] rest ((escBytes t.toList ++ 34 :: rest).length + 1)
    (by have := length_le_escBytes t.toList; simp; omega)
  rwa [List.nil_append, show t.toList.flatMap String.utf8EncodeChar = utf8 t from rfl,
    decodeText_utf8] at h

/-! ## Whole numbers -/

theorem digit_toNat {c : Char} (h : c.isDigit = true) : 48 ≤ c.toNat ∧ c.toNat ≤ 57 := by
  simp [Char.isDigit, UInt32.le_iff_toNat_le] at h
  exact h

theorem byteOf_toNat {c : Char} (h : c.toNat < 256) : (byteOf c).toNat = c.toNat := by
  simp only [byteOf, Nat.toUInt8]
  show c.toNat % 256 = c.toNat
  omega

theorem isDigit_byteOf {c : Char} (h : c.isDigit = true) : isDigit (byteOf c) = true := by
  have hc := digit_toNat h
  have hb := byteOf_toNat (by omega : c.toNat < 256)
  simp [isDigit, UInt8.le_iff_toNat_le, hb]
  omega

theorem byteOf_digit_value {c : Char} (h : c.isDigit = true) :
    (byteOf c - 48).toNat = c.toNat - 48 := by
  have hc := digit_toNat h
  have hb := byteOf_toNat (by omega : c.toNat < 256)
  rw [UInt8.toNat_sub_of_le _ _ (by simp [UInt8.le_iff_toNat_le, hb]; omega), hb]
  rfl

/-- What may follow a number: nothing that would continue it. -/
def EndsNumber (rest : List UInt8) : Prop :=
  ∀ b ∈ rest.head?, isDigit b = false ∧ b ≠ 46 ∧ b ≠ 101 ∧ b ≠ 69

theorem numberTail_gives {rest : List UInt8} (hr : EndsNumber rest) (sig : Nat) :
    (numberTail true sig).Gives rest (.unsigned sig) rest := by
  unfold numberTail
  refine Gives.bind (peek_gives rest) ?_
  cases rest with
  | nil => exact pure_gives _ _
  | cons b rest =>
    obtain ⟨-, h46, h101, h69⟩ := hr b rfl
    simp only [List.head?_cons]
    split
    · simp_all
    · simp_all
    · simp_all
    · exact pure_gives _ _

/-- The digits of a whole number that fits 64 bits read back, whatever came before them. -/
theorem wholeDigits_gives (ds : List Char) (hd : ∀ c ∈ ds, c.isDigit = true) (sig fuel : Nat)
    (hf : ds.length < fuel) (hmax : Nat.ofDigitChars 10 ds sig ≤ u64Max) {rest : List UInt8}
    (hr : EndsNumber rest) :
    (wholeDigits true sig fuel).Gives (ds.map byteOf ++ rest)
      (.unsigned (Nat.ofDigitChars 10 ds sig)) rest := by
  induction ds generalizing sig fuel with
  | nil =>
    obtain ⟨fuel, rfl⟩ : ∃ f, fuel = f + 1 := ⟨fuel - 1, by simp at hf; omega⟩
    rw [wholeDigits.eq_2]
    refine Gives.bind (peek_gives _) ?_
    cases rest with
    | nil => exact numberTail_gives hr sig
    | cons b more =>
      have hb := (hr b rfl).1
      simp only [List.map_nil, List.nil_append, List.head?_cons, hb]
      exact numberTail_gives hr sig
  | cons c ds ih =>
    obtain ⟨fuel, rfl⟩ : ∃ f, fuel = f + 1 := ⟨fuel - 1, by simp at hf; omega⟩
    have hc := hd c (by simp)
    have hstep : Nat.ofDigitChars 10 (c :: ds) sig = Nat.ofDigitChars 10 ds (sig * 10 + (c.toNat - 48)) := by
      rw [Nat.ofDigitChars_cons, Nat.mul_comm]
      rfl
    have hle : sig * 10 + (c.toNat - 48) ≤ u64Max := by
      have h1 := @Nat.ofDigitChars_eq_ofDigitChars_zero ds (sig * 10 + (c.toNat - 48))
      have h2 := Nat.le_mul_of_pos_left (sig * 10 + (c.toNat - 48))
        (Nat.pow_pos (by omega : 0 < 10) : 0 < 10 ^ ds.length)
      rw [hstep] at hmax
      omega
    rw [wholeDigits.eq_2]
    refine Gives.bind (peek_gives _) ?_
    simp only [List.map_cons, List.cons_append, List.head?_cons, isDigit_byteOf hc, if_true,
      byteOf_digit_value hc]
    rw [if_neg (by omega)]
    refine Gives.bind (bump_gives _ _) ?_
    rw [hstep]
    exact ih (fun c' h' => hd c' (by simp [h'])) _ _ (by simp at hf; omega) (hstep ▸ hmax)

theorem utf8_ascii {s : String} (h : ∀ c ∈ s.toList, c.toNat < 128) :
    utf8 s = s.toList.map byteOf := by
  unfold utf8
  rw [← List.flatMap_pure_eq_map]
  exact List.flatMap_congr fun c hc => utf8EncodeChar_ascii (h c hc)

theorem ofDigitChars_lt {cs : List Char} (hd : ∀ c ∈ cs, c.isDigit = true) :
    Nat.ofDigitChars 10 cs 0 < 10 ^ cs.length := by
  induction cs with
  | nil => simp
  | cons c cs ih =>
    have hc := digit_toNat (hd c (by simp))
    have ih := ih fun x hx => hd x (by simp [hx])
    rw [Nat.ofDigitChars_cons, Nat.ofDigitChars_eq_ofDigitChars_zero, List.length_cons,
      Nat.pow_succ]
    have : 10 ^ cs.length * (10 * 0 + (c.toNat - '0'.toNat)) ≤ 10 ^ cs.length * 9 :=
      Nat.mul_le_mul_left _ (by simp; omega)
    omega

/-- Only zero is written with a leading zero. -/
theorem toDigits_eq_zero_cons {n : Nat} {cs : List Char} (h : Nat.toDigits 10 n = '0' :: cs) :
    n = 0 := by
  have hd : ∀ c ∈ cs, c.isDigit = true := fun c hc =>
    Nat.isDigit_of_mem_toDigits (by decide) (by decide) (h ▸ List.mem_cons_of_mem _ hc)
  have hval : Nat.ofDigitChars 10 cs 0 = n := by
    rw [← @Nat.ofDigitChars_ten_toDigits n, h, Nat.ofDigitChars_cons]
    rfl
  cases cs with
  | nil => simpa using hval.symm
  | cons c cs =>
    have hlt := hval ▸ ofDigitChars_lt hd
    have hlen := (Nat.length_toDigits_le_iff (by decide) (by simp)).2 hlt
    rw [h] at hlen
    simp only [List.length_cons, Nat.add_le_add_iff_right] at hlen
    omega

/-- A whole number that fits 64 bits, written in decimal, reads back. -/
theorem readNumber_gives {n : Nat} (hn : n ≤ u64Max) {rest : List UInt8} (hr : EndsNumber rest) :
    (readNumber true).Gives ((Nat.toDigits 10 n).map byteOf ++ rest) (.unsigned n) rest := by
  obtain ⟨c, cs, hcs⟩ : ∃ c cs, Nat.toDigits 10 n = c :: cs :=
    List.exists_cons_of_ne_nil Nat.toDigits_ne_nil
  have hd : ∀ x ∈ c :: cs, x.isDigit = true := fun x hx =>
    Nat.isDigit_of_mem_toDigits (by decide) (by decide) (hcs ▸ hx)
  have hval : Nat.ofDigitChars 10 (c :: cs) 0 = n := hcs ▸ Nat.ofDigitChars_ten_toDigits
  have hc := digit_toNat (hd c (by simp))
  have hb := byteOf_toNat (by omega : c.toNat < 256)
  unfold readNumber
  rw [hcs, List.map_cons, List.cons_append]
  refine Gives.bind (next_gives _ _) ?_
  by_cases h0 : c = '0'
  · subst h0
    obtain rfl := toDigits_eq_zero_cons hcs
    obtain rfl : cs = [] := by simpa using (hcs.symm.trans (Nat.toDigits_zero 10)).symm
    simp only [show byteOf '0' = 48 from rfl, beq_self_eq_true, if_true]
    refine Gives.bind (peek_gives _) ?_
    cases rest with
    | nil => exact numberTail_gives hr 0
    | cons b more =>
      simp only [List.map_nil, List.nil_append, List.head?_cons, (hr b rfl).1]
      exact numberTail_gives hr 0
  · have hc0 : c.toNat ≠ 48 := fun e => h0 (Char.toNat_inj.mp e)
    have h48 : (byteOf c == 48) = false := by
      simp [← UInt8.toNat_inj, hb]; omega
    have h49 : (49 ≤ byteOf c && byteOf c ≤ 57) = true := by
      simp [UInt8.le_iff_toNat_le, hb]; omega
    simp only [h48, h49]
    refine Gives.bind (get_gives _) ?_
    rw [byteOf_digit_value (hd c (by simp))]
    have hstep : Nat.ofDigitChars 10 (c :: cs) 0 = Nat.ofDigitChars 10 cs (c.toNat - 48) := by
      rw [Nat.ofDigitChars_cons]; simp
    rw [hstep] at hval
    have := wholeDigits_gives cs (fun x hx => hd x (by simp [hx])) (c.toNat - 48)
      ((cs.map byteOf ++ rest).length + 1)
      (by simp only [List.length_append, List.length_map]; omega) (hval ▸ hn) hr
    rwa [hval] at this

/-! ## Scalars after blanks -/

section Scalars
variable {bl rest : List UInt8} (hbl : ∀ b ∈ bl, isBlank b = true)
include hbl

theorem readText_gives {sh : Shape} {t : String} {out : Json} (h : acceptText sh t = .ok out) :
    (readText sh).Gives (bl ++ utf8 (quote t) ++ rest) out rest := by
  unfold readText
  rw [utf8_quote, List.append_assoc, List.cons_append, List.append_assoc, List.singleton_append]
  refine placing_gives (Gives.bind (skipBlank_gives hbl (by simp; decide)) ?_)
  simp only [List.head?_cons]
  refine Gives.bind (bump_gives _ _) (Gives.bind (readStr_gives t rest) ?_)
  rw [h]
  exact ofExcept_gives _ _

theorem readUnsigned_gives {expected : String} {max n : Nat} (hmax : max ≤ u64Max) (hn : n ≤ max)
    (hr : EndsNumber rest) :
    (readUnsigned expected max).Gives (bl ++ (Nat.toDigits 10 n).map byteOf ++ rest) (.nat n) rest := by
  obtain ⟨c, cs, hcs⟩ : ∃ c cs, Nat.toDigits 10 n = c :: cs :=
    List.exists_cons_of_ne_nil Nat.toDigits_ne_nil
  have hc := Nat.isDigit_of_mem_toDigits (by decide) (by decide) (hcs ▸ List.mem_cons_self)
  have hcn := digit_toNat hc
  have hb := byteOf_toNat (by omega : c.toNat < 256)
  unfold readUnsigned
  rw [List.append_assoc]
  refine placing_gives (Gives.bind (skipBlank_gives hbl ?_) ?_)
  · rw [hcs]
    simp [isBlank, ← UInt8.toNat_inj, hb]
    omega
  rw [hcs]
  have h45 : (byteOf c == 45) = false := by simp [← UInt8.toNat_inj, hb]; omega
  simp only [List.map_cons, List.cons_append, List.head?_cons, h45, isDigit_byteOf hc]
  rw [← List.cons_append, ← List.map_cons, ← hcs]
  refine Gives.bind (readNumber_gives (Nat.le_trans hn hmax) hr) ?_
  show (ofExcept (acceptUnsigned expected max n)).Gives rest (.nat n) rest
  simp only [acceptUnsigned, if_pos hn]
  exact ofExcept_gives _ _

end Scalars


end TxnCoord.Json.Reader
