import TxnCoord.Proofs.Time.Calendar
import TxnCoord.Time.Rfc3339
/-!
# Timestamps read back

An instant written in the extended form, with `Z` for its offset, reads back as the instant,
when the instant is one a timestamp can hold (`Instant.Valid`): a second of its day, a leap
second only as the last of a minute, and a day in the calendar's range of years. Each field
of the written form is a padded run of digits, read back up to the separator after it
(`field_padded`); the year may have a sign (`year_renderYear`).

Main statement:

    t.Valid → parse (String.ofList (t.render.toList.take (t.render.length - 6)) ++ "Z") = .ok t
                                                                         (parse_zulu)
-/

namespace TxnCoord.Time

/-- An instant that a timestamp can hold: a second of its day, a leap second only as the last
of a minute, and a day in the years that the calendar reads. -/
structure Instant.Valid (t : Instant) : Prop where
  second_lt : t.second < 86400
  leap_last : t.leap = true → t.second % 60 = 59
  first_le : firstDay ≤ t.days
  le_last : t.days ≤ lastDay

instance (t : Instant) : Decidable t.Valid :=
  decidable_of_iff (t.second < 86400 ∧ (t.leap = true → t.second % 60 = 59) ∧
      firstDay ≤ t.days ∧ t.days ≤ lastDay) <| by
    constructor
    · rintro ⟨h₁, h₂, h₃, h₄⟩
      exact ⟨h₁, h₂, h₃, h₄⟩
    · rintro ⟨h₁, h₂, h₃, h₄⟩
      exact ⟨h₁, h₂, h₃, h₄⟩

namespace Rfc3339

theorem isWhiteSpace_digit {c : Char} (h : isDigit c = true) : Text.isWhiteSpace c = false := by
  simp only [isDigit, Bool.and_eq_true, decide_eq_true_eq] at h
  have h1 : 48 ≤ c.toNat := h.1
  have h2 : c.toNat ≤ 57 := h.2
  simp [Text.isWhiteSpace, Text.whiteSpaceRanges]
  omega

theorem trim_cons {c : Char} (rest : List Char) (h : Text.isWhiteSpace c = false) :
    trim (c :: rest) = c :: rest := by
  simp [trim, Text.dropBlank, h]

theorem digit_toNat {c : Char} (h : isDigit c = true) : 48 ≤ c.toNat ∧ c.toNat ≤ 57 := by
  simp only [isDigit, Bool.and_eq_true, decide_eq_true_eq] at h
  exact ⟨h.1, h.2⟩

theorem le_ofDigitChars (ds : List Char) (acc : Nat) : acc ≤ Nat.ofDigitChars 10 ds acc := by
  rw [Nat.ofDigitChars_eq_ofDigitChars_zero]
  have := Nat.le_mul_of_pos_left acc (Nat.pow_pos (by omega : 0 < 10) : 0 < 10 ^ ds.length)
  omega

/-- A run of digits reads as its number, up to a character that stops it: the last place
allowed, or a character that is not a digit after enough digits. -/
theorem digitsFrom_digits {min max : Nat} (ds : List Char) (hd : ∀ c ∈ ds, isDigit c = true)
    (c : Char) (rest : List Char) (i acc : Nat) (hmax : i + ds.length ≤ max)
    (hstop : i + ds.length = max ∨ (isDigit c = false ∧ min ≤ i + ds.length))
    (hbound : Nat.ofDigitChars 10 ds acc ≤ numberMax) :
    digitsFrom min max (ds ++ c :: rest) i acc = .ok (c :: rest, Nat.ofDigitChars 10 ds acc) := by
  induction ds generalizing i acc with
  | nil =>
    rw [List.nil_append, digitsFrom.eq_2]
    by_cases hi : i ≥ max
    · rw [if_pos hi]
      rfl
    · rw [if_neg hi]
      simp only [List.length_nil, Nat.add_zero] at hstop
      obtain ⟨hc, hmin⟩ := hstop.resolve_left (by omega)
      rw [if_neg (by simp [hc]), if_neg (by omega)]
      rfl
  | cons d ds ih =>
    have hdd := hd d (by simp)
    have hstep : Nat.ofDigitChars 10 (d :: ds) acc = Nat.ofDigitChars 10 ds (acc * 10 + (d.toNat - 48)) := by
      rw [Nat.ofDigitChars_cons, Nat.mul_comm]
      rfl
    rw [hstep] at hbound ⊢
    have hle := le_ofDigitChars ds (acc * 10 + (d.toNat - 48))
    simp only [List.length_cons] at hmax hstop
    rw [List.cons_append, digitsFrom.eq_2, if_neg (by omega), if_pos hdd]
    simp only
    rw [if_neg (by omega)]
    exact ih (fun x hx => hd x (by simp [hx])) (i + 1) _ (by omega)
      (hstop.imp (by omega) fun h => ⟨h.1, by omega⟩) hbound

theorem padded_toList (w n : Nat) :
    (Instant.padded w n).toList =
      List.replicate (w - (Nat.toDigits 10 n).length) '0' ++ Nat.toDigits 10 n := by
  simp [Instant.padded, String.toList_append, ← String.length_toList]

theorem isDigit_iff (c : Char) : isDigit c = true ↔ 48 ≤ c.toNat ∧ c.toNat ≤ 57 := by
  simp only [isDigit, Bool.and_eq_true, decide_eq_true_eq]
  rfl

theorem padded_digits (w n : Nat) : ∀ c ∈ (Instant.padded w n).toList, isDigit c = true := by
  intro c hc
  rw [padded_toList, List.mem_append, List.mem_replicate] at hc
  rcases hc with ⟨-, rfl⟩ | hc
  · rfl
  · have := Nat.isDigit_of_mem_toDigits (by decide) (by decide) hc
    simp only [Char.isDigit, Bool.and_eq_true, decide_eq_true_eq, UInt32.le_iff_toNat_le] at this
    exact (isDigit_iff c).2 this

theorem ofDigitChars_padded (w n : Nat) : Nat.ofDigitChars 10 (Instant.padded w n).toList 0 = n := by
  rw [padded_toList, Nat.ofDigitChars_append, Nat.ofDigitChars_replicate_zero, Nat.mul_zero,
    Nat.ofDigitChars_ten_toDigits]

theorem length_padded {w n : Nat} (hw : 0 < w) (hn : n < Nat.pow 10 w) :
    (Instant.padded w n).toList.length = w := by
  have := (Nat.length_toDigits_le_iff (by decide : 1 < 10) hw).2 (by simpa using hn)
  rw [padded_toList, List.length_append, List.length_replicate]
  omega

@[simp] theorem ok_bind {α β : Type} (a : α) (f : α → Except Fault β) :
    (Except.ok a >>= f) = f a := rfl

theorem number_cons (c : Char) (cs : List Char) (min max : Nat) :
    number (c :: cs) min max = digitsFrom min max (c :: cs) 0 0 := rfl

/-- A two-digit field of a rendered timestamp reads back. -/
theorem field_padded {n lo hi : Nat} (hn : n < 100) (hlo : lo ≤ n) (hhi : n ≤ hi) (c : Char)
    (rest : List Char) : field ((Instant.padded 2 n).toList ++ c :: rest) 2 lo hi = .ok (c :: rest, n) := by
  have hlen : (Instant.padded 2 n).toList.length = 2 := length_padded (by omega) hn
  obtain ⟨d, ds, hds⟩ := List.exists_cons_of_ne_nil (List.ne_nil_of_length_pos (by omega : 0 < (Instant.padded 2 n).toList.length))
  have hread : digitsFrom 1 2 ((Instant.padded 2 n).toList ++ c :: rest) 0 0 =
      .ok (c :: rest, Nat.ofDigitChars 10 (Instant.padded 2 n).toList 0) :=
    digitsFrom_digits _ (padded_digits 2 n) c rest 0 0
    (by omega) (Or.inl (by omega)) (by rw [ofDigitChars_padded]; simp [numberMax]; omega)
  rw [ofDigitChars_padded] at hread
  have hcons : (Instant.padded 2 n).toList ++ c :: rest = d :: (ds ++ c :: rest) := by
    rw [hds, List.cons_append]
  unfold field
  rw [hcons, trim_cons _ (isWhiteSpace_digit (padded_digits 2 n d (by simp [hds]))), number_cons,
    ← hcons, hread, ok_bind]
  exact if_pos ⟨hlo, hhi⟩

theorem padded_cons (w n : Nat) :
    ∃ d ds, (Instant.padded w n).toList = d :: ds ∧ isDigit d = true := by
  have hne : (Instant.padded w n).toList ≠ [] := by
    rw [padded_toList]
    simp
  obtain ⟨d, ds, hds⟩ := List.exists_cons_of_ne_nil hne
  exact ⟨d, ds, hds, padded_digits w n d (by simp [hds])⟩

theorem length_padded_le {w n k : Nat} (hw : w ≤ k) (hk : 0 < k) (hn : n < Nat.pow 10 k) :
    (Instant.padded w n).toList.length ≤ k := by
  have := (Nat.length_toDigits_le_iff (by decide : 1 < 10) hk).2 (by simpa using hn)
  rw [padded_toList, List.length_append, List.length_replicate]
  omega

/-- The digits of a number, padded, read back up to a character that is not a digit. -/
theorem digitsFrom_padded {w n min max : Nat} (hmin : min ≤ (Instant.padded w n).toList.length)
    (hmax : (Instant.padded w n).toList.length ≤ max) (hnum : n ≤ numberMax) {c : Char}
    (hc : isDigit c = false) (rest : List Char) :
    digitsFrom min max ((Instant.padded w n).toList ++ c :: rest) 0 0 = .ok (c :: rest, n) := by
  have h : digitsFrom min max ((Instant.padded w n).toList ++ c :: rest) 0 0 =
      .ok (c :: rest, Nat.ofDigitChars 10 (Instant.padded w n).toList 0) :=
    digitsFrom_digits _ (padded_digits w n) c rest 0 0
    (by omega) (Or.inr ⟨hc, by omega⟩) (by rw [ofDigitChars_padded]; exact hnum)
  rwa [ofDigitChars_padded] at h

theorem year_renderYear {y : Int} (hy : -262144 ≤ y ∧ y ≤ 262143) (rest : List Char) :
    year ((Instant.renderYear y).toList ++ '-' :: rest) = .ok ('-' :: rest, y) := by
  have hnum : y.natAbs ≤ numberMax := by simp [numberMax]; omega
  unfold Instant.renderYear
  split
  · rename_i h
    obtain ⟨d, ds, hds, hd⟩ := padded_cons 4 y.toNat
    have hlen : (Instant.padded 4 y.toNat).toList.length = 4 :=
      length_padded (by omega) (by simp; omega)
    have hread : digitsFrom 1 4 ((Instant.padded 4 y.toNat).toList ++ '-' :: rest) 0 0 =
        .ok ('-' :: rest, y.toNat) :=
      digitsFrom_padded (by omega) (by omega) (by omega) rfl rest
    have hcons : (Instant.padded 4 y.toNat).toList ++ '-' :: rest = d :: (ds ++ '-' :: rest) := by
      rw [hds, List.cons_append]
    unfold year
    rw [hcons, trim_cons _ (isWhiteSpace_digit hd)]
    simp only
    split
    · rename_i heq
      obtain rfl : d = '-' := (List.cons.inj heq).1
      exact absurd hd (by decide)
    · rename_i heq
      obtain rfl : d = '+' := (List.cons.inj heq).1
      exact absurd hd (by decide)
    · rw [number_cons, ← hcons, hread]
      show (if -2147483648 ≤ (y.toNat : Int) ∧ (y.toNat : Int) ≤ 2147483647 then
        pure ('-' :: rest, (y.toNat : Int)) else throw Fault.outOfRange) = _
      rw [if_pos (by omega), Int.toNat_of_nonneg h.1]
      rfl
  · -- a sign, then at least four digits
    rename_i h
    obtain ⟨d, ds, hds, hd⟩ := padded_cons 4 y.natAbs
    have hlen : (Instant.padded 4 y.natAbs).toList.length ≤ 6 :=
      length_padded_le (by omega) (by omega) (by simp; omega)
    have hread : digitsFrom 1 numberMax ((Instant.padded 4 y.natAbs).toList ++ '-' :: rest) 0 0 =
        .ok ('-' :: rest, y.natAbs) :=
      digitsFrom_padded (by rw [hds]; simp) (by simp [numberMax]; omega) hnum rfl rest
    have hcons : (Instant.padded 4 y.natAbs).toList ++ '-' :: rest = d :: (ds ++ '-' :: rest) := by
      rw [hds, List.cons_append]
    unfold year
    by_cases hneg : y < 0
    · rw [if_pos hneg, String.toList_append, List.append_assoc]
      rw [show "-".toList = ['-'] from rfl, List.singleton_append, trim_cons _ (by decide)]
      simp only
      rw [hcons, number_cons, ← hcons, hread]
      show (if -2147483648 ≤ -(y.natAbs : Int) ∧ -(y.natAbs : Int) ≤ 2147483647 then
        pure ('-' :: rest, -(y.natAbs : Int)) else throw Fault.outOfRange) = _
      rw [if_pos (by omega), show -(y.natAbs : Int) = y by omega]
      rfl
    · rw [if_neg hneg, String.toList_append, List.append_assoc]
      rw [show "+".toList = ['+'] from rfl, List.singleton_append, trim_cons _ (by decide)]
      simp only
      rw [hcons, number_cons, ← hcons, hread]
      show (if -2147483648 ≤ (y.natAbs : Int) ∧ (y.natAbs : Int) ≤ 2147483647 then
        pure ('-' :: rest, (y.natAbs : Int)) else throw Fault.outOfRange) = _
      rw [if_pos (by omega), show (y.natAbs : Int) = y by omega]
      rfl

/-- The characters of an instant written with `Z` for its offset. -/
theorem render_zulu (t : Instant) :
    (String.ofList (t.render.toList.take (t.render.length - 6)) ++ "Z").toList =
      (Instant.renderYear (Date.ofDays t.days).year).toList ++
        '-' :: ((Instant.padded 2 (Date.ofDays t.days).month).toList ++
        '-' :: ((Instant.padded 2 (Date.ofDays t.days).day).toList ++
        'T' :: ((Instant.padded 2 (t.second / 3600)).toList ++
        ':' :: ((Instant.padded 2 (t.second / 60 % 60)).toList ++
        ':' :: ((Instant.padded 2 (t.second % 60 + if t.leap then 1 else 0)).toList ++ ['Z']))))) := by
  have key : ∀ P : String, (String.ofList ((P ++ "+00:00").toList.take
      ((P ++ "+00:00").length - 6)) ++ "Z").toList = P.toList ++ ['Z'] := by
    intro P
    rw [String.toList_append, ← String.length_toList, String.toList_append, List.length_append,
      show "+00:00".toList.length = 6 from rfl, Nat.add_sub_cancel, List.take_left,
      String.toList_ofList]
    rfl
  rw [Instant.render, key]
  simp [String.toList_append, List.append_assoc]

theorem literal_cons (c : Char) (rest : List Char) : literal c (c :: rest) = .ok rest := by
  simp [literal]

/-- The local time that a written instant gives back, at offset zero, is the instant. -/
theorem ofLocal_render {t : Instant} (hs : t.second < 86400)
    (hleap : t.leap = true → t.second % 60 = 59) :
    Instant.ofLocal (Date.ofDays t.days) (t.second / 3600) (t.second / 60 % 60)
      (min (t.second % 60 + if t.leap then 1 else 0) 59)
      ((t.second % 60 + if t.leap then 1 else 0) == 60) 0 = t := by
  have hsum : t.second / 3600 * 3600 + t.second / 60 % 60 * 60 +
      min (t.second % 60 + if t.leap then 1 else 0) 59 = t.second := by
    have h60 : t.second / 60 / 60 = t.second / 3600 := Nat.div_div_eq_div_mul _ _ _
    by_cases hl : t.leap = true
    · have := hleap hl
      simp only [hl, if_true]
      omega
    · simp only [hl, Bool.false_eq_true, if_false]
      omega
  obtain ⟨days, second, leap⟩ := t
  simp only at hs hleap hsum
  simp only [Instant.ofLocal, toDays_ofDays, hsum, Int.sub_zero, Instant.mk.injEq]
  refine ⟨by omega, by omega, ?_⟩
  cases leap with
  | false => simp; omega
  | true =>
    have := hleap rfl
    simp
    omega

/-- A valid instant, written with `Z` for its offset, reads back as itself. -/
theorem parse_zulu {t : Instant} (ht : t.Valid) :
    parse (String.ofList (t.render.toList.take (t.render.length - 6)) ++ "Z") = .ok t := by
  obtain ⟨hs, hleap, hlo, hhi⟩ := ht
  have hvalid := isValid_ofDays t.days
  have hyear := year_ofDays hlo hhi
  simp only [Date.isValid, Bool.and_eq_true, decide_eq_true_eq] at hvalid
  have hml : monthLength (Date.ofDays t.days).year (Date.ofDays t.days).month ≤ 31 := by
    unfold monthLength
    split_ifs <;> omega
  have hsec : t.second % 60 + (if t.leap then 1 else 0) ≤ 60 := by split <;> omega
  unfold parse
  simp only [render_zulu]
  rw [year_renderYear (by simp only [minYear, maxYear] at hyear; omega)]
  simp only [ok_bind]
  rw [trim_cons _ (by decide), literal_cons, ok_bind,
    field_padded (by omega) hvalid.1.1.1 hvalid.1.1.2, ok_bind]
  simp only
  rw [trim_cons _ (by decide), literal_cons, ok_bind,
    field_padded (by omega) hvalid.1.2 (Nat.le_trans hvalid.2 hml), ok_bind]
  simp only
  rw [if_pos (Or.inl trivial)]
  simp only [pure_bind]
  rw [field_padded (by omega) (Nat.zero_le _) (by omega), ok_bind]
  simp only
  rw [trim_cons _ (by decide), literal_cons, ok_bind,
    field_padded (by omega) (Nat.zero_le _) (by omega), ok_bind]
  simp only
  rw [trim_cons _ (by decide), literal_cons, ok_bind,
    field_padded (by omega) (Nat.zero_le _) hsec, ok_bind]
  simp only
  rw [show Date.mk (Date.ofDays t.days).year (Date.ofDays t.days).month (Date.ofDays t.days).day =
      Date.ofDays t.days from rfl, ofLocal_render hs hleap]
  rw [show fraction ['Z'] = .ok ['Z'] from rfl, ok_bind, show trim ['Z'] = ['Z'] from by decide,
    show startsWithUtc ['Z'] = false from rfl, show offset ['Z'] = .ok ([], 0) from rfl, ok_bind]
  have hin : ¬ (t.days < firstDay ∨ lastDay < t.days) := by omega
  simp only [isValid_ofDays, hyear, if_neg hin]
  simp [show trim [] = [] from rfl]
  rw [ofLocal_render hs hleap, if_neg hin]
  rfl

end Rfc3339

end TxnCoord.Time
