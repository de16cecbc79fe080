import TxnCoord.Proofs.Json.Scalars
import TxnCoord.Proofs.Json.Decoded
import TxnCoord.Version

/-!
# Reading a server version

A version is read from the first place in a text where the pattern `(\d+)\.(\d+)(?:\.(\d+))?`
matches, with `\d` any decimal digit of any script, as a regular expression engine that matches
leftmost-first and greedily finds it: the match that starts first, and of those that start there
the one with the longest major run, then the longest minor run, then a patch run before none and
a longer one before a shorter (`Capture.First`). The search `findRuns` finds exactly the runs of
that match, or finds that nothing matches (`findRuns_finds`); there is one such match
(`Capture.First.unique`).

Each run then reads as a 32-bit number exactly when its digits are ASCII and its value fits
(`component_ok`), and a run that does not read gives a configuration error. So the written form
of a version of 32-bit numbers reads back as the version (`parse_render`).

Main statement:

    parse v.render = .ok v, for numbers below 2^32, and for every text s:
      no match → a configuration error naming s;
      a first match m → parse s = .ok m.version ↔ m.Fits32, else a configuration error
                                                                 (parse_leftmost_first)
-/

namespace TxnCoord.Text

open Json.Reader

/-- The first byte of a character's encoding: the character itself when it is ASCII, and a byte
of 128 or more otherwise. -/
theorem exists_utf8EncodeChar_cons (c : Char) :
    ∃ b rest, String.utf8EncodeChar c = b :: rest ∧
      (c.toNat < 128 → b.toNat = c.toNat) ∧ (128 ≤ c.toNat → 128 ≤ b.toNat) := by
  by_cases hlow : c.toNat < 128
  · refine ⟨byteOf c, [], utf8EncodeChar_ascii hlow, fun _ => byteOf_toNat (by omega), ?_⟩
    intro h
    omega
  · have hne : String.utf8EncodeChar c ≠ [] :=
      List.ne_nil_of_length_pos (by rw [String.length_utf8EncodeChar]; exact Char.utf8Size_pos c)
    obtain ⟨b, rest, hbr⟩ := List.exists_cons_of_ne_nil hne
    refine ⟨b, rest, hbr, fun h => absurd h hlow, fun h => ?_⟩
    exact utf8EncodeChar_high h b (by simp [hbr])

/-- The first byte of a character that is no ASCII digit is no digit byte. -/
theorem exists_utf8EncodeChar_nondigit {c : Char} (hc : ¬ c.isDigit = true) :
    ∃ b rest, String.utf8EncodeChar c = b :: rest ∧ ¬ (48 ≤ b && b ≤ 57) = true := by
  obtain ⟨b, rest, hbytes, hascii, hhigh⟩ := exists_utf8EncodeChar_cons c
  refine ⟨b, rest, hbytes, ?_⟩
  have hnot : ¬ (48 ≤ c.toNat ∧ c.toNat ≤ 57) := by
    intro hd
    apply hc
    simpa [Char.isDigit, UInt32.le_iff_toNat_le] using hd
  simp only [Bool.and_eq_true, decide_eq_true_eq, UInt8.le_iff_toNat_le, UInt8.toNat_ofNat]
  -- an ASCII character is its own byte; any other starts with a byte of 128 or more
  by_cases hlow : c.toNat < 128
  · rw [hascii hlow]
    simpa using hnot
  · have := hhigh (by omega)
    omega

/-- Reading the bytes of a text as digits gives the text's decimal value exactly when every
character is an ASCII digit and no value on the way reaches the bound. -/
theorem numeralDigits_ok {bound acc : Nat} (hacc : acc < bound) (cs : List Char) (n : Nat) :
    numeralDigits bound acc (cs.flatMap String.utf8EncodeChar) = .ok n ↔
      (∀ c ∈ cs, c.isDigit = true) ∧ Nat.ofDigitChars 10 cs acc < bound ∧
        n = Nat.ofDigitChars 10 cs acc := by
  induction cs generalizing acc with
  | nil =>
    rw [List.flatMap_nil, numeralDigits, Nat.ofDigitChars_nil]
    simp only [Except.ok.injEq, List.not_mem_nil, false_implies, implies_true, hacc, true_and]
    exact eq_comm
  | cons c cs ih =>
    by_cases hc : c.isDigit = true
    · have hb := digit_toNat hc
      have hbyte : String.utf8EncodeChar c = [byteOf c] := utf8EncodeChar_ascii (by omega)
      have hstep : Nat.ofDigitChars 10 (c :: cs) acc =
          Nat.ofDigitChars 10 cs (acc * 10 + (c.toNat - 48)) := by
        rw [Nat.ofDigitChars_cons, Nat.mul_comm]
        rfl
      have hdigit := isDigit_byteOf hc
      simp only [isDigit] at hdigit
      rw [List.flatMap_cons, hbyte, List.singleton_append, numeralDigits, if_pos hdigit,
        byteOf_digit_value hc, hstep]
      by_cases hv : acc * 10 + (c.toNat - 48) < bound
      · rw [if_pos hv, ih hv]
        simp [hc]
      · -- the value only grows, so it never comes back below the bound
        rw [if_neg hv]
        have hgrow : acc * 10 + (c.toNat - 48) ≤ Nat.ofDigitChars 10 cs (acc * 10 + (c.toNat - 48)) := by
          rw [Nat.ofDigitChars_eq_ofDigitChars_zero]
          exact Nat.le_add_right_of_le (Nat.le_mul_of_pos_left _ (Nat.pow_pos (by omega)))
        simp only [reduceCtorEq, false_iff, not_and]
        intro _ hlt
        omega
    · obtain ⟨b, rest, hbytes, hnd⟩ := exists_utf8EncodeChar_nondigit hc
      rw [List.flatMap_cons, hbytes, List.cons_append, numeralDigits, if_neg hnd]
      simp [hc]

/-- A '+' is no decimal digit. -/
theorem isDecimalDigit_plus {c : Char} (h : c.toNat = 43) : isDecimalDigit c = false := by
  unfold isDecimalDigit
  rw [h]
  decide

/-- A text that starts with a decimal digit has no sign: all its bytes are read as digits. -/
theorem parseUnsigned_digits {bits : Nat} {c : Char} {cs : List Char} (hc : isDecimalDigit c = true) :
    parseUnsigned bits (String.ofList (c :: cs)) =
      numeralDigits (Nat.pow 2 bits) 0 ((c :: cs).flatMap String.utf8EncodeChar) := by
  obtain ⟨b, rest, hbr, hascii, hhigh⟩ := exists_utf8EncodeChar_cons c
  have hb : b.toNat ≠ 43 := by
    by_cases hlow : c.toNat < 128
    · rw [hascii hlow]
      intro h
      rw [isDecimalDigit_plus h] at hc
      cases hc
    · have := hhigh (by omega)
      omega
  unfold parseUnsigned
  rw [String.toList_ofList, List.flatMap_cons, hbr, List.cons_append]
  split
  · next h => cases h
  · next h =>
    simp only [List.cons.injEq] at h
    exact absurd (congrArg UInt8.toNat h.1) hb
  · next h =>
    simp only [List.cons.injEq] at h
    exact absurd (congrArg UInt8.toNat h.1) hb
  · rfl

end TxnCoord.Text

namespace TxnCoord.ServerVersion

open Text

/-- A run of the pattern's `\d+`: one or more decimal digits, of any script. -/
def IsRun (r : List Char) : Prop := r ≠ [] ∧ ∀ c ∈ r, isDecimalDigit c = true

/-- A place where the pattern `(\d+)\.(\d+)(?:\.(\d+))?` may match a text: the text before the
place, and the runs captured there. -/
structure Capture where
  pre : List Char
  major : List Char
  minor : List Char
  patch : Option (List Char)

namespace Capture

/-- The text of an optional patch run: a point and the run, or nothing. -/
def patchText : Option (List Char) → List Char
  | some p => '.' :: p
  | none => []

/-- The text the pattern spans when it captures these runs. -/
def span (m : Capture) : List Char := m.major ++ '.' :: m.minor ++ patchText m.patch

/-- The pattern matches the text with these captures. -/
structure Matches (cs : List Char) (m : Capture) : Prop where
  spans : m.pre ++ m.span <+: cs
  major : IsRun m.major
  minor : IsRun m.minor
  patch : ∀ p ∈ m.patch, IsRun p

/-- The rank of the optional patch run: none below every run, a longer run above a shorter. -/
def patchRank (m : Capture) : Nat :=
  match m.patch with
  | some p => p.length + 1
  | none => 0

/-- At one place, greedy matching tries `m` no later than `m'`: a longer major run first, then a
longer minor run, then a patch run before none, a longer one first. -/
def Greedier (m m' : Capture) : Prop :=
  m'.major.length < m.major.length ∨ (m'.major.length = m.major.length ∧
    (m'.minor.length < m.minor.length ∨ (m'.minor.length = m.minor.length ∧
      m'.patchRank ≤ m.patchRank)))

/-- The captures of leftmost-first, greedy matching: the pattern matches there, no match starts
earlier, and of the matches starting at the same place this one is tried first. -/
structure First (cs : List Char) (m : Capture) : Prop where
  found : m.Matches cs
  leftmost : ∀ m' : Capture, m'.Matches cs → m.pre.length ≤ m'.pre.length
  greedy : ∀ m' : Capture, m'.Matches cs → m'.pre.length = m.pre.length → m.Greedier m'

/-- The same captures after more text in front. -/
def after (a : List Char) (m : Capture) : Capture := { m with pre := a ++ m.pre }

theorem matches_after {a cs : List Char} {m : Capture} :
    (m.after a).Matches (a ++ cs) ↔ m.Matches cs := by
  constructor
  · rintro ⟨hp, h1, h2, h3⟩
    refine ⟨?_, h1, h2, h3⟩
    simpa [after, span, List.append_assoc, List.prefix_append_right_inj] using hp
  · rintro ⟨hp, h1, h2, h3⟩
    refine ⟨?_, h1, h2, h3⟩
    simpa [after, span, List.append_assoc, List.prefix_append_right_inj] using hp

/-- A match that starts after a front part is a match of the rest. -/
theorem exists_after {a cs : List Char} {m : Capture} (h : m.Matches (a ++ cs))
    (hl : a.length ≤ m.pre.length) : ∃ m' : Capture, m = m'.after a ∧ m'.Matches cs := by
  have hpre : m.pre <+: a ++ cs := (List.prefix_append _ _).trans h.spans
  obtain ⟨p, hp⟩ := List.prefix_of_prefix_length_le (List.prefix_append a cs) hpre hl
  have hm : m = ({ m with pre := p } : Capture).after a := by
    cases m
    simp only [after] at hp ⊢
    rw [hp]
  exact ⟨_, hm, matches_after.1 (hm ▸ h)⟩

theorem Greedier.after {m m' : Capture} (a b : List Char) (h : m.Greedier m') :
    (m.after a).Greedier (m'.after b) := h

/-- When no match starts inside a front part, the first match of the whole text is the first
match of the rest, moved behind the front part. -/
theorem first_after {a cs : List Char} (ha : ∀ m : Capture, m.Matches (a ++ cs) → a.length ≤ m.pre.length)
    {m : Capture} (h : m.First cs) : (m.after a).First (a ++ cs) where
  found := matches_after.2 h.found
  leftmost m' hm' := by
    obtain ⟨m'', rfl, hm''⟩ := exists_after hm' (ha m' hm')
    simpa [after] using h.leftmost m'' hm''
  greedy m' hm' hlen := by
    obtain ⟨m'', rfl, hm''⟩ := exists_after hm' (ha m' hm')
    exact (h.greedy m'' hm'' (by simpa [after] using hlen)).after a a

theorem none_after {a cs : List Char} (ha : ∀ m : Capture, m.Matches (a ++ cs) → a.length ≤ m.pre.length)
    (h : ∀ m : Capture, ¬ m.Matches cs) (m : Capture) : ¬ m.Matches (a ++ cs) := by
  intro hm
  obtain ⟨m', -, hm'⟩ := exists_after hm (ha m hm)
  exact h m' hm'

/-! ## Matches at the start of a run -/

theorem point_not_digit : isDecimalDigit '.' = false := by decide

/-- A run of digits before a point is exactly the digits the text starts with. -/
theorem takeWhile_run_point {a u : List Char} (ha : ∀ c ∈ a, isDecimalDigit c = true) :
    (a ++ '.' :: u).takeWhile isDecimalDigit = a ∧
      (a ++ '.' :: u).dropWhile isDecimalDigit = '.' :: u := by
  rw [List.takeWhile_append_of_pos ha, List.dropWhile_append_of_pos ha,
    List.takeWhile_cons_of_neg (by simp [point_not_digit]),
    List.dropWhile_cons_of_neg (by simp [point_not_digit]), List.append_nil]
  exact ⟨rfl, rfl⟩

/-- The digits a text starts with are the run before what `dropWhile` leaves. -/
theorem takeWhile_run {r tail : List Char} (hr : ∀ c ∈ r, isDecimalDigit c = true)
    (hstop : ∀ y ∈ tail.head?, isDecimalDigit y = false) :
    (r ++ tail).takeWhile isDecimalDigit = r := by
  rw [List.takeWhile_append_of_pos hr]
  cases tail with
  | nil => simp
  | cons y u =>
    rw [List.takeWhile_cons_of_neg (by simp [hstop y rfl]), List.append_nil]

/-- A match at the start of a text takes the whole run of digits the text starts with as its
major run, and a point and its minor run follow. -/
theorem major_of_start {r tail : List Char} (hr : ∀ c ∈ r, isDecimalDigit c = true)
    (hstop : ∀ y ∈ tail.head?, isDecimalDigit y = false) {m : Capture} (h : m.Matches (r ++ tail))
    (hpre : m.pre = []) : m.major = r ∧ ∃ t, tail = '.' :: (m.minor ++ (patchText m.patch ++ t)) := by
  obtain ⟨t, ht⟩ := h.spans
  have hspan : m.major ++ '.' :: (m.minor ++ (patchText m.patch ++ t)) = r ++ tail := by
    rw [← ht, hpre]
    simp [span]
  have hmajor : m.major = r := by
    have := congrArg (List.takeWhile isDecimalDigit) hspan
    rwa [(takeWhile_run_point h.major.2).1, takeWhile_run hr hstop] at this
  refine ⟨hmajor, t, ?_⟩
  rw [hmajor] at hspan
  exact (List.append_cancel_left hspan).symm

/-- When the digits a text starts with are not followed by a point and a digit, no match starts
inside them. -/
theorem starts_after_run {r tail : List Char} (hr : ∀ c ∈ r, isDecimalDigit c = true)
    (hstop : ∀ y ∈ tail.head?, isDecimalDigit y = false)
    (hstall : ∀ more, tail = '.' :: more → more.takeWhile isDecimalDigit = [])
    (m : Capture) (h : m.Matches (r ++ tail)) : r.length ≤ m.pre.length := by
  induction r generalizing m with
  | nil => exact Nat.zero_le _
  | cons d r ih =>
    cases hpre : m.pre with
    | nil =>
      -- a match here would take the whole run, and no minor run follows it
      obtain ⟨-, w, hw⟩ := major_of_start hr hstop h hpre
      have hmore := hstall _ hw
      obtain ⟨c, cs, hc⟩ := List.exists_cons_of_ne_nil h.minor.1
      have hdigit : isDecimalDigit c = true := h.minor.2 c (by simp [hc])
      rw [hc, List.cons_append, List.takeWhile_cons_of_pos (by simp [hdigit])] at hmore
      cases hmore
    | cons x p =>
      have h' : m.Matches ([d] ++ (r ++ tail)) := h
      obtain ⟨m', rfl, hm'⟩ := exists_after h' (by simp [hpre])
      have := ih (fun c hc => hr c (List.mem_cons_of_mem _ hc)) m' hm'
      have hlen := congrArg List.length hpre
      simp only [after, List.singleton_append, List.length_cons] at hlen ⊢
      omega

/-- The patch run the pattern takes after a minor run: a point and one or more digits. -/
def patchRun (u : List Char) : Option (List Char) :=
  match u with
  | '.' :: more3 =>
    if (more3.takeWhile isDecimalDigit).isEmpty then none else some (more3.takeWhile isDecimalDigit)
  | _ => none

theorem patchText_patchRun (u : List Char) : patchText (patchRun u) <+: u := by
  unfold patchRun
  split
  · next more3 =>
    split
    · exact List.nil_prefix
    · exact List.prefix_cons_inj _ |>.2 (List.takeWhile_prefix _)
  · exact List.nil_prefix

theorem isRun_patchRun {u q : List Char} (h : q ∈ patchRun u) : IsRun q := by
  unfold patchRun at h
  split at h
  · split at h
    · cases h
    · next hne =>
      cases h
      exact ⟨by simpa using hne, fun c hc => List.mem_takeWhile_imp hc⟩
  · cases h

/-- After a point and a run of digits, the pattern's patch run is at least that run. -/
theorem patchRun_point {p t : List Char} (hp : IsRun p) :
    ∃ q, patchRun ('.' :: (p ++ t)) = some q ∧ p.length ≤ q.length := by
  have hq : (p ++ t).takeWhile isDecimalDigit = p ++ t.takeWhile isDecimalDigit :=
    List.takeWhile_append_of_pos (fun c hc => by simpa using hp.2 c hc)
  refine ⟨p ++ t.takeWhile isDecimalDigit, ?_, by simp⟩
  simp only [patchRun, hq, List.isEmpty_iff, List.append_eq_nil_iff, hp.1, false_and,
    ↓reduceIte]

/-- Where the digits a text starts with are followed by a point and a digit, the first match
starts at the start of the text and takes the longest runs there. -/
theorem first_of_start {r more : List Char} (hr : IsRun r) (h2 : more.takeWhile isDecimalDigit ≠ []) :
    (⟨[], r, more.takeWhile isDecimalDigit, patchRun (more.dropWhile isDecimalDigit)⟩ : Capture).First
      (r ++ '.' :: more) where
  found := by
    refine ⟨?_, hr, ⟨h2, fun c hc => List.mem_takeWhile_imp hc⟩, fun q hq => isRun_patchRun hq⟩
    have hsplit := (List.prefix_append_right_inj (more.takeWhile isDecimalDigit)).2
      (patchText_patchRun (more.dropWhile isDecimalDigit))
    rw [List.takeWhile_append_dropWhile] at hsplit
    simpa [span, List.append_assoc] using hsplit
  leftmost _ _ := Nat.zero_le _
  greedy m' hm' hlen := by
    have hpre : m'.pre = [] := List.eq_nil_of_length_eq_zero hlen
    obtain ⟨hmajor, t, ht⟩ := major_of_start hr.2 (by simp [point_not_digit]) hm' hpre
    have hmore : more = m'.minor ++ (patchText m'.patch ++ t) := by injection ht
    refine .inr ⟨by rw [hmajor], ?_⟩
    have hminor : m'.minor.length ≤ (more.takeWhile isDecimalDigit).length := by
      rw [hmore, List.takeWhile_append_of_pos (fun c hc => by simpa using hm'.minor.2 c hc)]
      simp
    cases hp : m'.patch with
    | none =>
      rcases Nat.lt_or_eq_of_le hminor with hlt | heq
      · exact .inl hlt
      · exact .inr ⟨heq, by simp [patchRank, hp]⟩
    | some p =>
      -- a patch run after the minor run fixes the minor run to the whole run of digits
      rw [hp] at hmore
      obtain ⟨h2eq, hdrop⟩ := takeWhile_run_point (u := p ++ t) hm'.minor.2
      simp only [patchText, List.cons_append] at hmore
      rw [← hmore] at h2eq hdrop
      obtain ⟨q, hq, hlen⟩ := patchRun_point (t := t) (hm'.patch p (by simp [hp]))
      refine .inr ⟨by rw [h2eq], ?_⟩
      simp only [patchRank, hp, hdrop, hq]
      omega

/-- A match at the start of a text starts with a digit. -/
theorem digit_of_start {c : Char} {rest : List Char} {m : Capture} (h : m.Matches (c :: rest))
    (hpre : m.pre = []) : isDecimalDigit c = true := by
  obtain ⟨t, ht⟩ := h.spans
  obtain ⟨d, ds, hd⟩ := List.exists_cons_of_ne_nil h.major.1
  rw [hpre, List.nil_append, span, hd] at ht
  simp only [List.cons_append, List.cons.injEq] at ht
  exact ht.1 ▸ h.major.2 d (by simp [hd])

end Capture

open Capture

/-- What a search for the pattern says of a text: there is no match, or these are the runs of the
first match. -/
def Finds (cs : List Char) : Option (List Char × List Char × Option (List Char)) → Prop
  | none => ∀ m : Capture, ¬ m.Matches cs
  | some (a, b, p) => ∃ pre, (⟨pre, a, b, p⟩ : Capture).First cs

/-- What a search says of a text it says of the text behind a front part where no match starts. -/
theorem Finds.after {a cs : List Char} {o : Option (List Char × List Char × Option (List Char))}
    (ha : ∀ m : Capture, m.Matches (a ++ cs) → a.length ≤ m.pre.length) (h : Finds cs o) :
    Finds (a ++ cs) o := by
  match o, h with
  | none, h => exact none_after ha h
  | some (x, y, p), ⟨pre, h⟩ => exact ⟨a ++ pre, first_after ha h⟩

theorem findRuns_skip {c : Char} {rest : List Char} (hc : isDecimalDigit c = false) :
    findRuns (c :: rest) = findRuns rest := by
  rw [findRuns]
  simp [hc]

theorem findRuns_stall {c : Char} {rest : List Char} (hc : isDecimalDigit c = true)
    (hstall : ∀ more, rest.dropWhile isDecimalDigit = '.' :: more → more.takeWhile isDecimalDigit = []) :
    findRuns (c :: rest) = findRuns (rest.dropWhile isDecimalDigit) := by
  rw [findRuns]
  simp only [hc, ↓reduceIte]
  split
  · next more hd => simp [hstall more hd]
  · rfl

theorem findRuns_start {c : Char} {rest more : List Char} (hc : isDecimalDigit c = true)
    (hd : rest.dropWhile isDecimalDigit = '.' :: more) (h2 : more.takeWhile isDecimalDigit ≠ []) :
    findRuns (c :: rest) = some (c :: rest.takeWhile isDecimalDigit, more.takeWhile isDecimalDigit,
      patchRun (more.dropWhile isDecimalDigit)) := by
  have hne : (more.takeWhile isDecimalDigit).isEmpty = false := by simpa using h2
  rw [findRuns]
  simp only [hc, hd, ↓reduceIte, hne, Bool.false_eq_true]
  rfl


/-- The run of digits a text starts with, and what follows it. -/
theorem run_split (c : Char) (rest : List Char) :
    c :: rest = (c :: rest.takeWhile isDecimalDigit) ++ rest.dropWhile isDecimalDigit := by
  rw [List.cons_append, List.takeWhile_append_dropWhile]

/-- No match starts inside a run of digits that no point and digit follow. -/
theorem starts_after_stall {c : Char} {rest : List Char} (hc : isDecimalDigit c = true)
    (hstall : ∀ more, rest.dropWhile isDecimalDigit = '.' :: more → more.takeWhile isDecimalDigit = [])
    (m : Capture) (h : m.Matches ((c :: rest.takeWhile isDecimalDigit) ++ rest.dropWhile isDecimalDigit)) :
    (c :: rest.takeWhile isDecimalDigit).length ≤ m.pre.length := by
  refine starts_after_run ?_ ?_ hstall m h
  · intro d hd
    rcases List.mem_cons.1 hd with rfl | hd
    · exact hc
    · exact List.mem_takeWhile_imp hd
  · intro y hy
    have := List.head?_dropWhile_not isDecimalDigit rest
    rw [hy] at this
    exact this

/-- The search finds the runs of the first match of the pattern, or finds that there is none. -/
theorem findRuns_finds (cs : List Char) : Finds cs (findRuns cs) := by
  induction cs using findRuns.induct with
  | case1 =>
    rw [findRuns]
    intro m hm
    obtain ⟨t, ht⟩ := hm.spans
    obtain ⟨d, ds, hd⟩ := List.exists_cons_of_ne_nil hm.major.1
    simp [span, hd] at ht
  | case2 c rest hc more hd _ h2 ih =>
    -- a point follows the run, but no digit follows the point
    have hstall : ∀ more', rest.dropWhile isDecimalDigit = '.' :: more' →
        more'.takeWhile isDecimalDigit = [] := by
      intro more' hd'
      rw [hd, List.cons.injEq] at hd'
      have hempty : (more.takeWhile isDecimalDigit).isEmpty = true := h2
      rw [← hd'.2]
      exact List.isEmpty_iff.1 hempty
    rw [findRuns_stall hc hstall, run_split c rest]
    exact ih.after (starts_after_stall hc hstall)
  | case3 c rest hc more hd _ h2 =>
    have hne : ¬ (more.takeWhile isDecimalDigit).isEmpty = true := h2
    have h2' : more.takeWhile isDecimalDigit ≠ [] := fun h => hne (List.isEmpty_iff.2 h)
    rw [findRuns_start hc hd h2']
    have hrun : IsRun (c :: rest.takeWhile isDecimalDigit) :=
      ⟨List.cons_ne_nil _ _, fun d hd' => (List.mem_cons.1 hd').elim (· ▸ hc) List.mem_takeWhile_imp⟩
    refine ⟨[], ?_⟩
    rw [run_split c rest, hd]
    exact first_of_start hrun h2'
  | case4 c rest hc hnot ih =>
    -- no point follows the run
    have hstall : ∀ more', rest.dropWhile isDecimalDigit = '.' :: more' →
        more'.takeWhile isDecimalDigit = [] := fun more' hd' => (hnot more' hd').elim
    rw [findRuns_stall hc hstall, run_split c rest]
    exact ih.after (starts_after_stall hc hstall)
  | case5 c rest hc ih =>
    rw [findRuns_skip (by simpa using hc)]
    have ha : ∀ m : Capture, m.Matches ([c] ++ rest) → [c].length ≤ m.pre.length := by
      intro m hm
      cases hpre : m.pre with
      | nil => exact absurd (digit_of_start hm hpre) hc
      | cons x p => simp
    exact ih.after ha

/-- Two pieces that start a text and have the same length are the same. -/
theorem eq_of_prefix_of_length {l₁ l₂ cs : List Char} (h₁ : l₁ <+: cs) (h₂ : l₂ <+: cs)
    (hl : l₁.length = l₂.length) : l₁ = l₂ :=
  (List.prefix_of_prefix_length_le h₁ h₂ hl.le).eq_of_length hl

/-- There is one first match. -/
theorem Capture.First.unique {cs : List Char} {m m' : Capture} (h : m.First cs) (h' : m'.First cs) :
    m = m' := by
  have hlen : m.pre.length = m'.pre.length :=
    Nat.le_antisymm (h.leftmost m' h'.found) (h'.leftmost m h.found)
  have hg := h.greedy m' h'.found hlen.symm
  have hg' := h'.greedy m h.found hlen
  unfold Greedier at hg hg'
  -- each piece starts the text at the same place with the same length as the other's
  have hs := h.found.spans
  have hs' := h'.found.spans
  simp only [span, List.append_assoc, List.cons_append] at hs hs'
  obtain ⟨pre, major, minor, patch⟩ := m
  obtain ⟨pre', major', minor', patch'⟩ := m'
  simp only at hlen hg hg' hs hs'
  have hpre : pre = pre' :=
    eq_of_prefix_of_length ((List.prefix_append _ _).trans hs) ((List.prefix_append _ _).trans hs') hlen
  subst hpre
  have hmajor : major = major' := by
    have := eq_of_prefix_of_length ((List.prefix_append (pre ++ major) _).trans (by simpa using hs))
      ((List.prefix_append (pre ++ major') _).trans (by simpa using hs')) (by simp; omega)
    exact List.append_cancel_left this
  subst hmajor
  have hminor : minor = minor' := by
    have := eq_of_prefix_of_length ((List.prefix_append (pre ++ major ++ '.' :: minor) _).trans (by simpa using hs))
      ((List.prefix_append (pre ++ major ++ '.' :: minor') _).trans (by simpa using hs')) (by simp; omega)
    simpa using this
  subst hminor
  cases patch with
  | none =>
    cases patch' with
    | none => rfl
    | some p' => simp [patchRank] at hg hg'
  | some p =>
    cases patch' with
    | none => simp [patchRank] at hg hg'
    | some p' =>
      have hp : p.length = p'.length := by simp [patchRank] at hg hg'; omega
      have h₁ : pre ++ major ++ '.' :: minor ++ '.' :: p <+: cs := by simpa [patchText] using hs
      have h₂ : pre ++ major ++ '.' :: minor ++ '.' :: p' <+: cs := by simpa [patchText] using hs'
      have := eq_of_prefix_of_length h₁ h₂ (by simp; omega)
      simp at this
      rw [this]

/-! ## Reading the runs -/

/-- A run reads as a 32-bit number: its digits are ASCII and its value fits. -/
def Fits32 (r : List Char) : Prop :=
  (∀ c ∈ r, c.isDigit = true) ∧ Nat.ofDigitChars 10 r 0 < Nat.pow 2 32

/-- A run of digits reads as a version number exactly when it fits 32 bits, and then as its
value. -/
theorem component_ok {r : List Char} (hr : IsRun r) (n : Nat) :
    component r = .ok n ↔ Fits32 r ∧ n = Nat.ofDigitChars 10 r 0 := by
  obtain ⟨c, cs, rfl⟩ := List.exists_cons_of_ne_nil hr.1
  have hbound : 0 < Nat.pow 2 32 := by decide
  unfold component
  dsimp only
  rw [Text.parseUnsigned_digits (hr.2 c List.mem_cons_self)]
  split
  · next n' h =>
    obtain ⟨hd, hlt, rfl⟩ := (Text.numeralDigits_ok hbound _ n').1 h
    rw [Except.ok.injEq, eq_comm]
    exact ⟨fun h' => ⟨⟨hd, hlt⟩, h'⟩, fun h' => h'.2⟩
  · next e h =>
    simp only [reduceCtorEq, false_iff, not_and]
    intro hfits _
    rw [(Text.numeralDigits_ok hbound _ _).2 ⟨hfits.1, hfits.2, rfl⟩] at h
    cases h

/-- A run that does not read gives a configuration error. -/
theorem component_error {r : List Char} {e : TxError} (h : component r = .error e) :
    ∃ msg, e = .configuration msg := by
  unfold component at h
  dsimp only at h
  split at h
  · cases h
  · cases h
    exact ⟨_, rfl⟩

/-- A read whose parts fail only with a configuration error fails only with one. -/
theorem configuration_of_bind {α β : Type} {x : Except TxError α} {f : α → Except TxError β}
    {e : TxError} (hx : ∀ e, x = .error e → ∃ msg, e = .configuration msg)
    (hf : ∀ a e, f a = .error e → ∃ msg, e = .configuration msg) (h : (x >>= f) = .error e) :
    ∃ msg, e = .configuration msg := by
  cases hx' : x with
  | error e' =>
    rw [hx'] at h
    cases h
    exact hx _ hx'
  | ok a =>
    rw [hx'] at h
    exact hf a e h

/-- The version a match gives: its runs' values, and 0 for a missing patch run. -/
def Capture.version (m : Capture) : ServerVersion :=
  ⟨Nat.ofDigitChars 10 m.major 0, Nat.ofDigitChars 10 m.minor 0,
    (m.patch.map (Nat.ofDigitChars 10 · 0)).getD 0⟩

/-- Every run of a match reads as a 32-bit number. -/
def Capture.Fits32 (m : Capture) : Prop :=
  ServerVersion.Fits32 m.major ∧ ServerVersion.Fits32 m.minor ∧ ∀ p ∈ m.patch, ServerVersion.Fits32 p

/-- Where the search finds the runs of a match, reading gives the match's version when every
run fits, and a configuration error otherwise. -/
theorem parse_of_findRuns {s : String} {m : Capture} (hm : m.Matches s.toList)
    (hf : findRuns s.toList = some (m.major, m.minor, m.patch)) :
    (parse s = .ok m.version ↔ m.Fits32) ∧
      (¬ m.Fits32 → ∃ msg, parse s = .error (.configuration msg)) := by
  obtain ⟨pre, major, minor, patch⟩ := m
  have hM := hm.major
  have hN := hm.minor
  have hP := hm.patch
  simp only at hf hM hN hP
  have hparse : parse s = (do
      let x ← component major
      let y ← component minor
      let z ← (patch.elim (pure 0) component : Except TxError Nat)
      pure (⟨x, y, z⟩ : ServerVersion)) := by
    unfold parse
    rw [hf]
    cases patch <;> rfl
  -- the patch run reads as its value or is missing; either way it gives 0 or a configuration error
  have hpatch : ∀ z, (patch.elim (pure 0) component : Except TxError Nat) = .ok z ↔
      (∀ p ∈ patch, Fits32 p) ∧ z = (patch.map (Nat.ofDigitChars 10 · 0)).getD 0 := by
    intro z
    cases patch with
    | none => simp [eq_comm]
    | some p => simpa using component_ok (hP p rfl) z
  have hpatchErr : ∀ e, (patch.elim (pure 0) component : Except TxError Nat) = .error e →
      ∃ msg, e = .configuration msg := by
    intro e he
    cases patch with
    | none => cases he
    | some p => exact component_error he
  -- a read version has every run fitting, and a failed read is a configuration error
  have hfits : ∀ v, parse s = .ok v → Capture.Fits32 ⟨pre, major, minor, patch⟩ := by
    intro v h
    rw [hparse] at h
    obtain ⟨x, hx, h⟩ := Json.bind_eq_ok h
    obtain ⟨y, hy, h⟩ := Json.bind_eq_ok h
    obtain ⟨z, hz, -⟩ := Json.bind_eq_ok h
    exact ⟨((component_ok hM x).1 hx).1, ((component_ok hN y).1 hy).1, ((hpatch z).1 hz).1⟩
  have herr : ∀ e, parse s = .error e → ∃ msg, e = .configuration msg := by
    intro e h
    rw [hparse] at h
    exact configuration_of_bind (fun _ => component_error) (fun _ _ h =>
      configuration_of_bind (fun _ => component_error) (fun _ _ h =>
        configuration_of_bind hpatchErr (fun _ _ h => by cases h) h) h) h
  refine ⟨⟨hfits _, fun ⟨h1, h2, h3⟩ => ?_⟩, fun hnot => ?_⟩
  · rw [hparse, (component_ok hM _).2 ⟨h1, rfl⟩, (component_ok hN _).2 ⟨h2, rfl⟩,
      (hpatch _).2 ⟨h3, rfl⟩]
    rfl
  · cases h : parse s with
    | ok v => exact absurd (hfits v h) hnot
    | error e =>
      obtain ⟨msg, rfl⟩ := herr e h
      exact ⟨msg, rfl⟩

/-! ## The written form -/

theorem isRun_toDigits (n : Nat) : IsRun (Nat.toDigits 10 n) :=
  ⟨Nat.toDigits_ne_nil, fun c hc =>
    Text.isDecimalDigit_of_isDigit c (Nat.isDigit_of_mem_toDigits (by decide) (by decide) hc)⟩

theorem fits32_toDigits {n : Nat} (h : n < Nat.pow 2 32) : Fits32 (Nat.toDigits 10 n) :=
  ⟨fun _ hc => Nat.isDigit_of_mem_toDigits (by decide) (by decide) hc,
    by rw [Nat.ofDigitChars_ten_toDigits]; exact h⟩

theorem render_toList (v : ServerVersion) :
    v.render.toList = Nat.toDigits 10 v.major ++ '.' ::
      (Nat.toDigits 10 v.minor ++ '.' :: Nat.toDigits 10 v.patch) := by
  simp [render]

/-- The search finds the three numbers of a written version. -/
theorem findRuns_render (v : ServerVersion) :
    findRuns v.render.toList =
      some (Nat.toDigits 10 v.major, Nat.toDigits 10 v.minor, some (Nat.toDigits 10 v.patch)) := by
  have hM := isRun_toDigits v.major
  have hN := isRun_toDigits v.minor
  have hP := isRun_toDigits v.patch
  obtain ⟨c, rest, hc⟩ := List.exists_cons_of_ne_nil hM.1
  have hrest : ∀ d ∈ rest, isDecimalDigit d = true :=
    fun d hd => hM.2 d (hc ▸ List.mem_cons_of_mem _ hd)
  obtain ⟨htake, hdrop⟩ := takeWhile_run_point (u := Nat.toDigits 10 v.minor ++ '.' :: Nat.toDigits 10 v.patch) hrest
  obtain ⟨htake2, hdrop2⟩ := takeWhile_run_point (u := Nat.toDigits 10 v.patch) hN.2
  rw [render_toList, hc, List.cons_append, findRuns_start (hM.2 c (by simp [hc])) hdrop (by rw [htake2]; exact hN.1),
    htake, htake2, hdrop2]
  have hall : (Nat.toDigits 10 v.patch).takeWhile isDecimalDigit = Nat.toDigits 10 v.patch :=
    List.takeWhile_eq_self_iff.2 hP.2
  simp only [patchRun, hall, List.isEmpty_iff, hP.1, ↓reduceIte]

/-- The written form of a version whose numbers fit 32 bits reads back as the version. -/
theorem parse_render {v : ServerVersion} (h1 : v.major < Nat.pow 2 32) (h2 : v.minor < Nat.pow 2 32)
    (h3 : v.patch < Nat.pow 2 32) : parse v.render = .ok v := by
  let m : Capture := ⟨[], Nat.toDigits 10 v.major, Nat.toDigits 10 v.minor, some (Nat.toDigits 10 v.patch)⟩
  have hm : m.Matches v.render.toList := by
    refine ⟨?_, isRun_toDigits _, isRun_toDigits _, fun p hp => ?_⟩
    · rw [render_toList]
      simp [m, span, patchText]
    · cases hp
      exact isRun_toDigits _
  have hversion : m.version = v := by
    simp [m, Capture.version]
  have hread := (parse_of_findRuns hm (findRuns_render v)).1.2
    ⟨fits32_toDigits h1, fits32_toDigits h2, fun p hp => by cases hp; exact fits32_toDigits h3⟩
  rwa [hversion] at hread

/-- Reading a version takes the leftmost match of `(\d+)\.(\d+)(?:\.(\d+))?`, with the longest
runs there, and gives its runs' values, 0 for a missing patch run; it fails with a configuration
error when nothing matches or a run does not read as a 32-bit number. So the written form of a
version of 32-bit numbers reads back as the version. -/
theorem parse_leftmost_first :
    (∀ v : ServerVersion, v.major < Nat.pow 2 32 → v.minor < Nat.pow 2 32 → v.patch < Nat.pow 2 32 →
      parse v.render = .ok v) ∧
    ∀ s : String,
      ((∀ m : Capture, ¬ m.Matches s.toList) →
        parse s = .error (.configuration ("Unrecognised server version: " ++ s))) ∧
      ((∃ m : Capture, m.Matches s.toList) → ∃ m : Capture, m.First s.toList) ∧
      ∀ m : Capture, m.First s.toList →
        (parse s = .ok m.version ↔ m.Fits32) ∧
        (¬ m.Fits32 → ∃ msg, parse s = .error (.configuration msg)) := by
  refine ⟨fun v h1 h2 h3 => parse_render h1 h2 h3, fun s => ?_⟩
  have hfind := findRuns_finds s.toList
  cases hf : findRuns s.toList with
  | none =>
    rw [hf] at hfind
    refine ⟨fun _ => by rw [parse, hf], fun ⟨m, hm⟩ => absurd hm (hfind m), fun m hm => absurd hm.found (hfind m)⟩
  | some runs =>
    obtain ⟨a, b, p⟩ := runs
    rw [hf] at hfind
    obtain ⟨pre, hfirst⟩ := hfind
    refine ⟨fun h => absurd hfirst.found (h _), fun _ => ⟨_, hfirst⟩, fun m hm => ?_⟩
    -- every first match is the one the search finds
    obtain rfl := hm.unique hfirst
    exact parse_of_findRuns hfirst.found hf

/-- The largest major number a version holds, with a patch number, reads back from its written
form. -/
theorem largest_major_reads_back :
    parse (⟨4294967295, 0, 12⟩ : ServerVersion).render = .ok ⟨4294967295, 0, 12⟩ :=
  parse_leftmost_first.1 _ (by decide) (by decide) (by decide)

end TxnCoord.ServerVersion
