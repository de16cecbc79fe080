import TxnCoord.Text.Blank
import TxnCoord.Time.Calendar
/-!
# Dates in the internet message format

Reads a date such as `Tue, 24 Sep 2024 10:00:00 +0000` into an `Instant`. The grammar is
the message format's, read leniently:

* blanks are any run of `White_Space`; names of days, months and zones are matched without
  regard to case;
* the day of the week is optional, but when given it is followed by a comma and must be
  the day of the date;
* a two-digit year below 50 is in the 2000s, other two-digit and all three-digit years are
  counted from 1900, and longer years stand as written;
* the seconds are optional and may be 60, a leap second;
* the zone is an `hhmm` offset after `+` or an ASCII `-`, one of `UT`, `GMT`, `Z` and the
  eight North American names, or any other single letter but `J`, which counts as `+0000`;
* comments in parentheses may follow, nested and with backslash escapes; nothing else may.

The offset must be less than a day. The date must exist, from year 0 to `maxYear`, and the
instant in UTC must not pass the last day of `maxYear`.
-/

namespace TxnCoord.Time

open TxnCoord.Text

namespace MailDate

/-- Reads from `lo` to `hi` ASCII digits, as many as there are up to `hi`. -/
def readDigits (lo hi : Nat) (cs : List Char) : Option (Nat × Nat × List Char) :=
  let ds := (cs.takeWhile Char.isDigit).take hi
  if ds.length < lo then none
  else some (ds.foldl (fun n c => 10 * n + (c.toNat - 48)) 0, ds.length, cs.drop ds.length)

/-- At least one blank. -/
def readBlank (cs : List Char) : Option (List Char) :=
  let rest := dropBlank cs
  if rest.length < cs.length then some rest else none

/-- The three-letter name at the front, in lower case, if its letters are ASCII. -/
def shortName (cs : List Char) : Option (String × List Char) :=
  let n := cs.take 3
  if n.length = 3 ∧ n.all (fun c => c.toNat < 128) then
    some (String.ofList (n.map Char.toLower), cs.drop 3)
  else none

/-- The short names of the days, from Monday. -/
def dayNames : List String := ["mon", "tue", "wed", "thu", "fri", "sat", "sun"]

/-- The short names of the months, from January. -/
def monthNames : List String :=
  ["jan", "feb", "mar", "apr", "may", "jun", "jul", "aug", "sep", "oct", "nov", "dec"]

/-- The day of the week named at the front, 0 for Monday. -/
def readWeekday (cs : List Char) : Option (Nat × List Char) := do
  let (n, rest) ← shortName cs
  let i ← dayNames.idxOf? n
  pure (i, rest)

/-- The month named at the front, 1 for January. -/
def readMonth (cs : List Char) : Option (Nat × List Char) := do
  let (n, rest) ← shortName cs
  let i ← monthNames.idxOf? n
  pure (i + 1, rest)

/-- The offset of a zone name, in hours east of UTC. -/
def namedZone (name : String) : Option Int :=
  if name = "gmt" ∨ name = "ut" ∨ name = "z" then some 0
  else if name = "edt" then some (-4)
  else if name = "est" ∨ name = "cdt" then some (-5)
  else if name = "cst" ∨ name = "mdt" then some (-6)
  else if name = "mst" ∨ name = "pdt" then some (-7)
  else if name = "pst" then some (-8)
  else if name.length = 1 ∧ name ≠ "j" then some 0
  else none

/-- The value of two ASCII digits at the front. -/
def twoDigits : List Char → Option (Nat × Nat)
  | a :: b :: _ => if a.isDigit ∧ b.isDigit then some (a.toNat - 48, b.toNat - 48) else none
  | _ => none

/-- A zone: a name or a signed `hhmm`, as seconds east of UTC. -/
def readZone (cs : List Char) : Option (Int × List Char) :=
  let name := cs.takeWhile Char.isAlpha
  if 0 < name.length then do
    let h ← namedZone (String.ofList (name.map Char.toLower))
    pure (h * 3600, cs.drop name.length)
  else do
    let (neg, rest) ← match cs with
      | '+' :: r => some (false, r)
      | '-' :: r => some (true, r)
      | _ => none
    let (h1, h2) ← twoDigits rest
    let (m1, m2) ← twoDigits (rest.drop 2)
    if 5 < m1 then none
    else
      let secs : Int := ((10 * h1 + h2) * 3600 + (10 * m1 + m2) * 60 : Nat)
      pure (if neg then -secs else secs, rest.drop 4)

/-- The rest after a comment's close, for a comment opened at `depth` one or more. -/
def commentBody : Nat → Bool → List Char → Option (List Char)
  | _, _, [] => none
  | depth, true, _ :: rest => commentBody depth false rest
  | depth, false, c :: rest =>
    if c = ')' then (if depth ≤ 1 then some rest else commentBody (depth - 1) false rest)
    else if c = '\\' then commentBody depth true rest
    else if c = '(' then commentBody (depth + 1) false rest
    else commentBody depth false rest

/-- One comment after optional blanks. -/
def readComment (cs : List Char) : Option (List Char) :=
  match dropBlank cs with
  | '(' :: rest => commentBody 1 false rest
  | _ => none

/-- Skips comments while there are; what is left must be empty. -/
def onlyComments : List Char → Bool
  | [] => true
  | cs =>
    match h : readComment cs with
    | some rest =>
      have : rest.length < cs.length := by
        unfold readComment at h
        split at h
        · rename_i rest' heq
          have h1 := commentBody_shorter 1 false rest' rest h
          have h2 := Text.length_dropBlank_le cs
          rw [heq] at h2
          simp at h2
          omega
        · simp at h
      onlyComments rest
    | none => false
termination_by cs => cs.length
where
  commentBody_shorter : ∀ (d : Nat) (e : Bool) (cs rest : List Char),
      commentBody d e cs = some rest → rest.length ≤ cs.length := by
    intro d e cs
    induction cs generalizing d e with
    | nil => intro rest h; simp [commentBody] at h
    | cons c cs ih =>
      intro rest h
      cases e with
      | true =>
        have := ih d false rest (by simpa [commentBody] using h)
        simp only [List.length_cons]
        omega
      | false =>
        simp only [commentBody] at h
        split at h
        · split at h
          · simp only [Option.some.injEq] at h
            subst h
            simp
          · have := ih _ _ rest h
            simp only [List.length_cons]
            omega
        · split at h
          · have := ih _ _ rest h
            simp only [List.length_cons]
            omega
          · split at h
            · have := ih _ _ rest h
              simp only [List.length_cons]
              omega
            · have := ih _ _ rest h
              simp only [List.length_cons]
              omega

/-- The year as written, moved into a century when it has two or three digits. -/
def fullYear (year width : Nat) : Nat :=
  if width = 2 ∧ year < 50 then year + 2000
  else if width = 2 ∨ width = 3 then year + 1900
  else year

end MailDate

open MailDate in
/-- Reads a date in the internet message format. -/
def MailDate.parse (s : String) : Option Instant := do
  let cs := dropBlank s.toList
  let (wd, cs) ← match readWeekday cs with
    | some (w, ',' :: rest) => some (some w, rest)
    | some _ => none
    | none => some (none, cs)
  let (day, _, cs) ← readDigits 1 2 (dropBlank cs)
  let cs ← readBlank cs
  let (month, cs) ← readMonth cs
  let cs ← readBlank cs
  let (year, width, cs) ← readDigits 2 (s.length + 2) cs
  let cs ← readBlank cs
  let (hour, _, cs) ← readDigits 2 2 cs
  let cs ← match dropBlank cs with
    | ':' :: rest => some (dropBlank rest)
    | _ => none
  let (minute, _, cs) ← readDigits 2 2 cs
  let (second, cs) ← match dropBlank cs with
    | ':' :: rest => do
      let (sec, _, rest) ← readDigits 2 2 rest
      pure (sec, rest)
    | _ => some (0, cs)
  let cs ← readBlank cs
  let (offset, cs) ← readZone cs
  if !onlyComments cs then none
  let date : Date := ⟨fullYear year width, month, day⟩
  if !(date.isValid && date.year ≤ maxYear) then none
  if 23 < hour ∨ 59 < minute ∨ 60 < second then none
  if 86400 ≤ offset.natAbs then none
  match wd with
  | some w => if w ≠ weekday date.toDays then none
  | none => pure ()
  let leap := second = 60
  let t := Instant.ofLocal date hour minute (if leap then 59 else second) leap offset
  if lastDay < t.days then none
  pure t

end TxnCoord.Time
