import TxnCoord.Time.Calendar
import TxnCoord.Text.Blank
/-!
# Internet timestamps

Reading a timestamp such as `2024-01-01T00:00:00Z` in the relaxed form of RFC 3339:

* blanks may stand before each number, before each `-` of the date and `:` of the time,
  and before the offset;
* the date and the time are separated by `T`, `t` or a blank;
* a year has up to four digits, or any number of digits after a sign;
* fractional seconds have at least one digit, and the digits after the ninth are skipped;
* the offset is `Z`, `z`, `UTC` in any case, or a sign (`+`, `-` or the minus sign
  U+2212) and two digits of hours, optionally followed by colons or blanks, and two digits
  of minutes;
* only blanks may follow.

A number out of its range fails as soon as it is read; a date that does not exist, an
offset of a day or more, or a local time outside the years `minYear` to `maxYear` fails at
the end as out of range, and a local time whose instant falls outside those years as
impossible. The two digits of the offset's hours and minutes are counted in bytes, so a
non-ASCII character there is invalid rather than too short.
The instant is kept to the second.
-/

namespace TxnCoord.Time.Rfc3339

/-- Why a text is not a timestamp. -/
inductive Fault where
  | outOfRange
  | impossible
  | invalid
  | tooShort
  | tooLong
  deriving DecidableEq, Repr

/-- The text of a fault. -/
def Fault.message : Fault → String
  | .outOfRange => "input is out of range"
  | .impossible => "no possible date and time matching input"
  | .invalid => "input contains invalid characters"
  | .tooShort => "premature end of input"
  | .tooLong => "trailing input"

/-- Skips blanks. -/
def trim (cs : List Char) : List Char := Text.dropBlank cs

/-- Whether a character is an ASCII digit. -/
def isDigit (c : Char) : Bool := '0' ≤ c && c ≤ '9'

/-- The largest value a number may reach while it is read. -/
def numberMax : Nat := Nat.pow 2 63 - 1

/-- Reads between `min` and `max` digits, as many as stand there. -/
def digitsFrom (min max : Nat) : List Char → Nat → Nat → Except Fault (List Char × Nat)
  | [], _, acc => if 0 < min then .error .tooShort else .ok ([], acc)
  | c :: rest, i, acc =>
    if i ≥ max then .ok (c :: rest, acc)
    else if isDigit c then
      let v := acc * 10 + (c.toNat - 48)
      if v > numberMax then .error .outOfRange else digitsFrom min max rest (i + 1) v
    else if i < min then .error .invalid
    else .ok (c :: rest, acc)
termination_by cs => cs.length

/-- Reads a number of `min` to `max` digits. -/
def number (cs : List Char) (min max : Nat) : Except Fault (List Char × Nat) :=
  match cs with
  | [] => if 0 < min then .error .tooShort else .ok ([], 0)
  | _ => digitsFrom min max cs 0 0

/-- Reads a number after blanks and checks that it lies in a range. -/
def field (cs : List Char) (width lo hi : Nat) : Except Fault (List Char × Nat) := do
  let (rest, v) ← number (trim cs) 1 width
  if lo ≤ v ∧ v ≤ hi then pure (rest, v) else throw .outOfRange

/-- Reads one exact character. -/
def literal (c : Char) : List Char → Except Fault (List Char)
  | [] => .error .tooShort
  | d :: rest => if d = c then .ok rest else .error .invalid

/-- Reads the year: four digits at most, or any number after a sign. -/
def year (cs : List Char) : Except Fault (List Char × Int) := do
  let cs := trim cs
  let (rest, v) ← match cs with
    | '-' :: rest => do
      let (r, n) ← number rest 1 numberMax
      pure (r, -(n : Int))
    | '+' :: rest => do
      let (r, n) ← number rest 1 numberMax
      pure (r, (n : Int))
    | _ => do
      let (r, n) ← number cs 1 4
      pure (r, (n : Int))
  if -2147483648 ≤ v ∧ v ≤ 2147483647 then pure (rest, v) else throw .outOfRange

/-- Reads fractional seconds after a point: up to nine digits count, more are skipped. -/
def fraction (cs : List Char) : Except Fault (List Char) :=
  match cs with
  | '.' :: rest => do
    let (r, _) ← number rest 1 9
    pure (r.dropWhile isDigit)
  | _ => .ok cs

/-- Whether a text has two bytes or more. -/
def hasTwoBytes (cs : List Char) : Bool :=
  match cs with
  | [] => false
  | [c] => 128 ≤ c.toNat
  | _ :: _ :: _ => true

/-- The first two characters when both are ASCII digits. -/
def twoDigits? (cs : List Char) : Option (Char × Char) :=
  match cs with
  | a :: b :: _ => if isDigit a && isDigit b then some (a, b) else none
  | _ => none

/-- The value of a digit character. -/
def digitValue (c : Char) : Nat := c.toNat - 48

/-- Reads an offset east of UTC, in seconds. -/
def offset (cs : List Char) : Except Fault (List Char × Int) := do
  match cs with
  | 'Z' :: rest => return (rest, 0)
  | 'z' :: rest => return (rest, 0)
  | _ => pure ()
  let (negative, cs) ← match cs with
    | '+' :: rest => pure (false, rest)
    | '-' :: rest => pure (true, rest)
    | '−' :: rest => pure (true, rest)
    | [] => throw .tooShort
    | _ => throw .invalid
  if !hasTwoBytes cs then throw .tooShort
  let (h1, h2) ← match twoDigits? cs with
    | some p => pure p
    | none => throw .invalid
  let hours := digitValue h1 * 10 + digitValue h2
  let cs := (cs.drop 2).dropWhile fun c => c = ':' || Text.isWhiteSpace c
  if !hasTwoBytes cs then throw .tooShort
  let minutes ← match twoDigits? cs with
    | some (m1, m2) =>
      if m1 ≤ '5' then pure (digitValue m1 * 10 + digitValue m2) else throw .outOfRange
    | none => throw .invalid
  let seconds : Int := hours * 3600 + minutes * 60
  pure (cs.drop 2, if negative then -seconds else seconds)

/-- Whether a text starts with `UTC` in any case. -/
def startsWithUtc (cs : List Char) : Bool :=
  match cs with
  | a :: b :: c :: _ => a.toLower == 'u' && b.toLower == 't' && c.toLower == 'c'
  | _ => false

/-- Reads a timestamp. -/
def parse (s : String) : Except Fault Instant := do
  let cs := s.toList
  let (cs, y) ← year cs
  let cs ← literal '-' (trim cs)
  let (cs, mo) ← field cs 2 1 12
  let cs ← literal '-' (trim cs)
  let (cs, d) ← field cs 2 1 31
  let cs ← match cs with
    | c :: rest => if c = 'T' ∨ c = 't' ∨ c = ' ' then pure rest else throw .invalid
    | [] => throw .tooShort
  let (cs, h) ← field cs 2 0 23
  let cs ← literal ':' (trim cs)
  let (cs, mi) ← field cs 2 0 59
  let cs ← literal ':' (trim cs)
  let (cs, sec) ← field cs 2 0 60
  let cs ← fraction cs
  let cs := trim cs
  let (cs, off) ← if startsWithUtc cs then pure (cs.drop 3, (0 : Int)) else offset cs
  if !(trim cs).isEmpty then throw .tooLong
  let date : Date := ⟨y, mo, d⟩
  if !(minYear ≤ y ∧ y ≤ maxYear) || !date.isValid then throw .outOfRange
  if !(-86400 < off ∧ off < 86400) then throw .outOfRange
  let t := Instant.ofLocal date h mi (min sec 59) (sec == 60) off
  if t.days < firstDay ∨ lastDay < t.days then throw .impossible
  pure t

end TxnCoord.Time.Rfc3339
