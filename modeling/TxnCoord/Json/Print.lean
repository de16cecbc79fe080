import TxnCoord.Json.Value
import TxnCoord.Decimal.Shortest
/-!
# Writing JSON

Two layouts of one grammar: compact, with no blank at all, and pretty, with one member or
item per line and two blanks of indent per level. An empty array or object is `[]` or `{}`
in both.

* Text is quoted with a backslash before `"` and `\`. Of the control characters,
  backspace, tab, line feed, form feed and carriage return get their letter escapes, and
  the others `\u00xx` in lower-case hex. Everything else is written as it is.
* A whole number is written in decimal. A double is written with the fewest digits that
  read back (`Decimal.Binary.shortest`), in the layout of `Number.doubleLayout`.
-/

namespace TxnCoord

/-- Where a double's decimal is written positionally, and how its exponent looks. -/
structure DoubleLayout where
  /-- Positional when the leading digit's place `kk` satisfies `lowKK < kk ≤ highKK`. -/
  lowKK : Int
  highKK : Int
  /-- Text between the digits and the exponent. -/
  expMark : String
  /-- A whole positional value keeps a `.0`. -/
  keepPointZero : Bool
  /-- A non-negative exponent is written with `+`. -/
  plusSign : Bool
  /-- The fewest digits of an exponent, made up with leading zeros. -/
  expDigits : Nat

/-- Doubles are positional from `1e-5` up to below `1e16`, otherwise `1.5e-7` or `1e+16`
(an exponent with its sign always written), and a whole positional double ends in `.0`. -/
def Number.doubleLayout : DoubleLayout := ⟨-5, 16, "e", true, true, 1⟩

/-- The text of an exponent in a layout: its sign, then its digits. -/
def DoubleLayout.exponent (lay : DoubleLayout) (e : Int) : String :=
  let digits := toString e.natAbs
  (if e < 0 then "-" else if lay.plusSign then "+" else "") ++
    String.ofList (List.replicate (lay.expDigits - digits.length) '0') ++ digits

namespace Decimal

/-- Writes `digits · 10^exp10` in a layout, for `digits > 0`. -/
def Scaled.render (lay : DoubleLayout) (d : Scaled) : String :=
  let s := toString d.digits
  let len : Int := s.length
  let kk := len + d.exp10
  if 0 ≤ d.exp10 ∧ kk ≤ lay.highKK then
    s ++ String.ofList (List.replicate d.exp10.toNat '0') ++ (if lay.keepPointZero then ".0" else "")
  else if 0 < kk ∧ kk ≤ lay.highKK then
    String.ofList (s.toList.take kk.toNat) ++ "." ++ String.ofList (s.toList.drop kk.toNat)
  else if lay.lowKK < kk ∧ kk ≤ 0 then
    "0." ++ String.ofList (List.replicate (-kk).toNat '0') ++ s
  else
    let e := lay.exponent (kk - 1)
    match s.toList with
    | [c] => String.singleton c ++ lay.expMark ++ e
    | c :: rest => String.singleton c ++ "." ++ String.ofList rest ++ lay.expMark ++ e
    | [] => lay.expMark ++ e

end Decimal

/-- The text of a finite double: sign, then the shortest decimal in the given layout. -/
def Float.render (lay : DoubleLayout) (f : Float) : String :=
  let b := Decimal.Binary.ofFloat f
  let sign := if b.neg then "-" else ""
  if b.mant = 0 then sign ++ (if lay.keepPointZero then "0.0" else "0")
  else sign ++ Decimal.Scaled.render lay b.shortest

/-- The text of a number as JSON writes it. -/
def Number.render : Number → String
  | .int i => toString i
  | .float f => Float.render Number.doubleLayout f

namespace Json

/-- Lower-case hex digit. -/
def hexDigit (n : Nat) : Char :=
  if n < 10 then Char.ofNat (48 + n) else Char.ofNat (87 + n)

/-- The escape of one character inside a quoted string. -/
def escapeChar (c : Char) : String :=
  if c = '"' then "\\\""
  else if c = '\\' then "\\\\"
  else if c.toNat = 8 then "\\b"
  else if c.toNat = 9 then "\\t"
  else if c.toNat = 10 then "\\n"
  else if c.toNat = 12 then "\\f"
  else if c.toNat = 13 then "\\r"
  else if c.toNat < 32 then
    "\\u00" ++ String.singleton (hexDigit (c.toNat / 16)) ++ String.singleton (hexDigit (c.toNat % 16))
  else String.singleton c

/-- A string literal with its quotes. -/
def quote (s : String) : String :=
  "\"" ++ String.join (s.toList.map escapeChar) ++ "\""

mutual
/-- The compact text of a value. -/
def compact : Json → String
  | .null => "null"
  | .bool true => "true"
  | .bool false => "false"
  | .num n => n.render
  | .str s => quote s
  | .arr xs => "[" ++ compactItems xs ++ "]"
  | .obj fs => "\x7b" ++ compactFields fs ++ "\x7d"

/-- Compact items separated by commas. -/
def compactItems : List Json → String
  | [] => ""
  | [x] => compact x
  | x :: rest => compact x ++ "," ++ compactItems rest

/-- Compact members separated by commas. -/
def compactFields : List (String × Json) → String
  | [] => ""
  | [(k, v)] => quote k ++ ":" ++ compact v
  | (k, v) :: rest => quote k ++ ":" ++ compact v ++ "," ++ compactFields rest
end

/-- Two blanks per level of nesting. -/
def indent (level : Nat) : String := String.ofList (List.replicate (2 * level) ' ')

mutual
/-- The pretty text of a value nested `level` deep. -/
def pretty (level : Nat) : Json → String
  | .arr [] => "[]"
  | .obj [] => "\x7b\x7d"
  | .arr xs => "[\n" ++ prettyItems (level + 1) xs ++ "\n" ++ indent level ++ "]"
  | .obj fs => "\x7b\n" ++ prettyFields (level + 1) fs ++ "\n" ++ indent level ++ "\x7d"
  | j => compact j

/-- Pretty items, one per line. -/
def prettyItems (level : Nat) : List Json → String
  | [] => ""
  | [x] => indent level ++ pretty level x
  | x :: rest => indent level ++ pretty level x ++ ",\n" ++ prettyItems level rest

/-- Pretty members, one per line. -/
def prettyFields (level : Nat) : List (String × Json) → String
  | [] => ""
  | [(k, v)] => indent level ++ quote k ++ ": " ++ pretty level v
  | (k, v) :: rest =>
    indent level ++ quote k ++ ": " ++ pretty level v ++ ",\n" ++ prettyFields level rest
end

end Json

end TxnCoord
