/-!
# Unsigned decimal numerals

Reading an unsigned number of a fixed width from text, byte by byte. One leading plus
sign is allowed, but not alone. At each byte the digit is checked before the width, so
of two faults the earlier byte decides.
-/

namespace TxnCoord.Text

/-- Why a numeral does not read as a number. -/
inductive NumeralError where
  | empty
  | invalidDigit
  | tooLarge
  deriving DecidableEq

/-- The wording of a numeral fault. -/
def NumeralError.message : NumeralError → String
  | .empty => "cannot parse integer from empty string"
  | .invalidDigit => "invalid digit found in string"
  | .tooLarge => "number too large to fit in target type"

/-- Reads the digit bytes onto a number below `bound`. -/
def numeralDigits (bound : Nat) (acc : Nat) : List UInt8 → Except NumeralError Nat
  | [] => .ok acc
  | b :: rest =>
    if 48 ≤ b && b ≤ 57 then
      let v := acc * 10 + (b - 48).toNat
      if v < bound then numeralDigits bound v rest else .error .tooLarge
    else .error .invalidDigit

/-- Reads an unsigned numeral of `bits` bits. -/
def parseUnsigned (bits : Nat) (s : String) : Except NumeralError Nat :=
  match s.toList.flatMap String.utf8EncodeChar with
  | [] => .error .empty
  | [43] => .error .invalidDigit
  | 43 :: rest => numeralDigits (Nat.pow 2 bits) 0 rest
  | bytes => numeralDigits (Nat.pow 2 bits) 0 bytes

end TxnCoord.Text
