import TxnCoord.Text.Printable
/-!
# Debugging view of text

Text in double quotes as a debugging view shows it. Null, tab, carriage return, line feed,
the backslash and the double quote get backslash escapes. A character that extends the
grapheme before it, or that is not printable, becomes `\u` with its code in lower-case
hex between braces. Every other character stands as it is, the single quote included.
-/

namespace TxnCoord.Text

/-- Lower-case hex digits of a number, without leading zeros. -/
def hexText (n : Nat) : String := String.ofList (Nat.toDigits 16 n)

/-- The debugging view of one character inside double quotes. -/
def debugChar (c : Char) : String :=
  if c.toNat = 0 then "\\0"
  else if c = '\t' then "\\t"
  else if c = '\r' then "\\r"
  else if c = '\n' then "\\n"
  else if c = '\\' then "\\\\"
  else if c = '"' then "\\\""
  else if isGraphemeExtend c || !isPrintable c then "\\u\x7b" ++ hexText c.toNat ++ "\x7d"
  else String.singleton c

/-- The debugging view of a text, quotes included. -/
def debugQuote (s : String) : String :=
  "\"" ++ String.join (s.toList.map debugChar) ++ "\""

end TxnCoord.Text
