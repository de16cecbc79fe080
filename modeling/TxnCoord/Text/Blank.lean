/-!
# Blank characters

The characters with the Unicode `White_Space` property: the ASCII tab, line feed, vertical
tab, form feed, carriage return and space, and eighteen more above ASCII. Readers of dates
skip runs of them.

Main statement: every blank of core's ASCII class is in the table
(`isWhiteSpace_of_isWhitespace`).
-/

namespace TxnCoord.Text

/-- The code point ranges of `White_Space`, inclusive and increasing. -/
def whiteSpaceRanges : List (Nat × Nat) :=
  [(0x09, 0x0D), (0x20, 0x20), (0x85, 0x85), (0xA0, 0xA0), (0x1680, 0x1680), (0x2000, 0x200A),
   (0x2028, 0x2029), (0x202F, 0x202F), (0x205F, 0x205F), (0x3000, 0x3000)]

/-- Whether a character has the Unicode `White_Space` property. -/
def isWhiteSpace (c : Char) : Bool :=
  whiteSpaceRanges.any fun (lo, hi) => lo ≤ c.toNat && c.toNat ≤ hi

/-- Drops the blanks at the front of a text. -/
def dropBlank (cs : List Char) : List Char := cs.dropWhile isWhiteSpace

theorem isWhiteSpace_of_isWhitespace (c : Char) (h : c.isWhitespace = true) :
    isWhiteSpace c = true := by
  simp only [Char.isWhitespace, Bool.or_eq_true, decide_eq_true_eq] at h
  rcases h with ((h | h) | h) | h <;>
  · subst h
    decide

theorem length_dropBlank_le (cs : List Char) : (dropBlank cs).length ≤ cs.length :=
  (List.dropWhile_suffix isWhiteSpace).length_le

end TxnCoord.Text
