/-!
# UUIDs

A 128-bit identifier, written as 32 lower-case hex digits in groups of 8, 4, 4, 4 and 12
joined by hyphens.

Reading takes four forms, told apart by length: 32 hex digits with no hyphens; the
hyphenated form of 36 characters; the hyphenated form between braces (38); and the
hyphenated form after `urn:uuid:` (45), whose prefix may be in any case. Upper-case hex
digits are read too. For text in none of these forms the error names the first fault
found, in this order:

* a text longer than the longest form, by its length;
* a character that is neither a hex digit nor a hyphen, with its byte place in the part
  looked at (`diagnosedBody`);
* a text taken as the simple form that has no hyphen at all, by its length;
* a number of groups other than five;
* the first group whose length is wrong.

Identifiers inside a longer text can be replaced by labels (`relabel`): the known ones in
their lower-case form by their labels, then any other in the hyphenated form by `<uuid>`.
-/

namespace TxnCoord

/-- A 128-bit identifier. -/
structure Uuid where
  value : Nat
  deriving DecidableEq, Inhabited

namespace Uuid

/-- The identifier with the given value, reduced to 128 bits. -/
def ofNat (n : Nat) : Uuid := ⟨n % Nat.pow 2 128⟩

/-- Lower-case hex digit. -/
def hexDigit (n : Nat) : Char :=
  if n < 10 then Char.ofNat (48 + n) else Char.ofNat (87 + n)

/-- The `k` hex digits of a number, most significant first. -/
def hexDigits (n : Nat) : Nat → List Char
  | 0 => []
  | k + 1 => hexDigits (n / 16) k ++ [hexDigit (n % 16)]

/-- The hyphenated lower-case form. -/
def render (u : Uuid) : String :=
  let d := hexDigits u.value 32
  String.ofList (d.take 8 ++ ['-'] ++ (d.drop 8).take 4 ++ ['-'] ++ (d.drop 12).take 4 ++ ['-']
    ++ (d.drop 16).take 4 ++ ['-'] ++ d.drop 20)

/-- Why a text is not an identifier. -/
inductive ParseError where
  /-- A character that is neither a hex digit nor a hyphen, at a byte place. -/
  | badChar (c : Char) (index : Nat)
  /-- A text of a length no form has: longer than 45 bytes, or without hyphens and not 32
  bytes long. -/
  | badLength (len : Nat)
  /-- A hyphenated text with the wrong number of groups. -/
  | groupCount (count : Nat)
  /-- A group of the wrong length. -/
  | groupLength (group expected len : Nat)

/-- The wording of a read error. -/
def ParseError.message : ParseError → String
  | .badChar c i => "invalid character: found `" ++ String.singleton c ++ "` at " ++ toString i
  | .badLength n => "invalid length: found " ++ toString n
  | .groupCount n => "invalid group count: expected 5, found " ++ toString n
  | .groupLength g e n =>
    "invalid group length in group " ++ toString g ++ ": expected " ++ toString e ++ ", found " ++
      toString n

/-- The value of a hex digit. -/
def hexValue (c : Char) : Option Nat :=
  if '0' ≤ c ∧ c ≤ '9' then some (c.toNat - 48)
  else if 'a' ≤ c ∧ c ≤ 'f' then some (c.toNat - 87)
  else if 'A' ≤ c ∧ c ≤ 'F' then some (c.toNat - 55)
  else none

/-- The number of a run of hex digits, or none if one is not a digit. -/
def hexNumber (cs : List Char) : Option Nat :=
  cs.foldl (fun acc c => do let a ← acc; let d ← hexValue c; pure (a * 16 + d)) (some 0)

/-- Reads 32 hex digits with no hyphens. -/
def ofSimple (cs : List Char) : Option Uuid :=
  if cs.length = 32 then (hexNumber cs).map Uuid.mk else none

/-- Reads the 36-character hyphenated form. -/
def ofHyphenated (cs : List Char) : Option Uuid :=
  if cs.length = 36 ∧ cs[8]? = some '-' ∧ cs[13]? = some '-' ∧ cs[18]? = some '-' ∧
      cs[23]? = some '-' then
    (hexNumber (cs.filter (· != '-'))).bind fun n =>
      if (cs.filter (· != '-')).length = 32 then some ⟨n⟩ else none
  else none

/-- Whether a text starts with `urn:uuid:`, in any case. -/
def hasUrnPrefix (cs : List Char) : Bool :=
  (cs.take 9).map Char.toLower == "urn:uuid:".toList

/-- The length of the longest form, the one after `urn:uuid:`. -/
def longestForm : Nat := 45

/-- Reads a text in one of the four forms, by its length in bytes. -/
def shaped (s : String) : Option Uuid :=
  let cs := s.toList
  let n := s.utf8ByteSize
  if n = 32 then ofSimple cs
  else if n = 36 then ofHyphenated cs
  else if n = 38 ∧ cs.head? = some '{' ∧ cs.getLast? = some '}' then
    ofHyphenated ((cs.drop 1).dropLast)
  else if n = longestForm ∧ hasUrnPrefix cs then ofHyphenated (cs.drop 9)
  else none

/-- The places of the characters of a text, as byte offsets. -/
def byteIndexed (cs : List Char) : List (Nat × Char) :=
  (cs.foldl (fun (acc : List (Nat × Char) × Nat) c => (acc.1 ++ [(acc.2, c)], acc.2 + c.utf8Size))
    ([], 0)).1

/-- The five expected group lengths. -/
def groupLengths : List Nat := [8, 4, 4, 4, 12]

/-- Where each group starts in the hyphenated form. -/
def groupStarts : List Nat := [0, 9, 14, 19, 24]

/-- The part of a text a diagnosis looks at, and whether it is taken as the simple form. A
text of 32 bytes is the simple form and one of 36 bytes the hyphenated form, as they
stand; any other text loses its braces or its `urn:uuid:` prefix, and without either is
taken as the simple form. -/
def diagnosedBody (s : String) : List Char × Bool :=
  let cs := s.toList
  let n := s.utf8ByteSize
  if n = 32 then (cs, true)
  else if n = 36 then (cs, false)
  else if cs.length ≥ 2 ∧ cs.head? = some '{' ∧ cs.getLast? = some '}' then ((cs.drop 1).dropLast, false)
  else if hasUrnPrefix cs then (cs.drop 9, false)
  else (cs, true)

/-- The first fault of a text that is in none of the four forms. Places are byte offsets
in the part looked at, and the last group's length is counted from the whole text. -/
def diagnose (s : String) : ParseError :=
  let (body, simple) := diagnosedBody s
  let indexed := byteIndexed body
  let hyphens := (indexed.filter (fun p => p.2 == '-')).map Prod.fst
  if longestForm < s.utf8ByteSize then .badLength s.utf8ByteSize
  else match indexed.find? (fun p => p.2 != '-' && (hexValue p.2).isNone) with
  | some (i, c) => .badChar c i
  | none =>
    if hyphens.isEmpty ∧ simple then .badLength s.utf8ByteSize
    else if hyphens.length ≠ 4 then .groupCount (hyphens.length + 1)
    else
      let bad := (List.range 4).find? fun i => hyphens[i]?.getD 0 ≠ groupStarts[i + 1]?.getD 0 - 1
      match bad with
      | some i => .groupLength i (groupLengths[i]?.getD 0) (hyphens[i]?.getD 0 - groupStarts[i]?.getD 0)
      | none => .groupLength 4 12 (s.utf8ByteSize - 24)

/-- Reads an identifier in any of the four forms. -/
def parse (s : String) : Except ParseError Uuid :=
  match shaped s with
  | some u => .ok u
  | none => .error (diagnose s)

/-- The places of the hyphens in the hyphenated form. -/
def hyphenPlaces : List Nat := [8, 13, 18, 23]

/-- Whether a text starts with an identifier in the hyphenated form, hex digits in either
case. -/
def startsHyphenated (cs : List Char) : Bool :=
  (cs.take 36).length == 36 && ((cs.take 36).zipIdx.all fun (c, i) =>
    if hyphenPlaces.contains i then c == '-' else (hexValue c).isSome)

/-- The text that stands for an identifier without a label. -/
def unlabelled : String := "<uuid>"

/-- Replaces every identifier in the hyphenated form, leftmost first, by `unlabelled`. -/
def maskChars : List Char → List Char
  | [] => []
  | c :: rest =>
    if startsHyphenated (c :: rest) then unlabelled.toList ++ maskChars ((c :: rest).drop 36)
    else c :: maskChars rest
termination_by cs => cs.length
decreasing_by
  all_goals simp only [List.length_drop, List.length_cons]
  all_goals omega

/-- A text with its identifiers replaced: first every known identifier, in its lower-case
hyphenated form, by its label, then every other identifier in the hyphenated form, in
either case, by `unlabelled`. An identifier written in upper case is thus never known. -/
def relabel (known : List (Uuid × String)) (s : String) : String :=
  String.ofList (maskChars (known.foldl (fun t (u, l) => t.replace u.render l) s).toList)

end Uuid

end TxnCoord
