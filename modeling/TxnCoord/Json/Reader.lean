import TxnCoord.Json.Value
import TxnCoord.Decimal.Shortest
/-!
# Reading JSON text

A byte machine over the UTF-8 encoding of the text. It reads one value, or skips one
without keeping it. A fault is reported at a byte place; the text of a fault gives that
place as a line and a column.

* Blanks are space, tab, line feed and carriage return.
* A number with no point and no exponent is whole while it fits 64 bits: unsigned if
  positive, signed if negative. Beyond that it becomes a double, and so does `-0`. A double
  is the whole number of its digits multiplied or divided by a power of ten, one step at a
  time. A product that overflows is a fault; a quotient that underflows is zero.
* Strings take the escapes `\" \\ \/ \b \f \n \r \t` and `\uXXXX`. A leading surrogate must
  be followed at once by a trailing one. A raw control character is a fault.
* An object keeps one member per key, the last written; members are kept in key order.
* Arrays and objects nest at most 127 deep.

Each fault is placed at the byte where the machine stood when it found the fault, or at
the byte after it when the fault is about a byte it only looked at (`failAhead`). The line
counts the line feeds before the place, from one; the column counts the bytes from the
start of the line, from zero.
-/

namespace TxnCoord.Json

/-- Why reading stopped. -/
inductive ReadFault where
  | eofInList
  | eofInObject
  | eofInString
  | eofInValue
  | expectedColon
  | expectedListCommaOrEnd
  | expectedObjectCommaOrEnd
  | expectedIdent
  | expectedValue
  | invalidEscape
  | invalidNumber
  | numberOutOfRange
  | controlInString
  | keyMustBeString
  | loneLeadingSurrogate
  | trailingComma
  | trailingCharacters
  | unexpectedEndOfHexEscape
  | recursionLimit
  /-- A fault found by a decoder, such as a value of the wrong type. -/
  | custom (text : String)

/-- The wording of a fault. -/
def ReadFault.text : ReadFault → String
  | .eofInList => "EOF while parsing a list"
  | .eofInObject => "EOF while parsing an object"
  | .eofInString => "EOF while parsing a string"
  | .eofInValue => "EOF while parsing a value"
  | .expectedColon => "expected `:`"
  | .expectedListCommaOrEnd => "expected `,` or `]`"
  | .expectedObjectCommaOrEnd => "expected `,` or `\x7d`"
  | .expectedIdent => "expected ident"
  | .expectedValue => "expected value"
  | .invalidEscape => "invalid escape"
  | .invalidNumber => "invalid number"
  | .numberOutOfRange => "number out of range"
  | .controlInString => "control character (\\u0000-\\u001F) found while parsing a string"
  | .keyMustBeString => "key must be a string"
  | .loneLeadingSurrogate => "lone leading surrogate in hex escape"
  | .trailingComma => "trailing comma"
  | .trailingCharacters => "trailing characters"
  | .unexpectedEndOfHexEscape => "unexpected end of hex escape"
  | .recursionLimit => "recursion limit exceeded"
  | .custom t => t

/-- A fault and its place, given as the number of bytes after it; no place yet for a
decoder's fault that has not been placed. -/
structure ReadError where
  fault : ReadFault
  rest : Option Nat

/-- A decoder's fault, to be placed where the reader stands when it is reported. -/
def ReadError.custom (text : String) : ReadError := ⟨.custom text, none⟩

/-- The text of a fault, with its line and column when it has a place in `src`. -/
def ReadError.render (src : List UInt8) (e : ReadError) : String :=
  match e.rest with
  | none => e.fault.text
  | some r =>
    let before := src.take (src.length - r)
    let line := 1 + before.count 10
    let column := (before.reverse.takeWhile (· != 10)).length
    e.fault.text ++ " at line " ++ toString line ++ " column " ++ toString column

/-- The UTF-8 bytes of a text. -/
def utf8 (s : String) : List UInt8 := s.toList.flatMap String.utf8EncodeChar

/-- A machine over the bytes still to read; a fault leaves the bytes where it stopped. -/
abbrev Reader := ExceptT ReadError (StateM (List UInt8))

namespace Reader

/-- The next byte, not consumed. -/
def peek : Reader (Option UInt8) := do return (← get).head?

/-- Consumes one byte. -/
def bump : Reader Unit := modify List.tail

/-- Consumes and returns the next byte. -/
def next : Reader (Option UInt8) := do
  match ← get with
  | [] => pure none
  | b :: rest => set rest; pure (some b)

/-- A fault at the current byte. -/
def fail {α : Type} (f : ReadFault) : Reader α := do throw ⟨f, some (← get).length⟩

/-- A fault at the byte after the current one, or at the end. -/
def failAhead {α : Type} (f : ReadFault) : Reader α := do throw ⟨f, some ((← get).length - 1)⟩

/-- Runs a step and returns its outcome, keeping the bytes it consumed either way. -/
def attempt {α : Type} (x : Reader α) : Reader (Except ReadError α) := ExceptT.lift x.run

/-- Places a fault that has no place yet at the current byte. -/
def place (e : ReadError) : Reader ReadError := do
  match e.rest with
  | some _ => pure e
  | none => pure { e with rest := some (← get).length }

/-- Runs a step; a fault without a place gets the place where the step stopped. -/
def placing {α : Type} (x : Reader α) : Reader α := do
  match ← attempt x with
  | .ok v => pure v
  | .error e => throw (← place e)

/-- Whether a byte is a blank. -/
def isBlank (b : UInt8) : Bool := b == 32 || b == 10 || b == 9 || b == 13

/-- Whether a byte is an ASCII digit. -/
def isDigit (b : UInt8) : Bool := 48 ≤ b && b ≤ 57

/-- Skips blanks and returns the next byte. -/
def skipBlank : Reader (Option UInt8) := do
  modify (List.dropWhile isBlank)
  peek

/-- Consumes the rest of a literal word after its first letter. -/
def expectWord : List UInt8 → Reader Unit
  | [] => pure ()
  | b :: bs => do
    match ← next with
    | none => fail .eofInValue
    | some c => if c == b then expectWord bs else fail .expectedIdent

/-! ## Numbers -/

/-- A number as the reader first sees it. -/
inductive Scanned where
  | unsigned (n : Nat)
  | signed (i : Int)
  | double (f : Float)

/-- The JSON number of a scanned one. -/
def Scanned.toNumber : Scanned → Number
  | .unsigned n => .int n
  | .signed i => .int i
  | .double f => .float f

/-- The largest 64-bit unsigned number. -/
def u64Max : Nat := Nat.pow 2 64 - 1

/-- The double nearest to a power of ten. -/
def pow10 (k : Nat) : Float := Decimal.ofNat (Nat.pow 10 k)

/-- Clamps an exponent to the 32-bit signed range. -/
def clampExponent (e : Int) : Int := max (-(Int.pow 2 31)) (min e (Int.pow 2 31 - 1))

/-- `sig · 10^exponent` as a double, one power-of-ten step at a time. -/
def fromParts (positive : Bool) (sig : Nat) (exponent : Int) : Reader Float := do
  let r ← scale (Decimal.ofNat sig) exponent 8
  pure (if positive then r else -r)
where
  scale (f : Float) (exponent : Int) : Nat → Reader Float
    | 0 => pure f
    | fuel + 1 =>
      if exponent.natAbs ≤ 308 then
        if exponent ≥ 0 then
          let g := f * pow10 exponent.natAbs
          if g.isInf then fail .numberOutOfRange else pure g
        else pure (f / pow10 exponent.natAbs)
      else if f == 0.0 then pure f
      else if exponent ≥ 0 then fail .numberOutOfRange
      else scale (f / pow10 308) (exponent + 308) fuel

/-- Skips digits. -/
def skipDigits : Reader Unit := modify (List.dropWhile isDigit)

/-- An exponent too large for 32 bits: a fault if it would make a nonzero value grow,
zero otherwise. -/
def exponentOverflow (positive zeroSig positiveExp : Bool) : Reader Float := do
  if !zeroSig && positiveExp then fail .numberOutOfRange
  else
    skipDigits
    pure (if positive then 0.0 else -0.0)

/-- The digits of an exponent after its first one. -/
def exponentDigits (positive : Bool) (sig : Nat) (start : Int) (positiveExp : Bool) :
    Nat → Nat → Reader Float
  | exp, 0 => fromParts positive sig (clampExponent (if positiveExp then start + exp else start - exp))
  | exp, fuel + 1 => do
    match ← peek with
    | some c =>
      if isDigit c then
        bump
        let e := exp * 10 + (c - 48).toNat
        if e > Int.pow 2 31 - 1 then exponentOverflow positive (sig == 0) positiveExp
        else exponentDigits positive sig start positiveExp e fuel
      else fromParts positive sig (clampExponent (if positiveExp then start + exp else start - exp))
    | none => fromParts positive sig (clampExponent (if positiveExp then start + exp else start - exp))

/-- Reads an exponent, standing on its `e`. -/
def readExponent (positive : Bool) (sig : Nat) (start : Int) : Reader Float := do
  bump
  let positiveExp ← do
    match ← peek with
    | some 43 => bump; pure true
    | some 45 => bump; pure false
    | _ => pure true
  match ← next with
  | none => fail .eofInValue
  | some c =>
    if isDigit c then exponentDigits positive sig start positiveExp (c - 48).toNat ((← get).length + 1)
    else fail .invalidNumber

/-- Continues after digits that no longer fit: they are skipped. -/
def fractionOverflow (positive : Bool) (sig : Nat) (exponent : Int) : Reader Float := do
  skipDigits
  match ← peek with
  | some 101 | some 69 => readExponent positive sig exponent
  | _ => fromParts positive sig exponent

/-- The digits after a decimal point. -/
def fractionDigits (positive : Bool) (before : Int) : Nat → Int → Nat → Reader Float
  | sig, after, 0 => fromParts positive sig (before + after)
  | sig, after, fuel + 1 => do
    let c? ← peek
    match c? with
    | some c =>
      if isDigit c then
        let d := (c - 48).toNat
        if sig * 10 + d > u64Max then fractionOverflow positive sig (before + after)
        else
          bump
          fractionDigits positive before (sig * 10 + d) (after - 1) fuel
      else fractionEnd positive before sig after c?
    | none => fractionEnd positive before sig after c?
where
  fractionEnd (positive : Bool) (before : Int) (sig : Nat) (after : Int) (c? : Option UInt8) :
      Reader Float :=
    if after = 0 then
      match c? with
      | some _ => failAhead .invalidNumber
      | none => failAhead .eofInValue
    else
      match c? with
      | some 101 | some 69 => readExponent positive sig (before + after)
      | _ => fromParts positive sig (before + after)

/-- Reads a fraction, standing on its point. -/
def readFraction (positive : Bool) (sig : Nat) (before : Int) : Reader Float := do
  bump
  fractionDigits positive before sig 0 ((← get).length + 1)

/-- Continues a whole number too large for 64 bits: its further digits only scale it. -/
def longDigits (positive : Bool) (sig : Nat) : Nat → Nat → Reader Float
  | exp, 0 => fromParts positive sig exp
  | exp, fuel + 1 => do
    match ← peek with
    | some 46 => readFraction positive sig exp
    | some 101 | some 69 => readExponent positive sig exp
    | some c =>
      if isDigit c then
        bump
        longDigits positive sig (exp + 1) fuel
      else fromParts positive sig exp
    | none => fromParts positive sig exp

/-- What follows the whole digits: a fraction, an exponent, or the end of the number. -/
def numberTail (positive : Bool) (sig : Nat) : Reader Scanned := do
  match ← peek with
  | some 46 => .double <$> readFraction positive sig 0
  | some 101 | some 69 => .double <$> readExponent positive sig 0
  | _ =>
    if positive then pure (.unsigned sig)
    else if sig = 0 ∨ sig > Nat.pow 2 63 then pure (.double (-(Decimal.ofNat sig)))
    else pure (.signed (-(sig : Int)))

/-- Whole digits after the first. -/
def wholeDigits (positive : Bool) : Nat → Nat → Reader Scanned
  | sig, 0 => numberTail positive sig
  | sig, fuel + 1 => do
    match ← peek with
    | some c =>
      if isDigit c then
        let d := (c - 48).toNat
        if sig * 10 + d > u64Max then .double <$> longDigits positive sig 0 ((← get).length + 1)
        else
          bump
          wholeDigits positive (sig * 10 + d) fuel
      else numberTail positive sig
    | none => numberTail positive sig

/-- Reads a number after its sign. -/
def readNumber (positive : Bool) : Reader Scanned := do
  match ← next with
  | none => fail .eofInValue
  | some c =>
    if c == 48 then
      match ← peek with
      | some d => if isDigit d then failAhead .invalidNumber else numberTail positive 0
      | none => numberTail positive 0
    else if 49 ≤ c && c ≤ 57 then wholeDigits positive (c - 48).toNat ((← get).length + 1)
    else fail .invalidNumber

/-! ## Strings -/

/-- The value of a hex digit. -/
def hexValue (b : UInt8) : Option Nat :=
  if 48 ≤ b && b ≤ 57 then some (b - 48).toNat
  else if 65 ≤ b && b ≤ 70 then some (b - 55).toNat
  else if 97 ≤ b && b ≤ 102 then some (b - 87).toNat
  else none

/-- Four hex digits of a `\u` escape. -/
def readHex4 : Reader Nat := do
  match ← get with
  | a :: b :: c :: d :: rest =>
    set rest
    match hexValue a, hexValue b, hexValue c, hexValue d with
    | some w, some x, some y, some z => pure (((w * 16 + x) * 16 + y) * 16 + z)
    | _, _, _, _ => fail .invalidEscape
  | _ =>
    set ([] : List UInt8)
    fail .eofInString

/-- The UTF-8 bytes of a code point. -/
def codeBytes (n : Nat) : List UInt8 := String.utf8EncodeChar (Char.ofNat n)

/-- The rest of a `\u` escape: one code point, or a surrogate pair. -/
def readUnicodeEscape : Reader (List UInt8) := do
  let n ← readHex4
  if 0xDC00 ≤ n && n ≤ 0xDFFF then fail .loneLeadingSurrogate
  else if n < 0xD800 || n > 0xDBFF then pure (codeBytes n)
  else
    match ← peek with
    | none => fail .eofInString
    | some 92 =>
      bump
      match ← peek with
      | none => fail .eofInString
      | some 117 =>
        bump
        let n2 ← readHex4
        if n2 < 0xDC00 || n2 > 0xDFFF then fail .loneLeadingSurrogate
        else pure (codeBytes ((n - 0xD800) * 1024 + (n2 - 0xDC00) + 0x10000))
      | some _ =>
        bump
        fail .unexpectedEndOfHexEscape
    | some _ =>
      bump
      fail .unexpectedEndOfHexEscape

/-- The bytes an escape stands for, after its backslash. -/
def readEscape : Reader (List UInt8) := do
  match ← next with
  | none => fail .eofInString
  | some c =>
    if c == 34 || c == 92 || c == 47 then pure [c]
    else if c == 98 then pure [8]
    else if c == 102 then pure [12]
    else if c == 110 then pure [10]
    else if c == 114 then pure [13]
    else if c == 116 then pure [9]
    else if c == 117 then readUnicodeEscape
    else fail .invalidEscape

/-- Whether a byte stands for itself inside a string. -/
def isPlain (b : UInt8) : Bool := b != 34 && b != 92 && b ≥ 32

/-- The text of UTF-8 bytes. -/
def decodeText (bytes : List UInt8) : String := (String.fromUTF8? ⟨bytes.toArray⟩).getD ""

/-- The body of a string after its opening quote, up to and with its closing quote. -/
def strBody (acc : List UInt8) : Nat → Reader String
  | 0 => fail .eofInString
  | fuel + 1 => do
    let (plain, rest) := (← get).span isPlain
    set rest
    let acc := acc ++ plain
    match ← peek with
    | none => fail .eofInString
    | some 34 =>
      bump
      pure (decodeText acc)
    | some 92 =>
      bump
      let bytes ← readEscape
      strBody (acc ++ bytes) fuel
    | some _ =>
      bump
      fail .controlInString

/-- Reads a string, after its opening quote. -/
def readStr : Reader String := do strBody [] ((← get).length + 1)

/-- Skips an escape after its backslash; a `\u` escape is not checked for surrogates. -/
def skipEscape : Reader Unit := do
  match ← next with
  | none => fail .eofInString
  | some c =>
    if c == 34 || c == 92 || c == 47 || c == 98 || c == 102 || c == 110 || c == 114 || c == 116 then
      pure ()
    else if c == 117 then do let _ ← readHex4
    else fail .invalidEscape

/-- Skips the body of a string after its opening quote. -/
def skipStrBody : Nat → Reader Unit
  | 0 => fail .eofInString
  | fuel + 1 => do
    modify (List.dropWhile isPlain)
    match ← peek with
    | none => fail .eofInString
    | some 34 => bump
    | some 92 =>
      bump
      skipEscape
      skipStrBody fuel
    | some _ => fail .controlInString

/-! ## Skipping a value -/

/-- Skips an exponent, standing on its `e`. -/
def skipExponent : Reader Unit := do
  bump
  match ← peek with
  | some 43 | some 45 => bump
  | _ => pure ()
  match ← next with
  | some c => if isDigit c then skipDigits else fail .invalidNumber
  | none => fail .invalidNumber

/-- Skips a number after its sign. -/
def skipNumber : Reader Unit := do
  let c := (← next).getD 0
  if c == 48 then
    match ← peek with
    | some d => if isDigit d then failAhead .invalidNumber else pure ()
    | none => pure ()
  else if 49 ≤ c && c ≤ 57 then skipDigits
  else fail .invalidNumber
  match ← peek with
  | some 46 =>
    bump
    match ← peek with
    | some d =>
      if isDigit d then
        skipDigits
        match ← peek with
        | some 101 | some 69 => skipExponent
        | _ => pure ()
      else failAhead .invalidNumber
    | none => failAhead .invalidNumber
  | some 101 | some 69 => skipExponent
  | _ => pure ()

/-- The fault for reaching the end inside an open array or object. -/
def eofIn (frame : UInt8) : ReadFault := if frame == 91 then .eofInList else .eofInObject

/-- The fault for a byte that is neither a comma nor the close of the open frame. -/
def expectedIn (frame : UInt8) : ReadFault :=
  if frame == 91 then .expectedListCommaOrEnd else .expectedObjectCommaOrEnd

/-- Closes frames after a value or an opening bracket: reads a comma, or closes the frame
and goes on with the one around it. Returns the frame that takes the next value, or none
when the outermost frame closed. -/
def closeFrames (stack : List UInt8) (frame : UInt8) (acceptComma : Bool) :
    Nat → Reader (Option (UInt8 × List UInt8))
  | 0 => pure none
  | fuel + 1 => do
    match ← skipBlank with
    | some 44 =>
      if acceptComma then
        bump
        pure (some (frame, stack))
      else pure (some (frame, stack))
    | some c =>
      if (c == 93 && frame == 91) || (c == 125 && frame == 123) then
        bump
        match stack with
        | [] => pure none
        | f :: rest => closeFrames rest f true fuel
      else if acceptComma then failAhead (expectedIn frame)
      else pure (some (frame, stack))
    | none => failAhead (eofIn frame)

/-- Skips a value that starts with `c`, if it is a scalar; an opening bracket is consumed
and returned. -/
def skipScalarOrOpen (c : UInt8) : Reader (Option UInt8) := do
  if c == 110 then
    bump
    expectWord (utf8 "ull")
    pure none
  else if c == 116 then
    bump
    expectWord (utf8 "rue")
    pure none
  else if c == 102 then
    bump
    expectWord (utf8 "alse")
    pure none
  else if c == 45 then
    bump
    skipNumber
    pure none
  else if isDigit c then
    skipNumber
    pure none
  else if c == 34 then
    bump
    skipStrBody ((← get).length + 1)
    pure none
  else if c == 91 || c == 123 then
    bump
    pure (some c)
  else failAhead .expectedValue

/-- Skips one value without building it, keeping open brackets on a stack. -/
def skipValue : Reader Unit := do go [] ((← get).length + 1)
where
  go (stack : List UInt8) : Nat → Reader Unit
    | 0 => pure ()
    | fuel + 1 => do
      let c ← do
        match ← skipBlank with
        | none => failAhead .eofInValue
        | some c => pure c
      let opened : Option UInt8 ← skipScalarOrOpen c
      let top : Option (UInt8 × List UInt8 × Bool) :=
        match opened with
        | some f => some (f, stack, false)
        | none =>
          match stack with
          | [] => none
          | f :: rest => some (f, rest, true)
      match top with
      | none => pure ()
      | some (frame, below, acceptComma) =>
        match ← closeFrames below frame acceptComma ((← get).length + 1) with
        | none => pure ()
        | some (frame, below) =>
          if frame == 123 then
            match ← skipBlank with
            | some 34 => bump
            | some _ => failAhead .keyMustBeString
            | none => failAhead .eofInObject
            skipStrBody ((← get).length + 1)
            match ← skipBlank with
            | some 58 => bump
            | some _ => failAhead .expectedColon
            | none => failAhead .eofInObject
          go (frame :: below) fuel

/-! ## Reading a value -/

/-- Whether another item follows in an array; `first` before the first item. -/
def hasNextItem (first : Bool) : Reader Bool := do
  match ← skipBlank with
  | none => failAhead .eofInList
  | some 93 => pure false
  | some c =>
    if first then pure true
    else if c == 44 then
      bump
      match ← skipBlank with
      | some 93 => failAhead .trailingComma
      | some _ => pure true
      | none => failAhead .eofInValue
    else failAhead .expectedListCommaOrEnd

/-- The next key of an object, or none at its end; `first` before the first member. -/
def nextKey (first : Bool) : Reader (Option String) := do
  match ← skipBlank with
  | none => failAhead .eofInObject
  | some 125 => pure none
  | some b =>
    let c? ← do
      if b == 44 && !first then
        bump
        skipBlank
      else if first then pure (some b)
      else failAhead .expectedObjectCommaOrEnd
    match c? with
    | some 34 =>
      bump
      some <$> readStr
    | some 125 => failAhead .trailingComma
    | some _ => failAhead .keyMustBeString
    | none => failAhead .eofInValue

/-- The colon between a key and its value. -/
def expectColon : Reader Unit := do
  match ← skipBlank with
  | some 58 => bump
  | some _ => failAhead .expectedColon
  | none => failAhead .eofInObject

/-- The close of an array after its items. -/
def endArray : Reader Unit := do
  match ← skipBlank with
  | some 93 => bump
  | some 44 =>
    bump
    match ← skipBlank with
    | some 93 => failAhead .trailingComma
    | _ => failAhead .trailingCharacters
  | some _ => failAhead .trailingCharacters
  | none => failAhead .eofInList

/-- The close of an object after its members. -/
def endObject : Reader Unit := do
  match ← skipBlank with
  | some 125 => bump
  | some 44 => failAhead .trailingComma
  | some _ => failAhead .trailingCharacters
  | none => failAhead .eofInObject

/-- Runs the body of an array or object and then its close. A fault of the body wins
over a fault of the close, but the close has moved the reader in either case. -/
def thenClose {α : Type} (body : Reader α) (close : Reader Unit) : Reader α := do
  let r ← attempt body
  let c ← attempt close
  match r, c with
  | .ok v, .ok () => pure v
  | .error e, _ => throw e
  | .ok _, .error e => throw e

/-- One byte of a literal word. -/
def byteOf (c : Char) : UInt8 := c.toNat.toUInt8

mutual
/-- Reads a value; `depth` is how many more arrays or objects may open. -/
def readValue (depth : Nat) : Nat → Reader Json
  | 0 => fail .recursionLimit
  | fuel + 1 => placing do
    match ← skipBlank with
    | none => failAhead .eofInValue
    | some c =>
      if c == byteOf 'n' then
        bump
        expectWord (utf8 "ull")
        pure .null
      else if c == byteOf 't' then
        bump
        expectWord (utf8 "rue")
        pure (.bool true)
      else if c == byteOf 'f' then
        bump
        expectWord (utf8 "alse")
        pure (.bool false)
      else if c == 45 then
        bump
        return .num (← readNumber false).toNumber
      else if isDigit c then return .num (← readNumber true).toNumber
      else if c == 34 then
        bump
        return .str (← readStr)
      else if c == 91 then
        if depth ≤ 1 then failAhead .recursionLimit
        else
          bump
          let items ← thenClose (readItems (depth - 1) true [] fuel) endArray
          pure (.arr items)
      else if c == 123 then
        if depth ≤ 1 then failAhead .recursionLimit
        else
          bump
          let fields ← thenClose (readMembers (depth - 1) true [] fuel) endObject
          pure (.obj fields)
      else failAhead .expectedValue

/-- Reads the items of an array up to, not with, its close. -/
def readItems (depth : Nat) (first : Bool) (acc : List Json) : Nat → Reader (List Json)
  | 0 => fail .recursionLimit
  | fuel + 1 => do
    if ← hasNextItem first then
      let v ← readValue depth fuel
      readItems depth false (acc ++ [v]) fuel
    else pure acc

/-- Reads the members of an object up to, not with, its close. -/
def readMembers (depth : Nat) (first : Bool) (acc : Fields) : Nat → Reader Fields
  | 0 => fail .recursionLimit
  | fuel + 1 => do
    match ← nextKey first with
    | none => pure acc
    | some k =>
      expectColon
      let v ← readValue depth fuel
      readMembers depth false (Fields.insert k v acc) fuel
end

/-- The end of the text: nothing but blanks may follow the value. -/
def expectEnd : Reader Unit := do
  match ← skipBlank with
  | some _ => failAhead .trailingCharacters
  | none => pure ()

/-- Enough fuel for every loop over a text of `n` bytes. -/
def fuelFor (n : Nat) : Nat := 2 * n + 8

/-- Runs a reader over a whole text, requiring only blanks after what it reads. -/
def runText {α : Type} (r : Reader α) (text : String) : Except String α :=
  let src := utf8 text
  match ((do let v ← r; expectEnd; pure v : Reader α).run).run src with
  | (.ok v, _) => .ok v
  | (.error e, _) => .error (e.render src)

end Reader

/-- Reads a JSON text into a value; the error is the fault's text with its place. -/
def parse (text : String) : Except String Json :=
  Reader.runText (do Reader.readValue 128 (Reader.fuelFor (utf8 text).length)) text

end TxnCoord.Json
