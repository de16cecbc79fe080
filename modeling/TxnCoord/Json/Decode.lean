import TxnCoord.Json.Reader
import TxnCoord.Json.Print
import TxnCoord.Text.Quoted
import TxnCoord.Uuid
import TxnCoord.Time.Rfc3339
/-!
# Decoding JSON by shape

A `Shape` says what a document must hold: text, a flag, a 64- or 32-bit unsigned number,
a UUID, a nullable value, a list, a dictionary with text keys, or a record with named
fields. Decoding checks a document against a shape and returns the value in normal form:
a record comes out as an object with its fields in their declared order, every field
filled, and a UUID in its hyphenated lower-case form.

A shape decodes from JSON text (`Shape.decodeText`), with faults placed in the text, or
from a value already read (`Shape.decode`), with faults that have no place.

* A record is read from an object, or from an array that lists its fields in order. A
  field left out takes its default; a nullable field without one becomes null; any
  other field left out is a fault. A field given twice is a fault; an unknown field is
  skipped.
* A value of the wrong kind is named in the fault: `null`, ``boolean `true` ``,
  ``integer `5` ``, ``floating point `1.5` `` (the number as JSON writes it, so `1e20` is
  ``floating point `1e+20` ``), a string in its debugging view, `sequence` or `map`,
  followed by what was expected.
* When a record in the text holds a fault without a place, the reader first reads on to
  the record's close; the fault is placed there. A choice written as an object stops at
  its first fault.
-/

namespace TxnCoord.Json

/-- What a record does with a field that the document leaves out. -/
inductive Absent where
  | required
  | fill (v : Json)

/-- What a document must hold. -/
inductive Shape where
  | any
  | text
  | flag
  | nat64
  | nat32
  | uuid
  | opt (s : Shape)
  | list (s : Shape)
  | dict (s : Shape)
  | record (name : String) (fields : List (String × Shape × Absent))
  /-- One of a fixed set of names, written as a string, or as an object whose one key is
  the name and whose value is null. -/
  | choice (name : String) (variants : List String)
  /-- A timestamp in the relaxed form of RFC 3339, written as a string. -/
  | stamp

/-- What a fault says was expected of a shape. -/
def Shape.expecting : Shape → String
  | .any => "any valid JSON value"
  | .text => "a string"
  | .flag => "a boolean"
  | .nat64 => "u64"
  | .nat32 => "u32"
  | .uuid => "a formatted UUID string"
  | .opt _ => "option"
  | .list _ => "a sequence"
  | .dict _ => "a map"
  | .record name _ => "struct " ++ name
  | .choice _ _ => "string or map"
  | .stamp => "an RFC 3339 formatted date and time string"

/-- What a record in array form was expected to hold. -/
def recordLength (name : String) (n : Nat) : String :=
  "struct " ++ name ++ " with " ++ toString n ++ (if n = 1 then " element" else " elements")

/-- A value of the wrong kind, as a fault names it. -/
inductive Unexpected where
  | null
  | bool (b : Bool)
  | int (i : Int)
  | float (f : Float)
  | str (s : String)
  | seq
  | map

/-- How a fault names a value of the wrong kind. -/
def Unexpected.render : Unexpected → String
  | .null => "null"
  | .bool b => "boolean `" ++ toString b ++ "`"
  | .int i => "integer `" ++ toString i ++ "`"
  | .float f => "floating point `" ++ Float.render Number.doubleLayout f ++ "`"
  | .str s => "string " ++ Text.debugQuote s
  | .seq => "sequence"
  | .map => "map"

/-- The kind of a value, as a fault names it. -/
def Unexpected.ofJson : Json → Unexpected
  | .null => .null
  | .bool b => .bool b
  | .num (.int i) => .int i
  | .num (.float f) => .float f
  | .str s => .str s
  | .arr _ => .seq
  | .obj _ => .map

/-- A value of the wrong type. -/
def invalidType (u : Unexpected) (expected : String) : ReadError :=
  .custom ("invalid type: " ++ u.render ++ ", expected " ++ expected)

/-- A value of the right type out of range. -/
def invalidValue (u : Unexpected) (expected : String) : ReadError :=
  .custom ("invalid value: " ++ u.render ++ ", expected " ++ expected)

/-- A list of the wrong length. -/
def invalidLength (n : Nat) (expected : String) : ReadError :=
  .custom ("invalid length " ++ toString n ++ ", expected " ++ expected)

/-- A required field left out. -/
def missingField (name : String) : ReadError := .custom ("missing field `" ++ name ++ "`")

/-- A field given twice. -/
def duplicateField (name : String) : ReadError := .custom ("duplicate field `" ++ name ++ "`")

/-- The largest 32-bit unsigned number. -/
def u32Max : Nat := Nat.pow 2 32 - 1

/-- Accepts a whole number for an unsigned shape of the given largest value. -/
def acceptUnsigned (expected : String) (max : Nat) : Int → Except ReadError Json
  | .ofNat n => if n ≤ max then .ok (.nat n) else .error (invalidValue (.int n) expected)
  | i => .error (invalidValue (.int i) expected)

/-- The names a fault says were expected. -/
def oneOf (names : List String) : String :=
  match names with
  | [a] => "`" ++ a ++ "`"
  | [a, b] => "`" ++ a ++ "` or `" ++ b ++ "`"
  | _ => "one of " ++ ", ".intercalate (names.map fun n => "`" ++ n ++ "`")

/-- Accepts a text for a text, UUID, name or timestamp shape. -/
def acceptText (s : Shape) (t : String) : Except ReadError Json :=
  match s with
  | .uuid =>
    match Uuid.parse t with
    | .ok u => .ok (.str u.render)
    | .error e => .error (.custom ("UUID parsing failed: " ++ e.message))
  | .choice _ variants =>
    if variants.contains t then .ok (.str t)
    else if variants.isEmpty then .error (.custom ("unknown variant `" ++ t ++ "`, there are no variants"))
    else .error (.custom ("unknown variant `" ++ t ++ "`, expected " ++ oneOf variants))
  | .stamp =>
    match Time.Rfc3339.parse t with
    | .ok _ => .ok (.str t)
    | .error f => .error (.custom f.message)
  | _ => .ok (.str t)

/-- The value of a field left out of a record. -/
def absentValue (fname : String) (s : Shape) (a : Absent) : Except ReadError Json :=
  match a, s with
  | .fill v, _ => .ok v
  | .required, .opt _ => .ok .null
  | .required, _ => .error (missingField fname)

/-- Fills the fields of a record from the members found, in declared order. -/
def completeRecord (fields : List (String × Shape × Absent)) (found : List (String × Json)) :
    Except ReadError Json := do
  let out ← fields.mapM fun (fname, s, a) =>
    match found.lookup fname with
    | some v => pure (fname, v)
    | none => do pure (fname, ← absentValue fname s a)
  pure (.obj out)

/-! ## From a value -/

/-- Decodes a value already read against a shape; `fuel` bounds the nesting. -/
def Shape.decodeWith : Nat → Shape → Json → Except ReadError Json
  | 0, _, _ => .error (.custom "recursion limit exceeded")
  | _, .any, v => .ok v
  | fuel + 1, .opt s, v => if v.isNull then .ok .null else Shape.decodeWith fuel s v
  | _, .text, .str t => acceptText .text t
  | _, .uuid, .str t => acceptText .uuid t
  | _, .choice n vs, .str t => acceptText (.choice n vs) t
  | _, .choice n vs, .obj [(t, v)] => do
    let name ← acceptText (.choice n vs) t
    if v.isNull then pure name else .error (invalidType (Unexpected.ofJson v) "unit")
  | _, .choice _ _, .obj _ => .error (invalidValue .map "map with a single key")
  | _, .stamp, .str t => acceptText .stamp t
  | _, .flag, .bool b => .ok (.bool b)
  | _, .nat64, .num (.int i) => acceptUnsigned "u64" Reader.u64Max i
  | _, .nat32, .num (.int i) => acceptUnsigned "u32" u32Max i
  | fuel + 1, .list s, .arr xs => do return .arr (← xs.mapM (Shape.decodeWith fuel s))
  | fuel + 1, .dict s, .obj fs => do
    return .obj (← fs.mapM fun (k, v) => do return (k, ← Shape.decodeWith fuel s v))
  | fuel + 1, .record name fields, .arr xs => do
    let vals ← (fields.zipIdx).mapM fun ((fname, s, a), i) =>
      match xs[i]? with
      | some v => do return (fname, ← Shape.decodeWith fuel s v)
      | none =>
        match a with
        | .fill d => pure (fname, d)
        | .required => .error (invalidLength i (recordLength name fields.length))
    if xs.length > fields.length then .error (invalidLength xs.length "fewer elements in array")
    else .ok (.obj vals)
  | fuel + 1, .record _ fields, .obj fs => do
    let found ← fs.filterMapM fun (k, v) =>
      match fields.find? (fun f => f.1 == k) with
      | some (_, s, _) => do return some (k, ← Shape.decodeWith fuel s v)
      | none => pure none
    completeRecord fields found
  | _, s, v => .error (invalidType (Unexpected.ofJson v) s.expecting)

/-- Decodes a value already read against a shape. -/
def Shape.decode (s : Shape) (v : Json) : Except String Json :=
  match Shape.decodeWith 256 s v with
  | .ok j => .ok j
  | .error e => .error e.fault.text

/-! ## From text -/

namespace Reader

/-- Reports a value of the wrong kind standing at the reader: reads it to name it. -/
def invalidAhead {α : Type} (expected : String) : Reader α := do
  let c := (← peek).getD 0
  let u : Unexpected ← do
    if c == byteOf 'n' then
      bump
      expectWord (utf8 "ull")
      pure .null
    else if c == byteOf 't' then
      bump
      expectWord (utf8 "rue")
      pure (.bool true)
    else if c == byteOf 'f' then
      bump
      expectWord (utf8 "alse")
      pure (.bool false)
    else if c == 45 then
      bump
      pure (scannedKind (← readNumber false))
    else if isDigit c then pure (scannedKind (← readNumber true))
    else if c == 34 then
      bump
      pure (.str (← readStr))
    else if c == 91 then pure .seq
    else if c == 123 then pure .map
    else failAhead .expectedValue
  throw (← place (invalidType u expected))
where
  scannedKind : Scanned → Unexpected
    | .unsigned n => .int n
    | .signed i => .int i
    | .double f => .float f

/-- Turns a decoder's verdict into a step of the reader. -/
def ofExcept {α : Type} : Except ReadError α → Reader α
  | .ok v => pure v
  | .error e => throw e

/-- Accepts a scanned number for an unsigned shape. -/
def acceptScanned (expected : String) (max : Nat) : Scanned → Except ReadError Json
  | .unsigned n => acceptUnsigned expected max n
  | .signed i => .error (invalidValue (.int i) expected)
  | .double f => .error (invalidType (.float f) expected)

/-- Reads a string for a text or UUID shape. -/
def readText (s : Shape) : Reader Json := placing do
  match ← skipBlank with
  | none => failAhead .eofInValue
  | some 34 =>
    bump
    let t ← readStr
    ofExcept (acceptText s t)
  | some _ => invalidAhead s.expecting

/-- Reads the key of a choice written as an object. -/
def readVariantKey : Reader String := placing do
  match ← skipBlank with
  | none => failAhead .eofInValue
  | some 34 =>
    bump
    readStr
  | some _ => invalidAhead "variant identifier"

/-- Reads a null, the value that a choice written as an object holds. -/
def readNull (expected : String) : Reader Unit := placing do
  match ← skipBlank with
  | none => failAhead .eofInValue
  | some 110 =>
    bump
    expectWord (utf8 "ull")
  | some _ => invalidAhead expected

/-- Reads a number for an unsigned shape. -/
def readUnsigned (expected : String) (max : Nat) : Reader Json := placing do
  match ← skipBlank with
  | none => failAhead .eofInValue
  | some c =>
    if c == 45 then
      bump
      ofExcept (acceptScanned expected max (← readNumber false))
    else if isDigit c then ofExcept (acceptScanned expected max (← readNumber true))
    else invalidAhead expected
mutual
/-- Reads a value of a shape; `depth` is how many more arrays or objects may open. -/
def readShape (depth : Nat) : Shape → Nat → Reader Json
  | _, 0 => fail .recursionLimit
  | .any, fuel + 1 => readValue depth fuel
  | .opt s, fuel + 1 => do
    match ← skipBlank with
    | some 110 =>
      bump
      expectWord (utf8 "ull")
      pure .null
    | _ => readShape depth s fuel
  | .text, _ => readText .text
  | .uuid, _ => readText .uuid
  | .stamp, _ => readText .stamp
  | .choice n vs, _ => placing do
    match ← skipBlank with
    | none => failAhead .eofInValue
    | some 34 =>
      bump
      let t ← readStr
      ofExcept (acceptText (.choice n vs) t)
    | some 123 =>
      if depth ≤ 1 then failAhead .recursionLimit
      else
        bump
        let name ← ofExcept (acceptText (.choice n vs) (← readVariantKey))
        expectColon
        readNull "unit"
        match ← skipBlank with
        | some 125 =>
          bump
          pure name
        | some _ => fail .expectedValue
        | none => fail .eofInObject
    | some _ => failAhead .expectedValue
  | .flag, _ => placing do
    match ← skipBlank with
    | none => failAhead .eofInValue
    | some c =>
      if c == byteOf 't' then
        bump
        expectWord (utf8 "rue")
        pure (.bool true)
      else if c == byteOf 'f' then
        bump
        expectWord (utf8 "alse")
        pure (.bool false)
      else invalidAhead "a boolean"
  | .nat64, _ => readUnsigned "u64" u64Max
  | .nat32, _ => readUnsigned "u32" u32Max
  | .list s, fuel + 1 => placing do
    match ← skipBlank with
    | none => failAhead .eofInValue
    | some 91 =>
      if depth ≤ 1 then failAhead .recursionLimit
      else
        bump
        let items ← thenClose (readShapeItems (depth - 1) s true [] fuel) endArray
        pure (.arr items)
    | some _ => invalidAhead "a sequence"
  | .dict s, fuel + 1 => placing do
    match ← skipBlank with
    | none => failAhead .eofInValue
    | some 123 =>
      if depth ≤ 1 then failAhead .recursionLimit
      else
        bump
        let fields ← thenClose (readShapeMembers (depth - 1) s true [] fuel) endObject
        pure (.obj fields)
    | some _ => invalidAhead "a map"
  | .record name fields, fuel + 1 => placing do
    match ← skipBlank with
    | none => failAhead .eofInValue
    | some 91 =>
      if depth ≤ 1 then failAhead .recursionLimit
      else
        bump
        thenClose (readRecordItems (depth - 1) name fields.length true 0 fields [] fuel) endArray
    | some 123 =>
      if depth ≤ 1 then failAhead .recursionLimit
      else
        bump
        let found ← thenClose (readRecordMembers (depth - 1) fields true [] fuel) endObject
        ofExcept (completeRecord fields found)
    | some _ => invalidAhead ("struct " ++ name)
termination_by structural _ f => f

/-- Items of a list of one shape, up to its close. -/
def readShapeItems (depth : Nat) (s : Shape) (first : Bool) (acc : List Json) :
    Nat → Reader (List Json)
  | 0 => fail .recursionLimit
  | fuel + 1 => do
    if ← hasNextItem first then
      let v ← readShape depth s fuel
      readShapeItems depth s false (acc ++ [v]) fuel
    else pure acc
termination_by structural f => f

/-- Members of a dictionary of one shape, up to its close. -/
def readShapeMembers (depth : Nat) (s : Shape) (first : Bool) (acc : Fields) :
    Nat → Reader Fields
  | 0 => fail .recursionLimit
  | fuel + 1 => do
    match ← nextKey first with
    | none => pure acc
    | some k =>
      expectColon
      let v ← readShape depth s fuel
      readShapeMembers depth s false (Fields.insert k v acc) fuel
termination_by structural f => f

/-- The fields of a record in array form, in declared order, up to its close. -/
def readRecordItems (depth : Nat) (name : String) (count : Nat) (first : Bool) (index : Nat) :
    List (String × Shape × Absent) → List (String × Json) → Nat → Reader Json
  | [], acc, _ => pure (.obj acc)
  | _, _, 0 => fail .recursionLimit
  | (fname, s, a) :: rest, acc, fuel + 1 => do
    if ← hasNextItem first then
      let v ← readShape depth s fuel
      readRecordItems depth name count false (index + 1) rest (acc ++ [(fname, v)]) fuel
    else
      match a with
      | .fill d => readRecordItems depth name count first (index + 1) rest (acc ++ [(fname, d)]) fuel
      | .required => throw (invalidLength index (recordLength name count))
termination_by structural _ _ f => f

/-- The members of a record in object form, up to its close; unknown members are skipped. -/
def readRecordMembers (depth : Nat) (fields : List (String × Shape × Absent)) (first : Bool)
    (acc : List (String × Json)) : Nat → Reader (List (String × Json))
  | 0 => fail .recursionLimit
  | fuel + 1 => do
    match ← nextKey first with
    | none => pure acc
    | some k =>
      match fields.find? (fun f => f.1 == k) with
      | some (fname, s, _) =>
        if (acc.lookup fname).isSome then throw (duplicateField fname)
        else
          expectColon
          let v ← readShape depth s fuel
          readRecordMembers depth fields false (acc ++ [(fname, v)]) fuel
      | none =>
        expectColon
        skipValue
        readRecordMembers depth fields false acc fuel
termination_by structural f => f

end

end Reader

/-- Decodes JSON text against a shape; the error is the fault's text with its place. -/
def Shape.decodeText (s : Shape) (text : String) : Except String Json :=
  Reader.runText (Reader.readShape 128 s (Reader.fuelFor (utf8 text).length)) text

end TxnCoord.Json
