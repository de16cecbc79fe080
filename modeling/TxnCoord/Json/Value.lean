/-!
# JSON values

The dynamic values that travel through the coordinator: request bodies, server answers,
statement parameters and configuration documents.

* A number is a whole number or a double. Whole numbers fit 64 bits: the non-negative
  ones unsigned, the negative ones signed. The reader turns everything else into a
  double.
* An object lists its members in the order they are written. A record type writes its
  fields in their declared order. A dictionary, and every object read from text, keeps its
  members in strictly increasing key order with one member per key: a later member with
  the same key replaces the earlier one (`Json.Fields.insert`).

Main statements:

    (fields.insert k v).lookup k = some v                     (lookup_insert_self)
    k ≠ k' → (fields.insert k v).lookup k' = fields.lookup k'   (lookup_insert_ne)
-/

namespace TxnCoord

/-- A JSON number: a whole number in the 64-bit range, or a double. -/
inductive Number where
  | int (i : Int)
  | float (f : Float)

/-- A JSON value; an object lists its members in the order they are written. -/
inductive Json where
  | null
  | bool (b : Bool)
  | num (n : Number)
  | str (s : String)
  | arr (items : List Json)
  | obj (fields : List (String × Json))

namespace Json

instance : Inhabited Json := ⟨.null⟩

/-- A whole number as a JSON value. -/
def nat (n : Nat) : Json := .num (.int n)

/-- Members of an object, in increasing key order. -/
abbrev Fields := List (String × Json)

/-- Puts a member in its place by key; a member with the same key is replaced. -/
def Fields.insert (k : String) (v : Json) : Fields → Fields
  | [] => [(k, v)]
  | (k', v') :: rest =>
    if k < k' then (k, v) :: (k', v') :: rest
    else if k = k' then (k, v) :: rest
    else (k', v') :: Fields.insert k v rest

/-- The value stored under a key. -/
def Fields.lookup (k : String) : Fields → Option Json
  | [] => none
  | (k', v) :: rest => if k = k' then some v else Fields.lookup k rest

/-- Builds an object from members in any order; of two members with one key, the later wins. -/
def ofFields (kvs : List (String × Json)) : Json :=
  .obj (kvs.foldl (fun acc kv => Fields.insert kv.1 kv.2 acc) [])

/-- The member under a key, if this is an object that has one. -/
def get? (j : Json) (k : String) : Option Json :=
  match j with
  | .obj fs => Fields.lookup k fs
  | _ => none

/-- Whether this is an object with a member under the key. -/
def has (j : Json) (k : String) : Bool := (j.get? k).isSome

/-- The text, if this is a string. -/
def str? : Json → Option String
  | .str s => some s
  | _ => none

/-- The whole number, if this is one. -/
def int? : Json → Option Int
  | .num (.int i) => some i
  | _ => none

/-- The items, if this is an array. -/
def arr? : Json → Option (List Json)
  | .arr xs => some xs
  | _ => none

/-- The flag, if this is a boolean. -/
def bool? : Json → Option Bool
  | .bool b => some b
  | _ => none

/-- The members, if this is an object. -/
def obj? : Json → Option Fields
  | .obj fs => some fs
  | _ => none

/-- Whether this is the null value. -/
def isNull : Json → Bool
  | .null => true
  | _ => false

/-- A nullable text: the null value for none. -/
def optStr : Option String → Json
  | some s => .str s
  | none => .null

theorem lookup_insert_self (k : String) (v : Json) (fs : Fields) :
    (fs.insert k v).lookup k = some v := by
  induction fs with
  | nil => simp [Fields.insert, Fields.lookup]
  | cons kv rest ih =>
    obtain ⟨k', v'⟩ := kv
    unfold Fields.insert
    by_cases h1 : k < k'
    · simp [h1, Fields.lookup]
    · by_cases h2 : k = k'
      · simp [h2, Fields.lookup]
      · simp [h1, h2, Fields.lookup, ih]

theorem lookup_insert_ne (k k' : String) (v : Json) (fs : Fields) (h : k ≠ k') :
    (fs.insert k v).lookup k' = fs.lookup k' := by
  induction fs with
  | nil => simp [Fields.insert, Fields.lookup, Ne.symm h]
  | cons kv rest ih =>
    obtain ⟨k'', v'⟩ := kv
    unfold Fields.insert
    by_cases h1 : k < k''
    · simp [h1, Fields.lookup, Ne.symm h]
    · by_cases h2 : k = k''
      · subst h2
        simp [Fields.lookup, Ne.symm h]
      · simp only [h1, h2, if_false, Fields.lookup]
        split <;> simp_all

end Json

end TxnCoord
