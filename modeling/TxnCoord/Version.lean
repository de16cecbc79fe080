import TxnCoord.Error
import TxnCoord.Text.Digit
import TxnCoord.Text.Numeral
/-!
# Server versions

A server version is three 32-bit numbers, compared in order. What a server can do follows
from thresholds: transactions from 2.0.0, rolling back by itself after a failed statement
from 3.0.0, several databases from 4.0.0. The transaction endpoint names the database
only on servers that have several.

A version is read from the first place in a text where a run of decimal digits (of any
script), a point and another run stand; a point and a third run after them give the
patch number, which is 0 otherwise. Each run must then read as a 32-bit number in ASCII
digits.
-/

namespace TxnCoord

/-- A server version. -/
structure ServerVersion where
  major : Nat
  minor : Nat
  patch : Nat
  deriving DecidableEq, Inhabited, Repr

namespace ServerVersion

/-- The order of versions: by major, then minor, then patch number. -/
def le (a b : ServerVersion) : Bool :=
  a.major < b.major || (a.major == b.major &&
    (a.minor < b.minor || (a.minor == b.minor && a.patch ≤ b.patch)))

/-- `a.b.c`. -/
def render (v : ServerVersion) : String :=
  toString v.major ++ "." ++ toString v.minor ++ "." ++ toString v.patch

/-- Whether the server has multi-statement transactions. -/
def supportsTransactions (v : ServerVersion) : Bool := le ⟨2, 0, 0⟩ v

/-- Whether the server rolls a transaction back by itself after a failed statement. -/
def rollsBackOnStatementError (v : ServerVersion) : Bool := le ⟨3, 0, 0⟩ v

/-- Whether the server hosts several databases. -/
def supportsMultipleDatabases (v : ServerVersion) : Bool := le ⟨4, 0, 0⟩ v

/-- The path that begins a transaction on a database. -/
def transactionEndpoint (v : ServerVersion) (database : String) : String :=
  if v.supportsMultipleDatabases then "/db/" ++ database ++ "/tx" else "/db/data/transaction"

/-- The digit runs of the first version-like place in a text: major, minor and maybe patch. -/
def findRuns (cs : List Char) : Option (List Char × List Char × Option (List Char)) :=
  match cs with
  | [] => none
  | c :: rest =>
    if Text.isDecimalDigit c then
      let run := c :: rest.takeWhile Text.isDecimalDigit
      match rest.dropWhile Text.isDecimalDigit with
      | '.' :: more =>
        let run2 := more.takeWhile Text.isDecimalDigit
        if run2.isEmpty then findRuns (rest.dropWhile Text.isDecimalDigit)
        else
          let run3 :=
            match more.dropWhile Text.isDecimalDigit with
            | '.' :: more3 =>
              let r := more3.takeWhile Text.isDecimalDigit
              if r.isEmpty then none else some r
            | _ => none
          some (run, run2, run3)
      | _ => findRuns (rest.dropWhile Text.isDecimalDigit)
    else findRuns rest
termination_by cs.length
decreasing_by
  all_goals
    have : (rest.dropWhile Text.isDecimalDigit).length ≤ rest.length :=
      (List.dropWhile_suffix Text.isDecimalDigit).length_le
    simp only [List.length_cons]
    omega

/-- Reads one digit run as a 32-bit number. -/
def component (run : List Char) : Except TxError Nat :=
  let text := String.ofList run
  match Text.parseUnsigned 32 text with
  | .ok n => .ok n
  | .error e => .error (.configuration ("Invalid version component '" ++ text ++ "': " ++ e.message))

/-- Reads a server version out of a text. -/
def parse (s : String) : Except TxError ServerVersion :=
  match findRuns s.toList with
  | none => .error (.configuration ("Unrecognised server version: " ++ s))
  | some (r1, r2, r3) => do
    let major ← component r1
    let minor ← component r2
    let patch ← match r3 with
      | some r => component r
      | none => pure 0
    pure ⟨major, minor, patch⟩

end ServerVersion

end TxnCoord
