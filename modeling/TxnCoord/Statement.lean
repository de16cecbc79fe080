import TxnCoord.Json.Decode
/-!
# Statements and results

A statement is a query text with named parameters; a batch is the statements sent in one
request. A result has the names of its columns and its rows, one value per column.
All three are read from JSON records and written back as records.
-/

namespace TxnCoord

/-- A query text with named parameters, kept in key order. -/
structure Statement where
  text : String
  parameters : List (String × Json) := []

/-- Statements sent in one request. -/
structure Batch where
  statements : List Statement := []

/-- The columns and rows produced by one statement. -/
structure StatementResult where
  columns : List String
  rows : List (List Json)

namespace Statement

/-- The record shape of a statement; parameters may be left out. -/
def shape : Json.Shape :=
  .record "Statement" [("text", .text, .required), ("parameters", .dict .any, .fill (.obj []))]

/-- A statement from a decoded record. -/
def ofDecoded (j : Json) : Statement :=
  { text := ((j.get? "text").bind Json.str?).getD ""
    parameters := ((j.get? "parameters").bind Json.obj?).getD [] }

/-- A statement as a JSON record. -/
def toJson (s : Statement) : Json := .obj [("text", .str s.text), ("parameters", .obj s.parameters)]

end Statement

namespace Batch

/-- The record shape of a batch. -/
def shape : Json.Shape :=
  .record "StatementBatch" [("statements", .list Statement.shape, .required)]

/-- A batch from a decoded record. -/
def ofDecoded (j : Json) : Batch :=
  { statements := (((j.get? "statements").bind Json.arr?).getD []).map Statement.ofDecoded }

/-- A batch as a JSON record. -/
def toJson (b : Batch) : Json := .obj [("statements", .arr (b.statements.map Statement.toJson))]

/-- The number of statements. -/
def size (b : Batch) : Nat := b.statements.length

/-- Whether the batch holds no statement. -/
def isEmpty (b : Batch) : Bool := b.statements.isEmpty

/-- A batch of one statement. -/
def single (s : Statement) : Batch := ⟨[s]⟩

end Batch

namespace StatementResult

/-- The record shape of a result. -/
def shape : Json.Shape :=
  .record "StatementResult" [("columns", .list .text, .required), ("rows", .list (.list .any), .required)]

/-- A result from a decoded record. -/
def ofDecoded (j : Json) : StatementResult :=
  { columns := ((((j.get? "columns").bind Json.arr?).getD []).filterMap Json.str?)
    rows := ((((j.get? "rows").bind Json.arr?).getD []).map fun r => (Json.arr? r).getD []) }

/-- A result as a JSON record. -/
def toJson (r : StatementResult) : Json :=
  .obj [("columns", .arr (r.columns.map Json.str)), ("rows", .arr (r.rows.map Json.arr))]

/-- The number of rows. -/
def rowCount (r : StatementResult) : Nat := r.rows.length

/-- The value of a column in the first row: the first column of that name. -/
def first (r : StatementResult) (column : String) : Option Json := do
  let i ← r.columns.idxOf? column
  let row ← r.rows.head?
  row[i]?

end StatementResult

end TxnCoord
