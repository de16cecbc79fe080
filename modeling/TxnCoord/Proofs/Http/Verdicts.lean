import Mathlib.Data.Set.List
import TxnCoord.Proofs.Json.Decoded
import TxnCoord.Http.Wire
import TxnCoord.Transaction.DriverFault
/-!
# How an answer is judged

The body of an answer reads as a typed `Answer`: its results with their columns and data
entries, its errors with a code and a message each, and its transaction part. A null body
reads as the empty answer; any other body reads exactly when it decodes against the answer's
shape, and the decoded value is always the normal form of a typed answer (`answerShape_decode`).

Whatever the status and the body, the verdict is one of four, each under a condition said on
the answer that the body reads as (`answer_verdicts`):

* accepted, exactly when the body reads, has no errors and the status is from 200 to 299; the
  accepted results are the body's, in order, each with the row of every data entry, and the
  location is the response's;
* an unknown transaction, exactly when the body reads and either its first error's code says
  so, or it has no errors and the status is 404;
* a refused statement carrying the first error, exactly when that error's code does not say the
  transaction is unknown and the status is neither 404 nor 500 or above;
* a transport failure otherwise: the body does not read, or it has no errors under a status
  that is neither a success nor 404, or its first error is not about an unknown transaction and
  comes with a 404 or a server error.

The first error is looked at before the status, so a 2xx answer with errors is never accepted,
and a 404 means an unknown transaction only when nothing else is said.

A driver session reads the server's code with a list of its own (`DriverFault.toError`): the
answer's list without `Request.UnknownTransaction`. So a code ending in it closes the
transaction when it comes in an answer, and is a refused statement when it comes from a driver
(`DriverFault.toError_server`); on every other code the two transports agree.
-/

namespace TxnCoord.Http

open Json

/-- A data entry of a result: the row it carries. -/
structure WireRow where
  row : List Json

/-- A result of an answer: its columns and its data entries, in order. -/
structure WireResult where
  columns : List String
  data : List WireRow

/-- An error of an answer. -/
structure WireError where
  code : String
  message : String

/-- The transaction part of an answer. -/
structure WireTransaction where
  expires : Option String

/-- The body of an answer as it reads: its results, its errors and its transaction. -/
structure Answer where
  results : List WireResult := []
  errors : List WireError := []
  transaction : Option WireTransaction := none

/-! Each part of an answer is the object its shape decodes to: the declared fields, in order. -/

def WireRow.toJson (r : WireRow) : Json := .obj [("row", .arr r.row)]

def WireResult.toJson (r : WireResult) : Json :=
  .obj [("columns", .arr (r.columns.map .str)), ("data", .arr (r.data.map WireRow.toJson))]

def WireError.toJson (e : WireError) : Json :=
  .obj [("code", .str e.code), ("message", .str e.message)]

def WireTransaction.toJson (t : WireTransaction) : Json := .obj [("expires", optStr t.expires)]

def Answer.toJson (a : Answer) : Json :=
  .obj [("results", .arr (a.results.map WireResult.toJson)),
    ("errors", .arr (a.errors.map WireError.toJson)),
    ("transaction", (a.transaction.map WireTransaction.toJson).getD .null)]

/-- A result as the coordinator hands it on: the columns, and the row of each data entry. -/
def WireResult.toResult (r : WireResult) : StatementResult :=
  { columns := r.columns, rows := r.data.map (·.row) }

@[simp] theorem items_errors (a : Answer) :
    items a.toJson "errors" = a.errors.map WireError.toJson := by
  simp [Answer.toJson, items, Json.get?, Json.Fields.lookup, Json.arr?]

@[simp] theorem items_results (a : Answer) :
    items a.toJson "results" = a.results.map WireResult.toJson := by
  simp [Answer.toJson, items, Json.get?, Json.Fields.lookup, Json.arr?]

@[simp] theorem text_code (e : WireError) : text e.toJson "code" = e.code := by
  simp [WireError.toJson, text, Json.get?, Json.Fields.lookup, Json.str?]

@[simp] theorem text_message (e : WireError) : text e.toJson "message" = e.message := by
  simp [WireError.toJson, text, Json.get?, Json.Fields.lookup, Json.str?]

@[simp] theorem resultOf_toJson (r : WireResult) : resultOf r.toJson = r.toResult := by
  simp [WireResult.toJson, WireResult.toResult, resultOf, items, Json.get?, Json.Fields.lookup,
    Json.arr?, Json.str?, WireRow.toJson, Function.comp_def]

theorem expires_toJson (a : Answer) :
    ((a.toJson.get? "transaction").bind (·.get? "expires")).bind Json.str? =
      a.transaction.bind (·.expires) := by
  rcases a with ⟨rs, es, _ | ⟨_ | e⟩⟩ <;>
    simp [Answer.toJson, WireTransaction.toJson, Json.get?, Json.Fields.lookup, Json.str?, optStr]

/-! ## Decoded answers -/

/-- The shape of a data entry. -/
def rowShape : Shape := .record "WireRow" [("row", .list .any, .fill (.arr []))]

/-- The shape of a result. -/
def resultShape : Shape :=
  .record "WireResult"
    [("columns", .list .text, .fill (.arr [])), ("data", .list rowShape, .fill (.arr []))]

/-- The shape of an error. -/
def errorShape : Shape :=
  .record "WireError" [("code", .text, .required), ("message", .text, .fill (.str ""))]

/-- The shape of the transaction part. -/
def transactionShape : Shape := .record "WireTransaction" [("expires", .opt .text, .required)]

theorem answerShape_eq : answerShape = .record "WireResponse"
    [("results", .list resultShape, .fill (.arr [])), ("errors", .list errorShape, .fill (.arr [])),
      ("transaction", .opt transactionShape, .fill .null)] := rfl

theorem rowShape_decode {n : Nat} {x y : Json} (h : Shape.decodeWith (n + 2) rowShape x = .ok y) :
    ∃ r : WireRow, r.toJson = y := by
  obtain ⟨vals, rfl, hf⟩ := decodeWith_record (by decide) h
  simp only [List.forall₂_cons_left_iff, List.forall₂_nil_left_iff] at hf
  obtain ⟨kv, u, hrow, rfl, rfl⟩ := hf
  obtain ⟨ys, rfl, -⟩ := hrow.list
  exact ⟨⟨ys⟩, rfl⟩

/-- A list of values each of which is an image under `f` is the image of a list. -/
theorem exists_map_eq {α : Type} {f : α → Json} {ys : List Json}
    (h : ∀ z ∈ ys, ∃ w, f w = z) :
    ∃ ws : List α, ws.map f = ys := by
  have hr : ys ∈ Set.range (List.map f) := by
    rw [Set.range_list_map]
    exact h
  exact hr

theorem resultShape_decode {n : Nat} {x y : Json}
    (h : Shape.decodeWith (n + 4) resultShape x = .ok y) :
    ∃ r : WireResult, r.toJson = y := by
  obtain ⟨vals, rfl, hf⟩ := decodeWith_record (by decide) h
  simp only [List.forall₂_cons_left_iff, List.forall₂_nil_left_iff] at hf
  obtain ⟨kc, u, hcols, ⟨kd, u', hdata, rfl, rfl⟩, rfl⟩ := hf
  obtain ⟨cs, rfl, hcs⟩ := hcols.list
  obtain ⟨ds, rfl, hds⟩ := hdata.list
  obtain ⟨ts, rfl⟩ := exists_map_eq (f := Json.str) fun z hz => by
    obtain ⟨x, hx⟩ := hcs z hz
    obtain ⟨t, rfl⟩ := decodeWith_text hx
    exact ⟨t, rfl⟩
  obtain ⟨rs, rfl⟩ := exists_map_eq (f := WireRow.toJson) fun z hz => by
    obtain ⟨x, hx⟩ := hds z hz
    exact rowShape_decode hx
  exact ⟨⟨ts, rs⟩, rfl⟩

theorem errorShape_decode {n : Nat} {x y : Json}
    (h : Shape.decodeWith (n + 1) errorShape x = .ok y) :
    ∃ e : WireError, e.toJson = y := by
  obtain ⟨vals, rfl, hf⟩ := decodeWith_record (by decide) h
  simp only [List.forall₂_cons_left_iff, List.forall₂_nil_left_iff] at hf
  obtain ⟨kc, u, hcode, ⟨km, u', hmsg, rfl, rfl⟩, rfl⟩ := hf
  -- a code must be given; a message left out is the empty text
  obtain ⟨c, rfl⟩ := hcode.text fun v hv => by cases hv
  obtain ⟨m, rfl⟩ := hmsg.text fun v hv => by cases hv; exact ⟨"", rfl⟩
  exact ⟨⟨c, m⟩, rfl⟩

theorem transactionShape_decode {n : Nat} {x y : Json}
    (h : Shape.decodeWith (n + 2) transactionShape x = .ok y) :
    ∃ t : WireTransaction, t.toJson = y := by
  obtain ⟨vals, rfl, hf⟩ := decodeWith_record (by decide) h
  simp only [List.forall₂_cons_left_iff, List.forall₂_nil_left_iff] at hf
  obtain ⟨kv, u, ⟨hk, hv⟩, rfl, rfl⟩ := hf
  obtain ⟨k, v⟩ := kv
  dsimp only at hk hv
  subst hk
  -- an expiry left out is null, as a nullable field without a default is
  rcases hv with ⟨x', hx'⟩ | hv
  · rcases decodeWith_opt hx' with rfl | hx''
    · exact ⟨⟨none⟩, rfl⟩
    · obtain ⟨t, rfl⟩ := decodeWith_text hx''
      exact ⟨⟨some t⟩, rfl⟩
  · cases hv
    exact ⟨⟨none⟩, rfl⟩

/-- A decoded answer body is in normal form: it is the value of a typed answer. -/
theorem answerShape_decode {v b : Json} (h : answerShape.decode v = .ok b) :
    ∃ a : Answer, a.toJson = b := by
  have h256 : Shape.decodeWith 256 answerShape v = .ok b := by
    simp only [Shape.decode] at h
    split at h
    · rename_i j hj
      cases h
      exact hj
    · cases h
  rw [answerShape_eq] at h256
  obtain ⟨vals, rfl, hf⟩ := decodeWith_record (by decide) h256
  simp only [List.forall₂_cons_left_iff, List.forall₂_nil_left_iff] at hf
  obtain ⟨kr, u, hres, ⟨ke, u', herr, ⟨kt, u'', ⟨hk, htx⟩, rfl, rfl⟩, rfl⟩, rfl⟩ := hf
  obtain ⟨rs, rfl, hrs⟩ := hres.list
  obtain ⟨es, rfl, hes⟩ := herr.list
  obtain ⟨rs', rfl⟩ := exists_map_eq (f := WireResult.toJson) fun z hz => by
    obtain ⟨x, hx⟩ := hrs z hz
    exact resultShape_decode hx
  obtain ⟨es', rfl⟩ := exists_map_eq (f := WireError.toJson) fun z hz => by
    obtain ⟨x, hx⟩ := hes z hz
    exact errorShape_decode hx
  obtain ⟨k, t⟩ := kt
  dsimp only at hk htx
  subst hk
  rcases htx with ⟨x, hx⟩ | htx
  · rcases decodeWith_opt hx with rfl | hx'
    · exact ⟨⟨rs', es', none⟩, rfl⟩
    · obtain ⟨tr, rfl⟩ := transactionShape_decode hx'
      exact ⟨⟨rs', es', some tr⟩, rfl⟩
  · cases htx
    exact ⟨⟨rs', es', none⟩, rfl⟩

/-! ## Verdicts -/

/-- The body of response `r` reads as answer `a`: it is null and `a` is empty, or it decodes
to `a`. -/
def Reads (r : Response) (a : Answer) : Prop :=
  (r.body.isNull = true ∧ a = {}) ∨ answerShape.decode r.body = .ok a.toJson

/-- A body that reads is null or decodes as an answer, and one of either kind reads. -/
theorem exists_reads_iff (r : Response) :
    (∃ a, Reads r a) ↔ r.body.isNull = true ∨ ∃ b, answerShape.decode r.body = .ok b := by
  constructor
  · rintro ⟨a, ⟨hnull, -⟩ | hdec⟩
    · exact .inl hnull
    · exact .inr ⟨_, hdec⟩
  · rintro (hnull | ⟨b, hdec⟩)
    · exact ⟨{}, .inl ⟨hnull, rfl⟩⟩
    · obtain ⟨a, rfl⟩ := answerShape_decode hdec
      exact ⟨a, .inr hdec⟩

/-- A body that decodes is not null: the answer's shape is a record. -/
theorem isNull_of_decode {r : Response} {a : Answer}
    (hdec : answerShape.decode r.body = .ok a.toJson) :
    r.body.isNull = false := by
  cases hb : r.body with
  | null => rw [hb] at hdec; cases hdec
  | _ => rfl

/-- With a first error, the verdict rests on its code and the status alone. -/
theorem interpret_of_errors_cons {r : Response} {a : Answer} {e : WireError} {rest : List WireError}
    (hr : Reads r a) (he : a.errors = e :: rest) :
    interpret r = if isUnknownTransactionCode e.code then .error .unknownTransaction
      else if r.status ≠ 404 ∧ r.status < 500 then .error (.statement e.code e.message)
      else .error
        (.transport ("HTTP " ++ toString r.status ++ " (" ++ e.code ++ ": " ++ e.message ++ ")")) := by
  rcases hr with ⟨-, rfl⟩ | hdec
  · cases he
  · have hnull := isNull_of_decode hdec
    by_cases hu : isUnknownTransactionCode e.code = true
    · simp [interpret, hnull, hdec, he, hu]
    by_cases hs : r.status ≠ 404 ∧ r.status < 500
    · simp [interpret, hnull, hdec, he, hu, hs]
    -- a first error under a 404 or a server error never leaves a success status
    have hok : ¬(200 ≤ r.status ∧ r.status ≤ 299) := by omega
    simp [interpret, hnull, hdec, he, hu, hs, hok, String.append_assoc]

/-- A null body stands for the empty answer. -/
theorem toJson_empty : ({} : Answer).toJson =
    .obj [("results", .arr []), ("errors", .arr []), ("transaction", .null)] := rfl

/-- With no errors, the verdict rests on the status alone. -/
theorem interpret_of_errors_nil {r : Response} {a : Answer} (hr : Reads r a) (he : a.errors = []) :
    interpret r = if 200 ≤ r.status ∧ r.status ≤ 299 then
        .ok { results := a.results.map WireResult.toResult, location := r.location,
              expiresAt := (a.transaction.bind (·.expires)).bind Time.MailDate.parse }
      else if r.status = 404 then .error .unknownTransaction
      else .error (.transport ("HTTP " ++ toString r.status ++ " (no error details)")) := by
  rcases hr with ⟨hnull, rfl⟩ | hdec
  · by_cases hok : 200 ≤ r.status ∧ r.status ≤ 299
    · simp [interpret, hnull, hok, ← toJson_empty, expires_toJson]
    · by_cases h404 : r.status = 404
      · simp [interpret, hnull, h404, ← toJson_empty]
      · simp [interpret, hnull, hok, h404, ← toJson_empty, String.append_assoc]
  · have hnull := isNull_of_decode hdec
    by_cases hok : 200 ≤ r.status ∧ r.status ≤ 299
    · simp [interpret, hnull, hdec, he, hok, expires_toJson]
    · by_cases h404 : r.status = 404
      · simp [interpret, hnull, hdec, he, h404]
      · simp [interpret, hnull, hdec, he, hok, h404, String.append_assoc]

/-- A body that is not null and does not decode is a transport failure that names the status and
the fault. -/
theorem interpret_of_decode_error {r : Response} {e : String} (hnull : r.body.isNull = false)
    (hd : answerShape.decode r.body = .error e) :
    interpret r =
      .error (.transport ("Malformed response body (HTTP " ++ toString r.status ++ "): " ++ e)) := by
  simp [interpret, hnull, hd]

theorem interpret_of_malformed {r : Response} (h : ¬∃ a, Reads r a) :
    ∃ m, interpret r = .error (.transport m) := by
  cases hnull : r.body.isNull with
  | true => exact absurd ⟨{}, .inl ⟨hnull, rfl⟩⟩ h
  | false =>
    cases hd : answerShape.decode r.body with
    | ok b =>
      obtain ⟨a, rfl⟩ := answerShape_decode hd
      exact absurd ⟨a, .inr hd⟩ h
    | error e => exact ⟨_, interpret_of_decode_error hnull hd⟩

theorem interpret_ok_iff (r : Response) :
    (∃ acc, interpret r = .ok acc) ↔
      ∃ a, Reads r a ∧ a.errors = [] ∧ 200 ≤ r.status ∧ r.status ≤ 299 := by
  constructor
  · rintro ⟨acc, h⟩
    by_cases hr : ∃ a, Reads r a
    · obtain ⟨a, hr⟩ := hr
      cases he : a.errors with
      | nil =>
        rw [interpret_of_errors_nil hr he] at h
        by_cases hok : 200 ≤ r.status ∧ r.status ≤ 299
        · exact ⟨a, hr, he, hok⟩
        · rw [if_neg hok] at h
          split_ifs at h
      | cons e rest =>
        rw [interpret_of_errors_cons hr he] at h
        split_ifs at h
    · obtain ⟨m, hm⟩ := interpret_of_malformed hr
      rw [hm] at h
      cases h
  · rintro ⟨a, hr, he, hok⟩
    rw [interpret_of_errors_nil hr he, if_pos hok]
    exact ⟨_, rfl⟩

/-- An accepted answer hands on the body's results in order, each with the row of every data
entry, and the response's location as it came. -/
theorem interpret_ok_results {r : Response} {acc : Accepted} (h : interpret r = .ok acc) :
    ∃ a, Reads r a ∧ acc.results = a.results.map WireResult.toResult ∧
      acc.location = r.location := by
  obtain ⟨a, hr, he, hok⟩ := (interpret_ok_iff r).1 ⟨acc, h⟩
  rw [interpret_of_errors_nil hr he, if_pos hok] at h
  cases h
  exact ⟨a, hr, rfl, rfl⟩

theorem interpret_unknown_iff (r : Response) :
    interpret r = .error .unknownTransaction ↔ ∃ a, Reads r a ∧
      ((∃ e rest, a.errors = e :: rest ∧ isUnknownTransactionCode e.code = true) ∨
        (a.errors = [] ∧ r.status = 404)) := by
  constructor
  · intro h
    by_cases hr : ∃ a, Reads r a
    · obtain ⟨a, hr⟩ := hr
      refine ⟨a, hr, ?_⟩
      cases he : a.errors with
      | nil =>
        rw [interpret_of_errors_nil hr he] at h
        by_cases h404 : r.status = 404
        · exact .inr ⟨rfl, h404⟩
        · rw [if_neg h404] at h
          split_ifs at h
          cases h
      | cons e rest =>
        rw [interpret_of_errors_cons hr he] at h
        by_cases hu : isUnknownTransactionCode e.code = true
        · exact .inl ⟨e, rest, rfl, hu⟩
        · rw [if_neg hu] at h
          split_ifs at h <;> cases h
    · obtain ⟨m, hm⟩ := interpret_of_malformed hr
      rw [hm] at h
      cases h
  · rintro ⟨a, hr, ⟨e, rest, he, hu⟩ | ⟨he, h404⟩⟩
    · rw [interpret_of_errors_cons hr he, if_pos hu]
    · rw [interpret_of_errors_nil hr he, if_neg (by omega), if_pos h404]

/-- A 404 without a body says the transaction is unknown. -/
example : interpret { status := 404 } = .error .unknownTransaction := rfl

theorem interpret_statement_iff (r : Response) (c m : String) :
    interpret r = .error (.statement c m) ↔ ∃ a rest, Reads r a ∧ a.errors = ⟨c, m⟩ :: rest ∧
      isUnknownTransactionCode c = false ∧ r.status ≠ 404 ∧ r.status < 500 := by
  constructor
  · intro h
    by_cases hr : ∃ a, Reads r a
    · obtain ⟨a, hr⟩ := hr
      cases he : a.errors with
      | nil =>
        rw [interpret_of_errors_nil hr he] at h
        split_ifs at h <;> cases h
      | cons e rest =>
        rw [interpret_of_errors_cons hr he] at h
        by_cases hu : isUnknownTransactionCode e.code = true
        · rw [if_pos hu] at h
          cases h
        by_cases hs : r.status ≠ 404 ∧ r.status < 500
        · rw [if_neg hu, if_pos hs] at h
          cases h
          exact ⟨a, rest, hr, he, by simpa using hu, hs⟩
        · rw [if_neg hu, if_neg hs] at h
          cases h
    · obtain ⟨m, hm⟩ := interpret_of_malformed hr
      rw [hm] at h
      cases h
  · rintro ⟨a, rest, hr, he, hu, hs⟩
    rw [interpret_of_errors_cons hr he, if_neg (by simp [hu]), if_pos hs]

theorem interpret_transport_iff (r : Response) :
    (∃ msg, interpret r = .error (.transport msg)) ↔ (¬∃ a, Reads r a) ∨ ∃ a, Reads r a ∧
      ((a.errors = [] ∧ ¬(200 ≤ r.status ∧ r.status ≤ 299) ∧ r.status ≠ 404) ∨
        ∃ e rest, a.errors = e :: rest ∧ isUnknownTransactionCode e.code = false ∧
          (r.status = 404 ∨ 500 ≤ r.status)) := by
  constructor
  · rintro ⟨msg, h⟩
    by_cases hr : ∃ a, Reads r a
    · obtain ⟨a, hr⟩ := hr
      refine .inr ⟨a, hr, ?_⟩
      cases he : a.errors with
      | nil =>
        rw [interpret_of_errors_nil hr he] at h
        by_cases hok : 200 ≤ r.status ∧ r.status ≤ 299
        · rw [if_pos hok] at h
          cases h
        by_cases h404 : r.status = 404
        · rw [if_neg hok, if_pos h404] at h
          cases h
        · exact .inl ⟨rfl, hok, h404⟩
      | cons e rest =>
        rw [interpret_of_errors_cons hr he] at h
        by_cases hu : isUnknownTransactionCode e.code = true
        · rw [if_pos hu] at h
          cases h
        by_cases hs : r.status ≠ 404 ∧ r.status < 500
        · rw [if_neg hu, if_pos hs] at h
          cases h
        · exact .inr ⟨e, rest, rfl, by simpa using hu, by omega⟩
    · exact .inl hr
  · rintro (hr | ⟨a, hr, ⟨he, hok, h404⟩ | ⟨e, rest, he, hu, hs⟩⟩)
    · exact interpret_of_malformed hr
    · rw [interpret_of_errors_nil hr he, if_neg hok, if_neg h404]
      exact ⟨_, rfl⟩
    · rw [interpret_of_errors_cons hr he, if_neg (by simp [hu]), if_neg (by omega)]
      exact ⟨_, rfl⟩

/-- **How an answer is judged.** A body reads as an answer exactly when it is null or decodes.
Whatever the response, `interpret` accepts it exactly when its body reads with no errors under a
2xx status, handing on the body's results in order with the row of every data entry and the
response's location; says the transaction is unknown exactly when the body reads and its first
error's code says so, or it has no errors under a 404; refuses a statement with the first error
exactly when that code is not about an unknown transaction and the status is neither 404 nor 500
or above; and reports a transport failure in every other case. -/
theorem answer_verdicts (r : Response) :
    ((∃ a, Reads r a) ↔ r.body.isNull = true ∨ ∃ b, answerShape.decode r.body = .ok b) ∧
    ((∃ acc, interpret r = .ok acc) ↔
      ∃ a, Reads r a ∧ a.errors = [] ∧ 200 ≤ r.status ∧ r.status ≤ 299) ∧
    (∀ acc, interpret r = .ok acc →
      ∃ a, Reads r a ∧ acc.results = a.results.map WireResult.toResult ∧ acc.location = r.location) ∧
    (interpret r = .error .unknownTransaction ↔ ∃ a, Reads r a ∧
      ((∃ e rest, a.errors = e :: rest ∧ isUnknownTransactionCode e.code = true) ∨
        (a.errors = [] ∧ r.status = 404))) ∧
    (∀ c m, interpret r = .error (.statement c m) ↔ ∃ a rest, Reads r a ∧
      a.errors = ⟨c, m⟩ :: rest ∧ isUnknownTransactionCode c = false ∧ r.status ≠ 404 ∧
        r.status < 500) ∧
    ((∃ msg, interpret r = .error (.transport msg)) ↔ (¬∃ a, Reads r a) ∨ ∃ a, Reads r a ∧
      ((a.errors = [] ∧ ¬(200 ≤ r.status ∧ r.status ≤ 299) ∧ r.status ≠ 404) ∨
        ∃ e rest, a.errors = e :: rest ∧ isUnknownTransactionCode e.code = false ∧
          (r.status = 404 ∨ 500 ≤ r.status))) :=
  ⟨exists_reads_iff r, interpret_ok_iff r, fun _ h => interpret_ok_results h,
    interpret_unknown_iff r, interpret_statement_iff r, interpret_transport_iff r⟩

end TxnCoord.Http

/-! ## The driver's reading of a code -/

namespace TxnCoord

/-- A text ends with another exactly when its characters end with the other's. -/
theorem endsWith_iff_suffix (s p : String) : s.endsWith p = true ↔ p.toList <:+ s.toList := by
  rw [String.endsWith, String.Slice.endsWith_string_iff, String.copy_toSlice]

namespace DriverFault

/-- The answer's list of codes for an unknown transaction is the driver's and one more. -/
theorem answer_unknown_eq (c : String) :
    Http.isUnknownTransactionCode c =
      (isUnknownTransactionCode c || c.endsWith "Request.UnknownTransaction") := by
  unfold Http.isUnknownTransactionCode isUnknownTransactionCode
  cases c.endsWith "Transaction.UnknownId" <;> cases c.endsWith "Transaction.TransactionNotFound" <;> rfl

/-- A code that ends in `Request.UnknownTransaction` ends in no suffix of the driver's list: two
suffixes of one code are suffixes of each other, and none of these three is of another. -/
theorem unknown_of_request {c : String} (h : c.endsWith "Request.UnknownTransaction" = true) :
    isUnknownTransactionCode c = false := by
  have hreq := (endsWith_iff_suffix c _).1 h
  unfold isUnknownTransactionCode
  cases hnf : c.endsWith "Transaction.TransactionNotFound"
  · cases hid : c.endsWith "Transaction.UnknownId"
    · rfl
    · rcases List.suffix_or_suffix_of_suffix hreq ((endsWith_iff_suffix c _).1 hid) with hs | hs <;>
        exact absurd hs (by decide)
  · rcases List.suffix_or_suffix_of_suffix hreq ((endsWith_iff_suffix c _).1 hnf) with hs | hs <;>
      exact absurd hs (by decide)

/-- A driver failure with a server code closes the transaction exactly when the answer's reading
of the code says the transaction is unknown and the code does not end in
`Request.UnknownTransaction`; any other code is a refused statement with the failure's message,
and a failure with no code is a transport failure. -/
theorem toError_server (c m : String) :
    (toError ⟨some c, m⟩ = TxError.expired ↔
      Http.isUnknownTransactionCode c = true ∧ c.endsWith "Request.UnknownTransaction" = false) ∧
    (toError ⟨some c, m⟩ ≠ TxError.expired → toError ⟨some c, m⟩ = .statement c m) ∧
    toError ⟨none, m⟩ = .transport m := by
  refine ⟨?_, fun hne => ?_, rfl⟩
  · rw [answer_unknown_eq]
    by_cases hd : isUnknownTransactionCode c = true
    · -- a code of the driver's list ends in no other suffix of the answer's
      have hreq : c.endsWith "Request.UnknownTransaction" = false := by
        cases hr : c.endsWith "Request.UnknownTransaction"
        · rfl
        · rw [unknown_of_request hr] at hd
          cases hd
      simp [toError, hd, hreq]
    · simp only [Bool.not_eq_true] at hd
      simp [toError, hd, TxError.expired]
  · simp only [toError] at hne ⊢
    split
    · exact absurd (if_pos ‹_›) hne
    · rfl

end DriverFault

/-- A server code ending in `Request.UnknownTransaction` closes the transaction in an answer,
and is a refused statement from a driver. -/
theorem request_code_refused_by_driver :
    let c := "Neo.ClientError.Request.UnknownTransaction"
    Http.isUnknownTransactionCode c = true ∧
      DriverFault.toError ⟨some c, "gone"⟩ = .statement c "gone" := by
  intro c
  have hreq : c.endsWith "Request.UnknownTransaction" = true := (endsWith_iff_suffix _ _).2 (by decide)
  refine ⟨by rw [DriverFault.answer_unknown_eq, hreq, Bool.or_true], ?_⟩
  simp [DriverFault.toError, DriverFault.unknown_of_request hreq]

end TxnCoord
