import SqlAssembly.Proofs.Statement.InsertBody
import SqlAssembly.Proofs.Statement.Lines
import SqlAssembly.Proofs.Statement.OrderedValues

/-! Inserts decode to what was given. The body of an insert is read as its columns and its row, that
of a batch as its columns and all its rows, and a batch of one row is the insert of that row.
-/

namespace SqlAssembly

open Reading (Ends valueText)

-----------------------------------------------------------------------------------------
-- Cells
-----------------------------------------------------------------------------------------

/-- A batch has no literal for null, false, a zero of any kind and the empty text. -/
inductive Json.Falsy : Json → Prop
  | null : Falsy .null
  | false : Falsy (.bool false)
  | natural : Falsy (.number (.natural 0))
  | negative : Falsy (.number (.negative 0))
  | real (sign : Bool) (exponent : Int) : Falsy (.number (.real ⟨sign, 0, exponent⟩))
  | empty : Falsy (.text [])

theorem Json.falsy_iff {value : Json} : value.Falsy ↔ Literal.isFalsy value = true := by
  constructor
  · intro falsy
    cases falsy <;> rfl
  · intro falsy
    cases value with
    | null => exact .null
    | bool b =>
        cases b with
        | false => exact .false
        | true => exact absurd falsy (by decide)
    | number n =>
        cases n with
        | natural n =>
            obtain rfl : n = 0 := by simpa [Literal.isFalsy, Number.isZero] using falsy
            exact .natural
        | negative n =>
            obtain rfl : n = 0 := by simpa [Literal.isFalsy, Number.isZero] using falsy
            exact .negative
        | real x =>
            obtain ⟨sign, mantissa, exponent⟩ := x
            obtain rfl : mantissa = 0 := by
              simpa [Literal.isFalsy, Number.isZero, Binary64.isZero] using falsy
            exact .real sign exponent
    | text s =>
        obtain rfl : s = [] := by simpa [Literal.isFalsy] using falsy
        exact .empty
    | array | object => exact absurd falsy Bool.false_ne_true

theorem Json.isNull_of_truthy {value : Json} (truthy : ¬value.Falsy) : value.isNull = false := by
  cases value with
  | null => exact absurd .null truthy
  | bool | number | text | array | object => rfl

/-- What a reader finds where a batch has the value. -/
def Cell.ofValue (value : Json) : Cell :=
  if Literal.isFalsy value then missing else literal (valueText value)

theorem Cell.ofValue_falsy {value : Json} (falsy : value.Falsy) : ofValue value = missing := by
  rw [ofValue, if_pos (Json.falsy_iff.mp falsy)]

theorem Cell.ofValue_truthy {value : Json} (truthy : ¬value.Falsy)
    : ofValue value = literal (valueText value) := by
  rw [ofValue, if_neg (mt Json.falsy_iff.mpr truthy)]

theorem Cell.ofValue_eq_missing_iff {value : Json} : ofValue value = missing ↔ value.Falsy := by
  refine ⟨fun found => ?_, ofValue_falsy⟩
  by_contra truthy
  rw [ofValue_truthy truthy] at found
  cases found

theorem Clause.batchCell_eq (value : Json) : batchCell value = (Cell.ofValue value).text := by
  by_cases falsy : value.Falsy
  · rw [Cell.ofValue_falsy falsy, batchCell, if_pos (Json.falsy_iff.mp falsy)]
    rfl
  · rw [Cell.ofValue_truthy falsy, batchCell, if_neg (mt Json.falsy_iff.mpr falsy)]
    exact Reading.quote_eq (Json.isNull_of_truthy falsy)

-----------------------------------------------------------------------------------------
-- Bodies
-----------------------------------------------------------------------------------------

/-- The body that the values are written as: their columns, and one row of their literals. -/
def Values.body (values : Values) : InsertBody :=
  ⟨values.map (·.1), [values.map fun (_, value) => .literal (valueText value)]⟩

/-- The body that a batch is written as. -/
def BatchRows.body (batch : BatchRows) : InsertBody :=
  ⟨batch.columns, batch.rows.map (·.map Cell.ofValue)⟩

/-- An insert has a body when a value is not null, and the nulls are left out of it. -/
theorem Clause.insertText_eq {values : Values} (given : values.nonNull ≠ [])
    : insertText (some (.structured values)) = values.nonNull.body.text := by
  have literals
      : (values.nonNull.map fun (_, value) => Literal.quote value)
        = (values.nonNull.map fun (_, value) => Cell.literal (valueText value)).map
            Cell.text := by
    rw [List.map_map]
    exact List.map_congr_left fun entry member =>
      Reading.quote_eq (Values.mem_nonNull.mp member).2
  change (if values.nonNull.isEmpty then [] else _) = _
  rw [if_neg (by simpa using given), literals]
  simp [InsertBody.text, Values.body, InsertBody.rowText, Text.join]

/-- A batch has a body when it has columns and rows. -/
theorem Clause.batchText_eq {batch : BatchRows} (columns : batch.columns ≠ [])
    (rows : batch.rows ≠ [])
    : batchText (some batch) = batch.body.text := by
  have cells (row : List Json) : batchRow row = InsertBody.rowText (row.map Cell.ofValue) := by
    have each : batchCell = Cell.text ∘ Cell.ofValue := funext batchCell_eq
    rw [batchRow, InsertBody.rowText, List.map_map, each]
  have present : (batch.columns.isEmpty || batch.rows.isEmpty) = false := by
    simp [columns, rows]
  have each : batchRow = InsertBody.rowText ∘ List.map Cell.ofValue := funext cells
  rw [batchText, present, if_neg Bool.false_ne_true, InsertBody.text, BatchRows.body,
    List.map_map, each]

/-- Without falsy values, one row of a batch is written as the values are. -/
theorem BatchRows.body_oneRow {values : Values} (truthy : ∀ entry ∈ values, ¬entry.2.Falsy)
    : body ⟨values.map (·.1), [values.map (·.2)]⟩ = values.body := by
  have cells : (values.map (·.2)).map Cell.ofValue
      = values.map fun (_, value) => .literal (valueText value) := by
    rw [List.map_map]
    exact List.map_congr_left fun entry member => Cell.ofValue_truthy (truthy entry member)
  rw [body, Values.body, List.map_singleton, cells]

namespace InsertBody

/-- A body is trimmed, for it starts and ends with a parenthesis. -/
theorem trim_text {body : InsertBody} (rows : body.rows ≠ [])
    : Text.trim body.text = body.text := by
  have row (r : List Cell) : Ends (rowText r) := Ends.append rfl
  have ends : Ends (Text.join "," (body.rows.map rowText)) :=
    Ends.join ",".toList rows fun r _ => row r
  exact Reading.trim_eq rfl ends.append

theorem text_ne_nil (body : InsertBody) : body.text ≠ [] :=
  List.cons_ne_nil _ _

end InsertBody

-----------------------------------------------------------------------------------------
-- Statements
-----------------------------------------------------------------------------------------

theorem Values.nonNull_of_truthy {values : Values} (truthy : ∀ entry ∈ values, ¬entry.2.Falsy)
    : values.nonNull = values :=
  List.filter_eq_self.mpr fun entry member => by
    simpa using Json.isNull_of_truthy (truthy entry member)

/-- An insert of values is refused when they are all null. -/
theorem Clause.insertText_eq_nil_iff {values : Values}
    : insertText (some (.structured values)) = [] ↔ values.nonNull = [] := by
  constructor
  · intro empty
    by_contra given
    rw [insertText_eq given] at empty
    exact values.nonNull.body.text_ne_nil empty
  · intro none
    simp [insertText, none]

/-- An insert of values is rendered when it has a table and a value that is not null. -/
theorem Insert.toSql_eq_ok_iff {table : Text} {values : Values} {sql : Text}
    : toSql ⟨table, some (.structured values)⟩ .plain = .ok sql
      ↔ Text.trim table ≠ [] ∧ values.nonNull ≠ []
        ∧ sql = insertLine table values.nonNull.body.text := by
  have line (named : Text.trim table ≠ []) (given : values.nonNull ≠ [])
      : toSql ⟨table, some (.structured values)⟩ .plain
        = .ok (insertLine table values.nonNull.body.text) := by
    have body := Clause.insertText_eq given
    have trimmed : Text.trim values.nonNull.body.text = values.nonNull.body.text :=
      InsertBody.trim_text (List.cons_ne_nil _ _)
    rw [← body] at trimmed ⊢
    exact toSql_plain named (mt Clause.insertText_eq_nil_iff.mp given) trimmed
  constructor
  · intro rendered
    have named := Insert.named rendered
    have given := mt Clause.insertText_eq_nil_iff.mpr (Insert.filled rendered)
    exact ⟨named, given, Except.ok.inj (rendered.symm.trans (line named given))⟩
  · rintro ⟨named, given, rfl⟩
    exact line named given

/-- A batch has a table, columns and rows, and every row has a value for each column. -/
structure BatchInsert.Complete (s : BatchInsert) : Prop where
  named : Text.trim s.table ≠ []
  columns : s.batch.columns ≠ []
  rows : s.batch.rows ≠ []
  widths : ∀ row ∈ s.batch.rows, row.length = s.batch.columns.length

namespace BatchInsert

variable {s : BatchInsert} {sql : Text}

theorem body_eq_nil_iff : Clause.batchText (some s.batch) = []
    ↔ s.batch.columns = [] ∨ s.batch.rows = [] := by
  constructor
  · intro empty
    by_contra present
    obtain ⟨columns, rows⟩ := not_or.mp present
    rw [Clause.batchText_eq columns rows] at empty
    exact s.batch.body.text_ne_nil empty
  · rintro (none | none) <;> simp [Clause.batchText, none]

/-- A batch with a table, whose rows have the right width, is one line unless it has no body. -/
theorem toSql_eq (named : Text.trim s.table ≠ [])
    (widths : ∀ row ∈ s.batch.rows, row.length = s.batch.columns.length)
    : s.toSql
      = if (Clause.batchText (some s.batch)).isEmpty then .error .batchEmpty
        else .ok (Text.joinParts
          ["insert into", Text.trim s.table, Clause.batchText (some s.batch)]) := by
  have even : (s.batch.rows.find? fun row => row.length != s.batch.columns.length) = none := by
    rw [List.find?_eq_none]
    exact fun row member => by simp [widths row member]
  rw [toSql, requireTable_ok named]
  simp only [bind, Except.bind, even]
  rfl

theorem toSql_complete (complete : s.Complete)
    : s.toSql = .ok (insertLine s.table s.batch.body.text) := by
  have filled : Clause.batchText (some s.batch) ≠ [] := by
    rw [Ne, body_eq_nil_iff, not_or]
    exact ⟨complete.columns, complete.rows⟩
  have rows : s.batch.body.rows ≠ [] := by simpa [BatchRows.body] using complete.rows
  rw [toSql_eq complete.named complete.widths, if_neg (by simpa using filled),
    Clause.batchText_eq complete.columns complete.rows,
    joinParts_insertLine complete.named (InsertBody.trim_text rows) (InsertBody.text_ne_nil _)]

/-- What is rendered is complete: each of the checks refuses what lacks a part. -/
theorem Complete.of_rendered (rendered : s.toSql = .ok sql) : s.Complete := by
  have named : Text.trim s.table ≠ [] := by
    intro blank
    rw [toSql, requireTable_blank blank] at rendered
    cases rendered
  have widths : ∀ row ∈ s.batch.rows, row.length = s.batch.columns.length := by
    intro row member
    by_contra ragged
    have odd : (s.batch.rows.find? fun row => row.length != s.batch.columns.length) ≠ none := by
      rw [Ne, List.find?_eq_none]
      exact fun even => even row member (by simpa using ragged)
    obtain ⟨first, found⟩ := Option.ne_none_iff_exists'.mp odd
    rw [toSql, requireTable_ok named] at rendered
    simp only [bind, Except.bind, found] at rendered
    cases rendered
  rw [toSql_eq named widths] at rendered
  split at rendered
  · cases rendered
  · next filled =>
      rw [List.isEmpty_iff, body_eq_nil_iff, not_or] at filled
      exact ⟨named, filled.1, filled.2, widths⟩

theorem toSql_eq_ok_iff
    : s.toSql = .ok sql ↔ s.Complete ∧ sql = insertLine s.table s.batch.body.text := by
  constructor
  · intro rendered
    have complete := Complete.of_rendered rendered
    exact ⟨complete, Except.ok.inj (rendered.symm.trans (toSql_complete complete))⟩
  · rintro ⟨complete, rfl⟩
    exact toSql_complete complete

end BatchInsert

-----------------------------------------------------------------------------------------
-- Reading inserts back
-----------------------------------------------------------------------------------------

open InsertBody (IsName read?)

/-- Values of which one is not null are read back as the columns and literals of all that are not.
-/
theorem Values.read?_body {values : Values} (given : values ≠ [])
    (names : ∀ entry ∈ values, IsName entry.1)
    : read? values.body.text = some values.body := by
  refine InsertBody.read?_text ⟨by simpa [body] using given, ?_, List.cons_ne_nil _ _, ?_⟩
  · intro column member
    obtain ⟨entry, known, rfl⟩ := List.mem_map.mp member
    exact names entry known
  · intro row member
    rw [List.mem_singleton.mp member]
    simpa using given

theorem BatchInsert.read?_body {s : BatchInsert} (complete : s.Complete)
    (names : ∀ column ∈ s.batch.columns, IsName column)
    : read? s.batch.body.text = some s.batch.body := by
  refine InsertBody.read?_text
    ⟨complete.columns, names, by simpa [BatchRows.body] using complete.rows, ?_⟩
  intro row member
  obtain ⟨given, known, rfl⟩ := List.mem_map.mp member
  have width : 0 < given.length := by
    rw [complete.widths given known]
    exact List.length_pos_iff.mpr complete.columns
  simpa using List.length_pos_iff.mp width

/-- Inserts decode to what was given: a plain insert to the columns and texts of its values that are
not null, in order, and a batch, which is rendered exactly when it is complete, to its columns and
all its rows. A cell of a batch is missing exactly when its value is falsy, and else the literal of
its text. Without falsy values it makes no difference which of the two a row is inserted by.
-/
structure InsertsDecode : Prop where
  insert
    : ∀ (table : Text) (values : Values),
        Text.trim table ≠ []
        → values.nonNull ≠ []
        → (∀ entry ∈ values.nonNull, IsName entry.1)
        → ∃ body,
            Insert.toSql ⟨table, some (.structured values)⟩ .plain = .ok (insertLine table body)
            ∧ read? body
              = some ⟨values.nonNull.map (·.1),
                  [values.nonNull.map fun (_, value) => .literal (valueText value)]⟩
  accepted : ∀ s : BatchInsert, (∃ sql, s.toSql = .ok sql) ↔ s.Complete
  batch
    : ∀ (s : BatchInsert) (sql : Text),
        s.toSql = .ok sql
        → (∀ column ∈ s.batch.columns, IsName column)
        → ∃ body,
            sql = insertLine s.table body
            ∧ read? body = some ⟨s.batch.columns, s.batch.rows.map (·.map Cell.ofValue)⟩
  missing : ∀ value : Json, Cell.ofValue value = .missing ↔ value.Falsy
  literal : ∀ value : Json, ¬value.Falsy → Cell.ofValue value = .literal (valueText value)
  oneRow
    : ∀ (table : Text) (values : Values),
        (∀ entry ∈ values, ¬entry.2.Falsy)
        → ∀ sql,
            Insert.toSql ⟨table, some (.structured values)⟩ .plain = .ok sql
            ↔ BatchInsert.toSql ⟨table, ⟨values.map (·.1), [values.map (·.2)]⟩⟩ = .ok sql

/-- Inserts decode to what was given. -/
theorem inserts_decode : InsertsDecode where
  insert table values named given names :=
    ⟨values.nonNull.body.text, Insert.toSql_eq_ok_iff.mpr ⟨named, given, rfl⟩,
      Values.read?_body given names⟩
  accepted s := by simp [BatchInsert.toSql_eq_ok_iff]
  batch s sql rendered names := by
    obtain ⟨complete, rfl⟩ := BatchInsert.toSql_eq_ok_iff.mp rendered
    exact ⟨s.batch.body.text, rfl, BatchInsert.read?_body complete names⟩
  missing _ := Cell.ofValue_eq_missing_iff
  literal _ := Cell.ofValue_truthy
  oneRow table values truthy sql := by
    rw [Insert.toSql_eq_ok_iff, BatchInsert.toSql_eq_ok_iff, BatchRows.body_oneRow truthy,
      Values.nonNull_of_truthy truthy, ← and_assoc]
    refine and_congr_left fun _ => ⟨fun ⟨named, given⟩ => ?_, fun complete => ?_⟩
    · exact ⟨named, by simpa using given, List.cons_ne_nil _ _, by simp⟩
    · exact ⟨complete.named, by simpa using complete.columns⟩

end SqlAssembly
