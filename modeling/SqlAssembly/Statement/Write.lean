import SqlAssembly.Statement.Read

/-! Statements that write. An update needs an assignment, an insert a column and a batch rows of
one width, so that no statement is rendered that would do something else than asked.
-/

namespace SqlAssembly

/-- An update of the rows that a filter selects. -/
structure Update where
  table : Text
  set : Option Assignments := none
  filter : Option Filter := none

/-- A deletion of the rows that a filter selects. -/
structure Delete where
  table : Text
  filter : Option Filter := none

structure Insert where
  table : Text
  values : Option InsertValues := none

/-- What an insert does about rows that exist: fail, skip them, or update them. Without explicit
assignments an update refreshes every inserted column.
-/
inductive InsertMode where
  | plain
  | ignore
  | updateDuplicate (set : Option Assignments)

structure BatchInsert where
  table : Text
  batch : BatchRows

/-- An update of the row that criteria select, or an insert when there is none. -/
structure UpdateOrInsert where
  table : Text
  values : Values
  criteria : Criteria := .empty

def Update.toSql (s : Update) : Except ParamError Text := do
  let table ← requireTable s.table
  let set := (Clause.update s.set).assemble
  if set.isEmpty then .error .updateEmpty
  else .ok (Text.joinParts ["update", table, set, (Clause.filter s.filter).assemble])

def Delete.toSql (s : Delete) : Except ParamError Text := do
  let table ← requireTable s.table
  .ok (Text.joinParts ["delete from", table, (Clause.filter s.filter).assemble])

namespace Insert

def duplicateKeyword : Text := "on duplicate key update"

/-- The duplicate-key clause of the given assignments, of which there must be one. -/
def duplicateAssignments (assignments : List Text) : Except ParamError Text :=
  if assignments.isEmpty then .error .duplicateKeyEmpty
  else .ok (duplicateKeyword ++ ' ' :: Text.join ", " assignments)

/-- The assignment of a column to the value that would have been inserted. -/
def refresh (column : Text) : Text :=
  column ++ " = values(".toList ++ column ++ ")".toList

/-- The duplicate-key clause of an insert. -/
def duplicateClause (s : Insert) : Option Assignments → Except ParamError Text
  | some (.raw sql) => .ok (Text.withKeyword sql duplicateKeyword)
  | some (.structured values) => duplicateAssignments (Literal.assignments values)
  | none =>
      match s.values with
      | some (.structured values) =>
          duplicateAssignments (values.nonNull.map fun (column, _) => refresh column)
      | _ => .error .duplicateKeyUnassigned

/-- The words that open an insert. -/
def opening : InsertMode → Text
  | .ignore => "insert ignore into"
  | _ => "insert into"

/-- The clause that closes an insert. -/
def closing (s : Insert) : InsertMode → Except ParamError Text
  | .updateDuplicate set => s.duplicateClause set
  | _ => .ok []

def toSql (s : Insert) (mode : InsertMode) : Except ParamError Text := do
  let table ← requireTable s.table
  let body := (Clause.insert s.values).assemble
  if body.isEmpty then .error .insertEmpty
  else
    let tail ← s.closing mode
    .ok (Text.joinParts [opening mode, table, body, tail])

end Insert

def BatchInsert.toSql (s : BatchInsert) : Except ParamError Text := do
  let table ← requireTable s.table
  match s.batch.rows.find? fun row => row.length != s.batch.columns.length with
  | some row => .error (.batchRowWidth row.length s.batch.columns.length)
  | none =>
      let body := (Clause.batchInsert (some s.batch)).assemble
      if body.isEmpty then .error .batchEmpty
      else .ok (Text.joinParts ["insert into", table, body])

namespace UpdateOrInsert

/-- There is a table, and a value to write. -/
def validate (s : UpdateOrInsert) : Except ParamError Unit := do
  let _ ← requireTable s.table
  if s.values.nonNull.isEmpty then .error .upsertEmpty else .ok ()

/-- The select that looks for the row. -/
def lookup (s : UpdateOrInsert) : Select where
  table := s.table
  columns := some (.raw "id")
  filter := some (.structured s.criteria)
  limit := some (.structured ⟨0, 1⟩)

/-- The update of the row that was found. -/
def update (s : UpdateOrInsert) : Update where
  table := s.table
  set := some (.structured s.values)
  filter := some (.structured s.criteria)

/-- The values of the row that is inserted when none was found: the values to write, overwritten
by those that the criteria ask a field to equal.
-/
def insertedValues (s : UpdateOrInsert) : Values :=
  s.criteria.scalars.foldl (fun values (field, value) => values.insert field value) s.values

/-- The insert when no row was found. -/
def insert (s : UpdateOrInsert) : Insert where
  table := s.table
  values := some (.structured s.insertedValues)

end UpdateOrInsert

end SqlAssembly
