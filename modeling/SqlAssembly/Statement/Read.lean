import SqlAssembly.Clause.Assemble

/-! Statements that read. Each names its table, carries its clause inputs and renders itself as
one line of SQL, or says which required part is missing.
-/

namespace SqlAssembly

/-- A table name without surrounding blanks; it must not be blank. -/
def requireTable (table : Text) : Except ParamError Text :=
  let name := Text.trim table
  if name.isEmpty then .error .tableMissing else .ok name

structure Select where
  table : Text
  columns : Option Columns := none
  filter : Option Filter := none
  groupBy : Option Text := none
  order : Option SortOrder := none
  limit : Option Limit := none
  lock : Option Lock := none

/-- The sum of an expression over a table. -/
structure Sum where
  expression : Text
  table : Text
  filter : Option Filter := none

/-- The number of rows of a table. -/
structure Count where
  table : Text
  filter : Option Filter := none

/-- A select from two tables joined on one field of each. -/
structure JoinSelect where
  table : Text
  other : Option Text := none
  on : Option (Text × Text) := none
  join : Option Text := none
  columns : Option Columns := none
  filter : Option Filter := none
  order : Option SortOrder := none
  limit : Option Limit := none
  lock : Option Lock := none

def Select.toSql (s : Select) : Except ParamError Text := do
  let table ← requireTable s.table
  .ok (Text.joinParts [
    (Clause.select s.columns).assemble,
    "from",
    table,
    (Clause.filter s.filter).assemble,
    (Clause.groupBy s.groupBy).assemble,
    (Clause.order s.order).assemble,
    (Clause.limit s.limit).assemble,
    (Clause.forUpdate s.lock).assemble])

def Sum.toSql (s : Sum) : Except ParamError Text := do
  let table ← requireTable s.table
  let expression := Text.trim s.expression
  if expression.isEmpty then .error .sumExpressionMissing
  else
    .ok (Text.joinParts [
      "select sum(".toList ++ expression ++ ") as sum from".toList,
      table,
      (Clause.filter s.filter).assemble])

def Count.toSql (s : Count) : Except ParamError Text := do
  let table ← requireTable s.table
  .ok (Text.joinParts [
    "select count(*) as count from",
    table,
    (Clause.filter s.filter).assemble])

/-- A text without surrounding blanks, if it is given and not blank. -/
def givenText? (s : Option Text) : Option Text :=
  (s.map Text.trim).filter (!·.isEmpty)

/-- The two tables, the joining keyword and the two fields of a joined select, trimmed, if all of
them are given.
-/
def JoinSelect.parts? (s : JoinSelect) : Option (Text × Text × Text × Text × Text) := do
  let table ← givenText? (some s.table)
  let other ← givenText? s.other
  let join ← givenText? s.join
  let (field, otherField) ← s.on
  let field ← givenText? (some field)
  let otherField ← givenText? (some otherField)
  some (table, other, join, field, otherField)

def JoinSelect.toSql (s : JoinSelect) : Except ParamError Text :=
  match s.parts? with
  | none => .error .joinIncomplete
  | some (table, other, join, field, otherField) =>
      .ok (Text.joinParts [
        (Clause.select s.columns).assemble,
        "from",
        table,
        join,
        other,
        "on ".toList ++ table ++ '.' :: field ++ " = ".toList ++ other ++ '.' :: otherField,
        (Clause.filter s.filter).assemble,
        (Clause.order s.order).assemble,
        (Clause.limit s.limit).assemble,
        (Clause.forUpdate s.lock).assemble])

end SqlAssembly
