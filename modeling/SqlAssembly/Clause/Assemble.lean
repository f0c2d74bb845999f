import SqlAssembly.Clause.Condition

/-! Assembling clauses. Raw input is put behind its clause's keyword unless it carries the keyword
already, structured input is rendered, and absent or empty input leaves the clause out.
-/

namespace SqlAssembly

/-- A clause with its input, which may be absent. -/
inductive Clause where
  | select (columns : Option Columns)
  | filter (filter : Option Filter)
  | order (terms : Option SortOrder)
  | limit (window : Option Limit)
  | forUpdate (lock : Option Lock)
  | groupBy (fields : Option Text)
  | update (assignments : Option Assignments)
  | insert (values : Option InsertValues)
  | batchInsert (rows : Option BatchRows)

namespace Clause

/-- The projection; every column unless some are named. -/
def selectText : Option Columns → Text
  | some (.raw sql) => if Text.isBlankText sql then "select *" else Text.withKeyword sql "select"
  | some (.structured (column :: columns)) =>
      "select ".toList ++ Text.join "," (column :: columns)
  | _ => "select *"

def directionText : Direction → Text
  | .ascending => "asc"
  | .descending => "desc"

def orderText : Option SortOrder → Text
  | some (.raw sql) => Text.withKeyword sql "order by"
  | some (.structured (term :: terms)) =>
      "order by ".toList
        ++ Text.join "," ((term :: terms).map fun t => t.field ++ ' ' :: directionText t.direction)
  | _ => []

def limitText : Option Limit → Text
  | some (.raw sql) => Text.withKeyword sql "limit"
  | some (.structured window) =>
      "limit ".toList ++ Text.ofNat window.offset ++ ", ".toList ++ Text.ofNat window.count
  | none => []

def lockText : Option Lock → Text
  | some (.raw sql) => Text.withKeyword sql "for update"
  | some (.structured true) => "for update"
  | _ => []

def groupByText : Option Text → Text
  | some sql => Text.withKeyword sql "group by"
  | none => []

/-- The assignments of an update; nulls are left out. -/
def updateText : Option Assignments → Text
  | some (.raw sql) => Text.withKeyword sql "set"
  | some (.structured values) =>
      if values.nonNull.isEmpty then []
      else "set ".toList ++ Text.join ", " (Literal.assignments values)
  | none => []

/-- The columns and values of an insert; nulls are left out. -/
def insertText : Option InsertValues → Text
  | some (.raw sql) => Text.trim sql
  | some (.structured values) =>
      if values.nonNull.isEmpty then []
      else
        "(".toList ++ Text.join "," (values.nonNull.map (·.1)) ++ ") values (".toList
          ++ Text.join "," (values.nonNull.map fun (_, value) => Literal.quote value)
          ++ ")".toList
  | none => []

/-- One value of a batch, where falsy values become null. -/
def batchCell (value : Json) : Text :=
  if Literal.isFalsy value then "NULL" else Literal.quote value

def batchRow (row : List Json) : Text :=
  "(".toList ++ Text.join "," (row.map batchCell) ++ ")".toList

/-- The columns and rows of a batch insert. -/
def batchText : Option BatchRows → Text
  | some batch =>
      if batch.columns.isEmpty || batch.rows.isEmpty then []
      else
        "(".toList ++ Text.join "," batch.columns ++ ") values ".toList
          ++ Text.join "," (batch.rows.map batchRow)
  | none => []

/-- The text of a clause, empty when it is left out. -/
def assemble : Clause → Text
  | select columns => selectText columns
  | filter f => Filter.clause f
  | order terms => orderText terms
  | limit window => limitText window
  | forUpdate lock => lockText lock
  | groupBy fields => groupByText fields
  | update assignments => updateText assignments
  | insert values => insertText values
  | batchInsert rows => batchText rows

end Clause

end SqlAssembly
