import SqlAssembly.Clause.Fragment
import SqlAssembly.Driver.Basic
import SqlAssembly.Sqlite.Expression

/-! The commands that a database understands, over its one table of keys and values. The key of a
new row is the largest key plus one unless it is given, and a command that would break the
uniqueness of keys changes nothing.
-/

namespace SqlAssembly.Sqlite

abbrev Table := List Record

/-- What a query returns for a row, or for all of them together. -/
inductive Item where
  | everything
  | value (e : Expression) (name : Text)
  | count (name : Text)
  | sum (e : Expression) (name : Text)

/-- A query. Without the table it has one row that no column can be read from. -/
structure Query where
  items : List Item
  inTable : Bool
  condition : Option Expression
  order : List (Expression × Direction)
  window : Option Window

inductive Change where
  | insert (columns : List Column) (rows : List (List Expression))
  | update (assignments : List (Column × Expression)) (condition : Option Expression)
  | delete (condition : Option Expression)

inductive Command where
  | query (q : Query)
  | change (c : Change)
  | begin
  | commit
  | rollback

/-- The record before any row is read. -/
def Record.empty : Record := ⟨0, .null⟩

namespace Item

def isTotal : Item → Bool
  | everything => false
  | value _ _ => false
  | count _ => true
  | sum _ _ => true

/-- The columns that an item adds to the result of one row. -/
def addRow (r : Record) (row : Row) : Item → Option Row
  | everything =>
      some (Column.all.foldl (fun row c => row.insert c.text (r.get c).decode) row)
  | value e name => some (row.insert name (e.eval r).decode)
  | _ => none

/-- The sum of values; nulls do not count, and without any other value there is no sum. Only
integers are summed.
-/
def total : List Cell → Option Cell
  | [] => some .null
  | cell :: rest => do
      let sum ← total rest
      match cell.asNumber, sum with
      | .null, sum => some sum
      | .integer n, .null => some (.integer n)
      | .integer n, .integer m => if Cell.isInteger (n + m) then some (.integer (n + m)) else none
      | _, _ => none

/-- The column that an item adds to the result of all rows together. -/
def addTotal (records : Table) (row : Row) : Item → Option Row
  | count name => some (row.insert name (.ofNat records.length))
  | sum e name => do some (row.insert name (← total (records.map e.eval)).decode)
  | _ => none

end Item

namespace Query

/-- The order of two records by the given terms, the first that tells them apart. -/
def compareRecords (order : List (Expression × Direction)) (a b : Record) : Ordering :=
  match order with
  | [] => .eq
  | (e, direction) :: rest =>
      let o := (e.eval a).order (e.eval b)
      let o := match direction with
        | .ascending => o
        | .descending => o.swap
      o.then (compareRecords rest a b)

/-- The part of a list that a window shows. -/
def within {α : Type} (window : Option Window) (list : List α) : List α :=
  match window with
  | none => list
  | some w => (list.drop w.offset).take w.count

/-- The records of a query in order, before its window. -/
def records (q : Query) (table : Table) : Table :=
  let all := if q.inTable then table else [Record.empty]
  (all.filter (Expression.holds q.condition)).mergeSort fun a b =>
    (compareRecords q.order a b).isLE

/-- The rows of a query, or none when it cannot be answered. -/
def run (q : Query) (table : Table) : Option (List Row) := do
  let records := q.records table
  if q.items.any Item.isTotal then
    let row ← q.items.foldlM (Item.addTotal records) []
    some (within q.window [row])
  else
    (within q.window records).mapM fun r => q.items.foldlM (Item.addRow r) []

end Query

namespace Table

/-- The rows with one more at the place of its key. -/
def insertRecord (r : Record) : Table → Table
  | [] => [r]
  | first :: rest => if r.id < first.id then r :: first :: rest else first :: insertRecord r rest

/-- The rows with one more, unless its key is taken. -/
def add? (r : Record) (table : Table) : Option Table :=
  if table.any (·.id == r.id) then none else some (insertRecord r table)

/-- The key of a new row. -/
def nextId (table : Table) : Int :=
  match table.getLast? with
  | some r => r.id + 1
  | none => 1

/-- The key that a value stands for; null stands for a new one. -/
def key? (value : Cell) (table : Table) : Option Int :=
  match value.asNumber with
  | .null => some (nextId table) |>.filter Cell.isInteger
  | .integer n => some n
  | _ => none

/-- What one row of an insert gives for a column, null if nothing. -/
def given (columns : List Column) (values : List Expression) (c : Column) : Cell :=
  match (columns.zip values).lookup c with
  | some e => e.eval Record.empty
  | none => .null

/-- Insert one row. The answer is its key and the rows with it. -/
def insertRow? (columns : List Column) (values : List Expression) (table : Table)
    : Option (Int × Table) := do
  let id ← key? (given columns values .id) table
  let table ← add? ⟨id, given columns values .value⟩ table
  some (id, table)

/-- Insert rows one after the other. The answer is the last key and the rows with them. -/
def insertRows? (columns : List Column) : List (List Expression) → Int → Table
    → Option (Int × Table)
  | [], last, table => some (last, table)
  | values :: rest, _, table => do
      let (id, table) ← insertRow? columns values table
      insertRows? columns rest id table

/-- A row after one assignment, whose value comes from the row before all of them. -/
def assign? (before : Record) (r : Record) (assignment : Column × Expression)
    : Option Record :=
  let value := assignment.2.eval before
  match assignment.1, value.asNumber with
  | .value, _ => some { r with value := value }
  | .id, .integer n => some { r with id := n }
  | .id, _ => none

def updateRow? (assignments : List (Column × Expression)) (table : Table) (r : Record)
    : Option Table := do
  let updated ← assignments.foldlM (assign? r) r
  add? updated (table.filter (·.id != r.id))

end Table

/-- What a change came to: the key of the last row inserted, if it inserts, the number of rows,
and the rows that are left.
-/
structure Changed where
  lastId : Option Int
  count : Nat
  table : Table

/-- Make a change, or nothing at all when a part of it cannot be made. -/
def Change.run (c : Change) (table : Table) : Option Changed :=
  match c with
  | .insert columns rows =>
      (Table.insertRows? columns rows 0 table).map fun (id, table) => ⟨some id, rows.length, table⟩
  | .update assignments condition =>
      let matching := table.filter (Expression.holds condition)
      (matching.foldlM (Table.updateRow? assignments) table).map fun table =>
        ⟨none, matching.length, table⟩
  | .delete condition =>
      let (gone, left) := table.partition (Expression.holds condition)
      some ⟨none, gone.length, left⟩

end SqlAssembly.Sqlite
