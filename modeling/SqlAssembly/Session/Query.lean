import SqlAssembly.Session.Transaction
import SqlAssembly.Statement.Write

/-! Running statements. The guard is asked first and once; a statement that it denies has an empty
outcome. Then the statement is rendered, logged and executed, in that order, and the driver's
output is read in the shape that the operation promises.
-/

namespace SqlAssembly

/-- Whether a statement runs at all: decided beforehand, or by a check at the time of running. -/
inductive Guard where
  | flag (allowed : Bool)
  | check (allowed : Bool)

/-- On what terms a statement runs: under which guard, and in which transaction. -/
structure Terms where
  guard : Option Guard := none
  transaction : Option TransactionId := none

namespace Session

variable {δ : Type}

/-- Ask a guard. Only the answer of a check is something that happened. -/
def allows : Option Guard → SessionM δ Bool
  | none => return true
  | some (.flag allowed) => return allowed
  | some (.check allowed) => do
      record (.guard allowed)
      return allowed

/-- (guarded terms default action) is the action if the guard allows it, else the default. -/
def guarded {α : Type} (terms : Terms) (default : α) (action : Action δ α) : Action δ α := do
  if ← (allows terms.guard : SessionM δ Bool) then action else return default

/-- The text of a statement; what is wrong with its parameters is the action's failure. -/
def render (sql : Except ParamError Text) : Action δ Text :=
  ExceptT.mk (return sql.mapError .param)

variable [Driver δ]

/-- Log a statement, then execute it. -/
def execute (e : Execution) : Action δ QueryOutput := do
  (log (.statement e.sql e.type e.transaction) : SessionM δ Unit)
  ExceptT.mk (call (fun _ => .execute e) (Driver.execute e))

/-- Render, log and execute a statement of the given category. -/
def perform (type : StatementType) (sql : Except ParamError Text) (terms : Terms)
    : Action δ QueryOutput := do
  let text ← render sql
  execute { sql := text, type := type, transaction := terms.transaction }

def select (s : Select) (terms : Terms) : Action δ (List Row) :=
  guarded terms [] do return (← perform .select s.toSql terms).rowList

/-- The first row of a select, if there is one. -/
def selectOne (s : Select) (terms : Terms) : Action δ (Option Row) := do
  return (← select s terms).head?

/-- The column that a sum is returned in. -/
def sumColumn : Text := "sum"

/-- The column that a count is returned in. -/
def countColumn : Text := "count"

/-- The text of a sum: zero when there is no row or no value. -/
def sumText (rows : List Row) : Text :=
  match rows.head?.bind fun row => row.get? sumColumn with
  | none => "0"
  | some .null => "0"
  | some (.text s) => s
  | some value => value.compact

/-- The digits of a text, after at most one plus sign. -/
def plainDigits (s : Text) : Text :=
  match s with
  | '+' :: digits => digits
  | digits => digits

/-- The natural number of 64 bits that a text stands for. -/
def naturalOfText? (s : Text) : Option Nat :=
  let digits := plainDigits s
  if digits.isEmpty || !digits.all Char.isDigit then none
  else
    let n := digits.foldl (fun n c => 10 * n + (c.toNat - 48)) 0
    if n ≤ Number.naturalLimit then some n else none

/-- The natural number that a value is, or that its text stands for. -/
def naturalOf? : Json → Option Nat
  | .number n => n.natural?
  | .text s => naturalOfText? (Text.trim s)
  | _ => none

/-- The count in the first row, zero when there is none. -/
def countNumber (rows : List Row) : Nat :=
  ((rows.head?.bind fun row => row.get? countColumn).bind naturalOf?).getD 0

def sum (s : Sum) (terms : Terms) : Action δ Text :=
  guarded terms "0" do return sumText (← perform .select s.toSql terms).rowList

def count (s : Count) (terms : Terms) : Action δ Nat :=
  guarded terms 0 do return countNumber (← perform .select s.toSql terms).rowList

def joinSelect (s : JoinSelect) (terms : Terms) : Action δ (List Row) :=
  guarded terms [] do return (← perform .select s.toSql terms).rowList

def update (s : Update) (terms : Terms) : Action δ Nat :=
  guarded terms 0 do return (← perform .update s.toSql terms).affectedRows

def delete (s : Delete) (terms : Terms) : Action δ Nat :=
  guarded terms 0 do return (← perform .delete s.toSql terms).affectedRows

/-- The outcome of an insert, none when the guard denied it. -/
def insert (s : Insert) (mode : InsertMode) (terms : Terms) : Action δ (Option InsertResult) :=
  guarded terms none do return some (← perform .insert (s.toSql mode) terms).asInsert

/-- The outcome of a batch insert, none when the guard denied it. -/
def batchInsert (s : BatchInsert) (terms : Terms) : Action δ (Option InsertResult) :=
  guarded terms none do return some (← perform .insert s.toSql terms).asInsert

/-- The select that reads the row with the given key back. -/
def fetchById (table : Text) (id : Nat) : Select where
  table := table
  filter := some (.raw ("id = ".toList ++ Text.ofNat id))
  limit := some (.structured ⟨0, 1⟩)

/-- Insert a row, then read it back by its generated key. -/
def insertAndFetch (s : Insert) (terms : Terms) : Action δ (Option Row) := do
  match (← insert s .plain terms).bind (·.insertId) with
  | none => return none
  | some id => selectOne (fetchById s.table id) { transaction := terms.transaction }

end Session

end SqlAssembly
