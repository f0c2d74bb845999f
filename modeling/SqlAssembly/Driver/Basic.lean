import SqlAssembly.Placeholder

/-! The seam to a database. A driver executes one statement at a time and knows its transactions
by their ids; what it returns has one of three shapes. A driver is a state with transitions, so
that any pattern of its successes and failures is some driver.
-/

namespace SqlAssembly

/-- The categories of statements. Raw statements are all those of no other category. -/
inductive StatementType where
  | select
  | insert
  | update
  | delete
  | raw
deriving DecidableEq

/-- A result row: its columns with their values, in the order of the projection. -/
abbrev Row := Values

/-- The outcome of an insert: the generated key, if there is one, and the number of rows. -/
structure InsertResult where
  insertId : Option Nat
  affectedRows : Nat

/-- What a driver returns for one statement. -/
inductive QueryOutput where
  | rows (list : List Row)
  | inserted (result : InsertResult)
  | affected (count : Nat)

/-- One statement as it is handed to a driver. -/
structure Execution where
  sql : Text
  type : StatementType
  replacements : Replacements := .none
  transaction : Option TransactionId := none

/-- A database as a state: each call answers and leaves the next state. Releasing discards a
transaction whose last handle is gone; drivers that keep nothing for it have no such call.
-/
class Driver (δ : Type) where
  execute : Execution → δ → Except SqlError QueryOutput × δ
  authenticate : δ → Except SqlError Unit × δ
  beginTransaction : δ → Except SqlError TransactionId × δ
  commit : TransactionId → δ → Except SqlError Unit × δ
  rollback : TransactionId → δ → Except SqlError Unit × δ
  close : δ → Except SqlError Unit × δ
  release? : TransactionId → δ → Option δ

namespace StatementType

def text : StatementType → Text
  | select => "SELECT"
  | insert => "INSERT"
  | update => "UPDATE"
  | delete => "DELETE"
  | raw => "RAW"

/-- Statements of this category only read. -/
def isRead : StatementType → Bool
  | select => true
  | _ => false

end StatementType

namespace QueryOutput

/-- The rows of a select; other outputs have none. -/
def rowList : QueryOutput → List Row
  | .rows list => list
  | _ => []

/-- The number of rows that a statement returned or changed. -/
def affectedRows : QueryOutput → Nat
  | .rows list => list.length
  | .inserted result => result.affectedRows
  | .affected count => count

/-- The outcome of an insert, if the output is one. -/
def insertResult? : QueryOutput → Option InsertResult
  | .inserted result => some result
  | _ => none

/-- The output read as that of an insert: without a key when it is none. -/
def asInsert (output : QueryOutput) : InsertResult :=
  output.insertResult?.getD ⟨none, output.affectedRows⟩

end QueryOutput

end SqlAssembly
