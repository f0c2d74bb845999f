import SqlAssembly.Log.Entry

/-! A session is a driver in use. It keeps the transactions that were begun, how many handles each
of them still has, and a journal of everything that was asked of the driver or logged.
-/

namespace SqlAssembly

/-- A transaction as the session sees it. Its handles share whether it is finished. -/
structure Transaction where
  id : TransactionId
  finished : Bool := false
  handles : Nat := 1

/-- One thing that happened: a call to the driver, a log entry, or the answer of a guard. Of a
commit it is noted whether the driver confirmed it.
-/
inductive Entry where
  | execute (execution : Execution)
  | begin
  | commit (id : TransactionId) (confirmed : Bool)
  | rollback (id : TransactionId)
  | release (id : TransactionId)
  | authenticate
  | close
  | log (entry : LogEntry)
  | guard (answer : Bool)

/-- A driver, the transactions begun on it, and what has happened. -/
structure Session (δ : Type) where
  driver : δ
  transactions : List Transaction := []
  journal : List Entry := []

/-- What a session does. -/
abbrev SessionM (δ : Type) := StateM (Session δ)

/-- What a session does that may fail. The session keeps what happened until then. -/
abbrev Action (δ : Type) := ExceptT SqlError (SessionM δ)

namespace Session

variable {δ : Type}

def record (entry : Entry) : SessionM δ Unit :=
  modify fun s => { s with journal := s.journal ++ [entry] }

def log (entry : LogEntry) : SessionM δ Unit :=
  record (.log entry)

/-- Call the driver, and note the call with what it came to. -/
def call {α : Type} (entry : α → Entry) (transition : δ → α × δ) : SessionM δ α :=
  modifyGet fun s =>
    let (answer, driver) := transition s.driver
    (answer, { s with driver := driver, journal := s.journal ++ [entry answer] })

def transaction? (s : Session δ) (id : TransactionId) : Option Transaction :=
  s.transactions.find? (·.id == id)

/-- A transaction is finished once it was committed or rolled back. -/
def isFinished (s : Session δ) (id : TransactionId) : Bool :=
  (s.transaction? id).all (·.finished)

/-- Change the transaction with the given id. -/
def updateTransaction (id : TransactionId) (change : Transaction → Transaction)
    : SessionM δ Unit :=
  modify fun s =>
    { s with transactions := s.transactions.map fun t => if t.id == id then change t else t }

def description : Text :=
  "SqlHelper \x7b .. \x7d"

end Session

def Transaction.description (t : Transaction) : Text :=
  "Transaction \x7b id: TransactionId(".toList ++ Text.shown t.id ++ "), finished: ".toList
    ++ Json.boolText t.finished ++ " \x7d".toList

end SqlAssembly
