import SqlAssembly.Log.Entry
import SqlAssembly.Text.Truncation

/-! Loggers decide what becomes of an entry: it is kept as it is, turned into a trace event with
named fields, or discarded. Only the SQL of a statement is ever shortened.
-/

namespace SqlAssembly

/-- A trace event: a severity and named fields. -/
structure TraceEvent where
  level : Level
  fields : List (Text × Text)

/-- Trace settings: the severity of statements, if it is fixed, and the longest SQL in bytes. -/
structure Tracing where
  level : Option Level := none
  limit : Option Nat := some 1000

/-- What becomes of log entries. -/
inductive Logger where
  | recording
  | tracing (settings : Tracing)
  | silent

/-- A log entry as a logger passed it on. -/
inductive LogRecord where
  | entry (entry : LogEntry)
  | trace (event : TraceEvent)

namespace Tracing

/-- The name under which trace events are filed. -/
def target : Text := "sqlhelper.sql"

/-- The field that names a transaction, if there is one. -/
def transactionField (id : Option TransactionId) : List (Text × Text) :=
  id.toList.map fun id => ("transaction_id".toList, id)

def event (settings : Tracing) (entry : LogEntry) : TraceEvent :=
  match entry with
  | .statement sql type id =>
      ⟨settings.level.getD entry.level,
        [("statement_type".toList, type.text),
          ("sql".toList, Text.truncate settings.limit sql)] ++ transactionField id⟩
  | .transaction event id =>
      ⟨entry.level,
        ("message".toList, "transaction ".toList ++ event.text) :: transactionField (some id)⟩
  | .suppressed operation cause id =>
      ⟨entry.level,
        [("operation".toList, operation.text), ("error".toList, cause.message),
          ("message".toList, operation.text ++ " failed".toList)] ++ transactionField id⟩

end Tracing

/-- What a logger passes on of an entry. -/
def Logger.record? (logger : Logger) (entry : LogEntry) : Option LogRecord :=
  match logger with
  | recording => some (.entry entry)
  | tracing settings => some (.trace (settings.event entry))
  | silent => none

end SqlAssembly
