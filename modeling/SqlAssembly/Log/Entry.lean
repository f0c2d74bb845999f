import SqlAssembly.Driver.Basic

/-! What is logged: each statement before it is executed, each step in the life of a transaction
after it happened, and each failure that is not passed on to the caller.
-/

namespace SqlAssembly

inductive Level where
  | error
  | warn
  | info
  | debug
  | trace
deriving DecidableEq

/-- The steps in the life of a transaction. -/
inductive TransactionEvent where
  | began
  | committed
  | rolledBack
  | abandoned
deriving DecidableEq

/-- The operations whose failure is logged instead of returned. -/
inductive SuppressedOperation where
  | rollback
  | dropDatabase
deriving DecidableEq

/-- One thing worth logging. -/
inductive LogEntry where
  | statement (sql : Text) (type : StatementType) (transaction : Option TransactionId)
  | transaction (event : TransactionEvent) (id : TransactionId)
  | suppressed (operation : SuppressedOperation) (cause : SqlError)
      (transaction : Option TransactionId)

def Level.text : Level → Text
  | error => "ERROR"
  | warn => "WARN"
  | info => "INFO"
  | debug => "DEBUG"
  | trace => "TRACE"

def TransactionEvent.text : TransactionEvent → Text
  | began => "begin"
  | committed => "commit"
  | rolledBack => "rollback"
  | abandoned => "abandon"

namespace SuppressedOperation

def text : SuppressedOperation → Text
  | rollback => "rollback"
  | dropDatabase => "drop database"

/-- A lost rollback is a warning; a database that could not be dropped may never have been. -/
def level : SuppressedOperation → Level
  | rollback => .warn
  | dropDatabase => .debug

end SuppressedOperation

/-- Reads are logged for debugging, everything else for information. -/
def StatementType.level (type : StatementType) : Level :=
  if type.isRead then .debug else .info

def LogEntry.level : LogEntry → Level
  | statement _ type _ => type.level
  | transaction _ _ => .info
  | suppressed operation _ _ => operation.level

end SqlAssembly
