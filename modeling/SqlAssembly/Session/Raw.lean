import SqlAssembly.Session.Query

/-! Running SQL that the caller wrote. Its placeholders are bound by the driver. A script is
enclosed in a transaction of its own, and a database name must be one word.
-/

namespace SqlAssembly.Session

variable {δ : Type} [Driver δ]

def selectBySql (sql : Text) (replacements : Replacements) (id : Option TransactionId)
    : Action δ (List Row) := do
  return (← execute ⟨sql, .select, replacements, id⟩).rowList

def updateBySql (sql : Text) (replacements : Replacements) (id : Option TransactionId)
    : Action δ Nat := do
  return (← execute ⟨sql, .update, replacements, id⟩).affectedRows

def deleteBySql (sql : Text) (replacements : Replacements) (id : Option TransactionId)
    : Action δ Nat := do
  return (← execute ⟨sql, .delete, replacements, id⟩).affectedRows

def insertBySql (sql : Text) (replacements : Replacements) (id : Option TransactionId)
    : Action δ InsertResult := do
  return (← execute ⟨sql, .insert, replacements, id⟩).asInsert

/-- Any other statement, such as a definition. -/
def createBySql (sql : Text) (replacements : Replacements) (id : Option TransactionId)
    : Action δ Unit := do
  let _ ← execute ⟨sql, .raw, replacements, id⟩

/-- A script between the statements that open and close its transaction. -/
def enclosedScript (script : Text) : Text :=
  "BEGIN;".toList ++ script ++ "COMMIT;".toList

/-- The number of rows that a script changed. -/
def executeScript (script : Text) : Action δ Nat := do
  return (← execute { sql := enclosedScript script, type := .raw }).affectedRows

/-- Run the script in a file, given what reading the file came to. -/
def executeFile (contents : Except IoError Text) : Action δ Nat := do
  let script ← ExceptT.mk (return contents.mapError .io)
  executeScript script

/-- A database name without surrounding blanks; it must be one word. -/
def requireName (name : Text) : Except ParamError Text :=
  let trimmed := Text.trim name
  if trimmed.isEmpty || trimmed.any Text.isBlank then .error (.databaseName trimmed)
  else .ok trimmed

def dropDatabase (name : Text) : Action δ Unit := do
  let name ← render (requireName name)
  let _ ← execute { sql := "drop database ".toList ++ name, type := .raw }

/-- Create a database. With force, one of that name is dropped first, and a failure to do so is
only logged.
-/
def createDatabase (name : Text) (force : Bool) : Action δ Unit := do
  let name ← render (requireName name)
  if force then
    match ← ExceptT.lift (dropDatabase name).run with
    | .ok () => pure ()
    | .error error => (log (.suppressed .dropDatabase error none) : SessionM δ Unit)
  let _ ← execute { sql := "create database ".toList ++ name, type := .raw }

/-- Ask the driver whether its database can be reached. -/
def authenticate : Action δ Unit :=
  ExceptT.mk (call (fun _ => .authenticate) Driver.authenticate)

def close : Action δ Unit :=
  ExceptT.mk (call (fun _ => .close) Driver.close)

end SqlAssembly.Session
