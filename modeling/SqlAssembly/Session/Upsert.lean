import SqlAssembly.Session.Query

/-! Updating the row that criteria select, or inserting one. The lookup and the write run in the
caller's transaction, which is left open, or in one of their own, which is committed when both
succeed and rolled back otherwise.
-/

namespace SqlAssembly.Session

variable {δ : Type} [Driver δ]

/-- The column of generated keys. -/
def keyColumn : Text := "id"

/-- Look the row up and write it, inside the given transaction. The answer is the key of the row
that was updated or inserted.
-/
def upsertIn (s : UpdateOrInsert) (id : TransactionId) : Action δ (Option Nat) := do
  let terms : Terms := { transaction := some id }
  match ← selectOne s.lookup terms with
  | some row => do
      let _ ← update s.update terms
      return (row.get? keyColumn).bind naturalOf?
  | none => do
      let inserted ← insert s.insert .plain terms
      return inserted.bind (·.insertId)

/-- Look the row up and write it, inside a transaction of their own. -/
def upsertAlone (s : UpdateOrInsert) : Action δ (Option Nat) := do
  let id ← begin
  let outcome ← ExceptT.lift (upsertIn s id).run
  match outcome with
  | .ok key => do
      match ← ExceptT.lift (commit id).run with
      | .ok () => do
          (dropHandle id : SessionM δ Unit)
          return key
      | .error error => do
          (rollback id : SessionM δ Unit)
          (dropHandle id : SessionM δ Unit)
          throw error
  | .error error => do
      (rollback id : SessionM δ Unit)
      (dropHandle id : SessionM δ Unit)
      throw error

/-- Update the row that the criteria select, or insert one. -/
def updateOrInsert (s : UpdateOrInsert) (terms : Terms) : Action δ (Option Nat) :=
  guarded terms none do
    ExceptT.mk (return s.validate.mapError .param)
    match terms.transaction with
    | some id => upsertIn s id
    | none => upsertAlone s

end SqlAssembly.Session
