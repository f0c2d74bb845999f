import SqlAssembly.Session.Basic

/-! The life of a transaction. It ends once: by a commit that the driver confirms, by a rollback,
or by being abandoned when its last handle is dropped before either. Committing or rolling back
a finished transaction does nothing.
-/

namespace SqlAssembly.Session

variable {δ : Type} [Driver δ]

/-- Open a transaction and hold its first handle. -/
def begin : Action δ TransactionId := do
  let id ← ExceptT.mk (call (fun _ => .begin) Driver.beginTransaction)
  (log (.transaction .began id) : SessionM δ Unit)
  modify fun s => { s with transactions := s.transactions ++ [⟨id, false, 1⟩] }
  return id

def finish (id : TransactionId) : SessionM δ Unit :=
  updateTransaction id fun t => { t with finished := true }

/-- Commit a transaction. It is finished only once the driver confirms, so that a failed commit
can still be rolled back.
-/
def commit (id : TransactionId) : Action δ Unit := do
  if (← get).isFinished id then return ()
  else
    ExceptT.mk (call (fun answer => .commit id answer.isOk) (Driver.commit id))
    (finish id : SessionM δ Unit)
    (log (.transaction .committed id) : SessionM δ Unit)

/-- Roll a transaction back. It is finished whatever the driver says, and a failure is logged. -/
def rollback (id : TransactionId) : SessionM δ Unit := do
  if (← get).isFinished id then return ()
  else
    finish id
    match ← call (fun _ => .rollback id) (Driver.rollback id) with
    | .ok () => log (.transaction .rolledBack id)
    | .error error => log (.suppressed .rollback error (some id))

/-- Make one more handle of a transaction. -/
def cloneHandle (id : TransactionId) : SessionM δ Unit :=
  updateTransaction id fun t => { t with handles := t.handles + 1 }

/-- Let the driver discard a transaction, if it keeps anything for it. -/
def release (id : TransactionId) : SessionM δ Unit := do
  match Driver.release? id (← get).driver with
  | some driver =>
      record (.release id)
      modify fun s => { s with driver := driver }
  | none => return ()

/-- Give up one handle of a transaction. When it was the last and the transaction is still open,
the transaction is abandoned.
-/
def dropHandle (id : TransactionId) : SessionM δ Unit := do
  updateTransaction id fun t => { t with handles := t.handles - 1 }
  match (← get).transaction? id with
  | some t =>
      if t.handles = 0 ∧ !t.finished then
        log (.transaction .abandoned id)
        release id
      else return ()
  | none => return ()

end SqlAssembly.Session
