import SqlAssembly.Session.Transaction

/-! Scoped transactions. A body runs inside a fresh transaction, which is committed when the body
succeeds and rolled back when it fails or when the commit fails; the first error is returned.
The two forms differ in whether the body is given a handle of its own. Bodies may keep any state
beside the session.
-/

namespace SqlAssembly.Session

variable {m : Type → Type} [Monad m] {α : Type}

/-- Run a body that owns a second handle of its transaction. -/
def runInTransaction (δ : Type) [Driver δ] [MonadLiftT (SessionM δ) m]
    (body : TransactionId → m (Except SqlError α)) : m (Except SqlError α) := do
  let lift {β : Type} (action : SessionM δ β) : m β := monadLift action
  match ← lift begin.run with
  | .error error => return .error error
  | .ok id =>
      lift (cloneHandle id)
      let outcome ← match ← body id with
        | .ok value =>
            match ← lift (commit id).run with
            | .ok () => pure (.ok value)
            | .error error => do
                lift (rollback id)
                pure (.error error)
        | .error error => do
            lift (rollback id)
            pure (.error error)
      lift (dropHandle id)
      return outcome

/-- Run a block that borrows the only handle of its transaction. -/
def transactionBlock (δ : Type) [Driver δ] [MonadLiftT (SessionM δ) m]
    (block : TransactionId → m (Except SqlError α)) : m (Except SqlError α) := do
  let lift {β : Type} (action : SessionM δ β) : m β := monadLift action
  match ← lift begin.run with
  | .error error => return .error error
  | .ok id =>
      match ← block id with
      | .error error =>
          lift (rollback id)
          lift (dropHandle id)
          return .error error
      | .ok value =>
          match ← lift (commit id).run with
          | .error error =>
              lift (rollback id)
              lift (dropHandle id)
              return .error error
          | .ok () =>
              lift (dropHandle id)
              return .ok value

end SqlAssembly.Session
