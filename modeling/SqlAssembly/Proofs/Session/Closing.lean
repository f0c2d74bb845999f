import SqlAssembly.Proofs.Session.SingleEnding

/-! How a scope closes its transaction. Whatever its body came to and whatever the driver answers,
the transaction is finished when the scope gives up its handle. The two forms of a scope close
alike, since a body is a block that is given a handle of its own.
-/

namespace SqlAssembly

open Session (cloneHandle dropHandle rollbackLog)

variable {δ α β : Type}

namespace ClientM

/-- Actions that do the same for every client in every session are the same. -/
theorem ext {first second : ClientM δ α} (same : ∀ c s, first.on c s = second.on c s)
    : first = second :=
  funext fun c => funext fun s => same c s

theorem inSession_bind (action : SessionM δ α) (rest : α → SessionM δ β)
    : Client.inSession (action >>= rest)
      = Client.inSession action >>= fun value => Client.inSession (rest value) :=
  rfl

end ClientM

namespace Session

-----------------------------------------------------------------------------------------
-- Finished transactions
-----------------------------------------------------------------------------------------

/-- Marking a transaction finished finishes it. -/
theorem finishing_isFinished (s : Session δ) (id : TransactionId)
    : (s.finishing id).isFinished id = true := by
  rw [finishing, isFinished,
    changing_transaction? s id id (fun t => { t with finished := true }) fun _ => rfl]
  cases found : s.transaction? id with
  | none => rfl
  | some t =>
      have same : t.id = id := by simpa using List.find?_some found
      simp [same]

/-- Giving up a handle of a finished transaction does nothing more. -/
theorem dropHandle_on_finished [Driver δ] {s : Session δ} {id : TransactionId}
    (finished : s.isFinished id = true)
    : (dropHandle id).on s = ((), s.lessHandle id) := by
  refine dropHandle_on_kept fun t found => .inr ?_
  have still : (s.lessHandle id).isFinished id = true := lessHandle_isFinished finished
  rw [isFinished, found] at still
  exact still

-----------------------------------------------------------------------------------------
-- The close of a scope
-----------------------------------------------------------------------------------------

variable [Driver δ]

/-- A scope whose body came to this outcome in the first session returns the result, and leaves the
second session behind. A transaction that the body finished is left alone. Otherwise it is
committed after a success and rolled back after a failure, also after that of the commit; what
the driver says to a rollback is no failure of the scope.
-/
inductive Closes (id : TransactionId)
    : Except SqlError α → Session δ → Except SqlError α → Session δ → Prop
  | settled {s outcome} (finished : s.isFinished id = true) : Closes id outcome s outcome s
  | failed {s error answer d} (unfinished : s.isFinished id = false)
    (answered : Driver.rollback id s.driver = (answer, d))
    : Closes id (.error error) s (.error error)
        ((s.noting d [.rollback id, .log (rollbackLog id answer)]).finishing id)
  | committed {s value d} (unfinished : s.isFinished id = false)
    (confirmed : Driver.commit id s.driver = (.ok (), d))
    : Closes id (.ok value) s (.ok value)
        ((s.noting d [.commit id true, .log (.transaction .committed id)]).finishing id)
  | refused {s value error between answer d} (unfinished : s.isFinished id = false)
    (refused : Driver.commit id s.driver = (.error error, between))
    (answered : Driver.rollback id between = (answer, d))
    : Closes id (.ok value) s (.error error)
        ((s.noting d [.commit id false, .rollback id, .log (rollbackLog id answer)]).finishing id)

namespace Closes

variable {id : TransactionId} {outcome result : Except SqlError α} {s t : Session δ}

theorem isFinished (closes : Closes id outcome s result t) : t.isFinished id = true := by
  cases closes with
  | settled finished => exact finished
  | failed | committed | refused => exact finishing_isFinished _ id

theorem ids (closes : Closes id outcome s result t) : t.ids = s.ids := by
  cases closes <;> simp

/-- A scope that closes asks no guard. -/
theorem journal (closes : Closes id outcome s result t)
    : ∃ closing, t.journal = s.journal ++ closing ∧ ∀ answer, Entry.guard answer ∉ closing := by
  cases closes with
  | settled => exact ⟨[], (List.append_nil _).symm, by simp⟩
  | failed | committed | refused => exact ⟨_, rfl, by simp⟩

/-- The result is the first error, of the body or of the closing commit, or else the value. -/
theorem firstError (closes : Closes id outcome s result t)
    : result
      = (do
        let value ← outcome
        ((commit id).on s).1
        return value) := by
  cases closes with
  | settled finished =>
      rw [commit_on_finished finished]
      cases outcome <;> rfl
  | failed => rfl
  | committed unfinished confirmed => rw [commit_on_ok unfinished confirmed]; rfl
  | refused unfinished refused => rw [commit_on_error unfinished refused]; rfl

end Closes

/-- What a scope does with its handle once the body came to an outcome. -/
def conclude (id : TransactionId) : Except SqlError α → SessionM δ (Except SqlError α)
  | .error error => do
      rollback id
      dropHandle id
      return .error error
  | .ok value => do
      match ← (commit id).run with
      | .error error => do
          rollback id
          dropHandle id
          return .error error
      | .ok () => do
          dropHandle id
          return .ok value

/-- Every scope closes its transaction and gives up its handle, by cases on the flag, the outcome of
the body and the driver's answers.
-/
theorem conclude_on (id : TransactionId) (outcome : Except SqlError α) (s : Session δ)
    : ∃ result t,
        Closes id outcome s result t
        ∧ (conclude id outcome).on s = (result, t.lessHandle id) := by
  have giving {result : Except SqlError α} {t : Session δ} (closes : Closes id outcome s result t)
      : (do
            dropHandle id
            return result : SessionM δ _).on t
          = (result, t.lessHandle id) := by
    rw [SessionM.on_bind, dropHandle_on_finished closes.isFinished]
    rfl
  cases finished : s.isFinished id with
  | true =>
      have closes : Closes id outcome s outcome s := .settled finished
      refine ⟨outcome, s, closes, ?_⟩
      rw [← giving closes]
      cases outcome with
      | error error =>
          rw [conclude, SessionM.on_bind, rollback_on_finished finished]
      | ok value =>
          rw [conclude, SessionM.on_bind, SessionM.on_run, commit_on_finished finished]
  | false =>
      rcases outcome with error | value
      · rcases answered : Driver.rollback id s.driver with ⟨answer, d⟩
        have closes : Closes id (.error error : Except SqlError α) s _ _ :=
          .failed finished answered
        refine ⟨_, _, closes, ?_⟩
        rw [← giving closes, conclude, SessionM.on_bind, rollback_on_unfinished finished answered]
      · rcases asked : Driver.commit id s.driver with ⟨error | done, between⟩
        · rcases answered : Driver.rollback id between with ⟨answer, d⟩
          have closes : Closes id (.ok value) s _ _ := .refused finished asked answered
          refine ⟨_, _, closes, ?_⟩
          have undone := rollback_on_unfinished (s := s.noting between [.commit id false]) finished
            answered
          rw [noting_noting] at undone
          rw [← giving closes, conclude, SessionM.on_bind, SessionM.on_run,
            commit_on_error finished asked]
          simp only
          rw [SessionM.on_bind, undone]
          rfl
        · have closes : Closes id (.ok value) s _ _ := .committed finished asked
          refine ⟨_, _, closes, ?_⟩
          rw [← giving closes, conclude, SessionM.on_bind, SessionM.on_run,
            commit_on_ok finished asked]

-----------------------------------------------------------------------------------------
-- The two forms
-----------------------------------------------------------------------------------------

/-- A scope begins a transaction, runs its block and closes. -/
theorem transactionBlock_eq (block : TransactionId → ClientM δ (Except SqlError α))
    : transactionBlock δ block
      = (do
          match ← Client.inSession begin.run with
          | .error error => return .error error
          | .ok id => Client.inSession (conclude id (← block id))) := by
  refine bind_congr (m := ClientM δ) fun opened => ?_
  cases opened with
  | error error => rfl
  | ok id =>
      refine bind_congr fun outcome => ?_
      cases outcome with
      | error error => rfl
      | ok value =>
          rw [conclude, ClientM.inSession_bind]
          refine bind_congr (m := ClientM δ) fun committed => ?_
          cases committed <;> rfl

variable (block : TransactionId → ClientM δ (Except SqlError α)) (c : Client) {s : Session δ}
  {id : TransactionId} {d : δ}

/-- Without a transaction the block does not run. -/
theorem transactionBlock_on_refused {error : SqlError}
    (answer : Driver.beginTransaction s.driver = (.error error, d))
    : (transactionBlock δ block).on c s = ((.error error, c), s.noting d [.begin]) := by
  rw [transactionBlock_eq, ClientM.on_bind, ClientM.on_inSession, SessionM.on_run,
    begin_on_error answer]
  rfl

/-- A block runs in the session that was begun, and the scope closes what it left. -/
theorem transactionBlock_on_granted (answer : Driver.beginTransaction s.driver = (.ok id, d))
    : let ran := (block id).on c (s.begun d id)
      ∃ result t,
        Closes id ran.1.1 ran.2 result t
        ∧ (transactionBlock δ block).on c s = ((result, ran.1.2), t.lessHandle id) := by
  intro ran
  obtain ⟨result, t, closes, concluded⟩ := conclude_on id ran.1.1 ran.2
  refine ⟨result, t, closes, ?_⟩
  rw [transactionBlock_eq, ClientM.on_bind, ClientM.on_inSession, SessionM.on_run,
    begin_on_ok answer]
  change ((((conclude id ran.1.1).on ran.2).1, ran.1.2), ((conclude id ran.1.1).on ran.2).2) = _
  rw [concluded]

end Session

end SqlAssembly
