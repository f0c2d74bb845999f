import SqlAssembly.Session.Program

/-! What each action does to a session. Sequencing threads the session, a failure keeps what was
done before it, and every operation on transactions has one exact effect for each answer of the
driver.
-/

namespace SqlAssembly

variable {δ α β : Type}

-----------------------------------------------------------------------------------------
-- The two ways in which a session changes
-----------------------------------------------------------------------------------------

namespace Session

/-- The session after the driver moved on and the entries were noted. -/
def noting (s : Session δ) (driver : δ) (entries : List Entry) : Session δ :=
  { s with driver := driver, journal := s.journal ++ entries }

/-- The session with one transaction changed. -/
def changing (s : Session δ) (id : TransactionId) (change : Transaction → Transaction)
    : Session δ :=
  { s with transactions := s.transactions.map fun t => if t.id == id then change t else t }

@[simp]
theorem noting_noting (s : Session δ) (d e : δ) (first second : List Entry)
    : (s.noting d first).noting e second = s.noting e (first ++ second) := by
  simp [noting]

@[simp]
theorem noting_nil (s : Session δ) : s.noting s.driver [] = s := by
  simp [noting]

@[simp]
theorem noting_driver (s : Session δ) (d : δ) (entries : List Entry)
    : (s.noting d entries).driver = d :=
  rfl

@[simp]
theorem noting_transactions (s : Session δ) (d : δ) (entries : List Entry)
    : (s.noting d entries).transactions = s.transactions :=
  rfl

@[simp]
theorem noting_journal (s : Session δ) (d : δ) (entries : List Entry)
    : (s.noting d entries).journal = s.journal ++ entries :=
  rfl

@[simp]
theorem changing_driver (s : Session δ) (id : TransactionId)
    (change : Transaction → Transaction)
    : (s.changing id change).driver = s.driver :=
  rfl

@[simp]
theorem changing_journal (s : Session δ) (id : TransactionId)
    (change : Transaction → Transaction)
    : (s.changing id change).journal = s.journal :=
  rfl

theorem changing_noting (s : Session δ) (id : TransactionId)
    (change : Transaction → Transaction) (d : δ) (entries : List Entry)
    : (s.changing id change).noting d entries = (s.noting d entries).changing id change :=
  rfl

end Session

-----------------------------------------------------------------------------------------
-- Sequencing
-----------------------------------------------------------------------------------------

/-- What an action returns when it starts in the given session, and the session after it. -/
def SessionM.on (action : SessionM δ α) (s : Session δ) : α × Session δ :=
  action.run s

/-- What an action that may fail comes to, and the session after it. -/
def Action.on (action : Action δ α) (s : Session δ) : Except SqlError α × Session δ :=
  action.run.run s

namespace SessionM

@[simp]
theorem on_pure (value : α) (s : Session δ) : (pure value : SessionM δ α).on s = (value, s) :=
  rfl

@[simp]
theorem on_bind (action : SessionM δ α) (next : α → SessionM δ β) (s : Session δ)
    : (action >>= next).on s = (next (action.on s).1).on (action.on s).2 :=
  rfl

@[simp]
theorem on_map (f : α → β) (action : SessionM δ α) (s : Session δ)
    : (f <$> action).on s = (f (action.on s).1, (action.on s).2) :=
  rfl

@[simp]
theorem on_get (s : Session δ) : (get : SessionM δ (Session δ)).on s = (s, s) :=
  rfl

@[simp]
theorem on_modify (change : Session δ → Session δ) (s : Session δ)
    : (modify change : SessionM δ PUnit).on s = (⟨⟩, change s) :=
  rfl

@[simp]
theorem on_record (entry : Entry) (s : Session δ)
    : (Session.record entry).on s = ((), s.noting s.driver [entry]) :=
  rfl

@[simp]
theorem on_log (entry : LogEntry) (s : Session δ)
    : (Session.log entry).on s = ((), s.noting s.driver [.log entry]) :=
  rfl

@[simp]
theorem on_call (entry : α → Entry) (transition : δ → α × δ) (s : Session δ)
    : (Session.call entry transition).on s
      = (
        (transition s.driver).1,
        s.noting (transition s.driver).2 [entry (transition s.driver).1]
      ) :=
  rfl

@[simp]
theorem on_updateTransaction (id : TransactionId) (change : Transaction → Transaction)
    (s : Session δ)
    : (Session.updateTransaction id change).on s = ((), s.changing id change) :=
  rfl

@[simp]
theorem on_run (action : Action δ α) (s : Session δ)
    : SessionM.on (ExceptT.run action) s = action.on s :=
  rfl

end SessionM

namespace Action

@[simp]
theorem on_pure (value : α) (s : Session δ)
    : (pure value : Action δ α).on s = (.ok value, s) :=
  rfl

@[simp]
theorem on_throw (error : SqlError) (s : Session δ)
    : (throw error : Action δ α).on s = (.error error, s) :=
  rfl

@[simp]
theorem on_mk (action : SessionM δ (Except SqlError α)) (s : Session δ)
    : Action.on (ExceptT.mk action) s = action.on s :=
  rfl

@[simp]
theorem on_lift (action : SessionM δ α) (s : Session δ)
    : Action.on (liftM action) s = (.ok (action.on s).1, (action.on s).2) :=
  rfl

@[simp]
theorem on_exceptLift (action : SessionM δ α) (s : Session δ)
    : Action.on (ExceptT.lift action) s = (.ok (action.on s).1, (action.on s).2) :=
  rfl

@[simp]
theorem on_get (s : Session δ) : (get : Action δ (Session δ)).on s = (.ok s, s) :=
  rfl

@[simp]
theorem on_modify (change : Session δ → Session δ) (s : Session δ)
    : (modify change : Action δ PUnit).on s = (.ok ⟨⟩, change s) :=
  rfl

/-- The rest of an action runs only when its first part succeeded. -/
theorem on_bind (action : Action δ α) (next : α → Action δ β) (s : Session δ)
    : (action >>= next).on s
      = match action.on s with
        | (.ok value, t) => (next value).on t
        | (.error error, t) => (.error error, t) := by
  rw [← SessionM.on_run, ExceptT.run_bind, SessionM.on_bind, SessionM.on_run]
  rcases action.on s with ⟨_ | _, t⟩ <;> rfl

@[simp]
theorem on_map (f : α → β) (action : Action δ α) (s : Session δ)
    : (f <$> action).on s = ((action.on s).1.map f, (action.on s).2) := by
  rw [← SessionM.on_run, ExceptT.run_map, SessionM.on_map, SessionM.on_run]

/-- The rest of an action runs on what its first part returned. -/
@[simp]
theorem on_bind_ok {action : Action δ α} {next : α → Action δ β} {s t : Session δ} {value : α}
    (done : action.on s = (.ok value, t))
    : (action >>= next).on s = (next value).on t := by
  rw [on_bind, done]

/-- The rest of an action does not run once its first part failed. -/
@[simp]
theorem on_bind_error {action : Action δ α} {next : α → Action δ β} {s t : Session δ}
    {error : SqlError} (failed : action.on s = (.error error, t))
    : (action >>= next).on s = (.error error, t) := by
  rw [on_bind, failed]

end Action

-----------------------------------------------------------------------------------------
-- The life of a transaction
-----------------------------------------------------------------------------------------

namespace Session

variable [Driver δ]

/-- A begin that the driver refuses is noted and changes nothing else. -/
theorem begin_on_error {s : Session δ} {error : SqlError} {d : δ}
    (answer : Driver.beginTransaction s.driver = (.error error, d))
    : begin.on s = (.error error, s.noting d [.begin]) := by
  simp [begin, Action.on_bind, answer]

/-- The session after a begin that the driver granted. -/
def begun (s : Session δ) (driver : δ) (id : TransactionId) : Session δ :=
  {
    s.noting driver [.begin, .log (.transaction .began id)] with
    transactions := s.transactions ++ [⟨id, false, 1⟩]
  }

/-- A begin that the driver grants is logged, and its first handle is held. -/
theorem begin_on_ok {s : Session δ} {id : TransactionId} {d : δ}
    (answer : Driver.beginTransaction s.driver = (.ok id, d))
    : begin.on s = (.ok id, s.begun d id) := by
  simp [begin, Action.on_bind, answer, begun]
  rfl

theorem commit_on_finished {s : Session δ} {id : TransactionId}
    (finished : s.isFinished id = true)
    : (commit id).on s = (.ok (), s) := by
  simp [commit, Action.on_bind, finished]

/-- A commit that the driver refuses leaves the transaction as it is and logs nothing. -/
theorem commit_on_error {s : Session δ} {id : TransactionId} {error : SqlError} {d : δ}
    (unfinished : s.isFinished id = false)
    (answer : Driver.commit id s.driver = (.error error, d))
    : (commit id).on s = (.error error, s.noting d [.commit id false]) := by
  simp [commit, Action.on_bind, unfinished, answer, Except.isOk, Except.toBool]

/-- The session with a transaction marked finished. -/
def finishing (s : Session δ) (id : TransactionId) : Session δ :=
  s.changing id fun t => { t with finished := true }

/-- A commit that the driver confirms finishes the transaction and is logged. -/
theorem commit_on_ok {s : Session δ} {id : TransactionId} {d : δ}
    (unfinished : s.isFinished id = false)
    (answer : Driver.commit id s.driver = (.ok (), d))
    : (commit id).on s
      = (.ok (), (s.noting d [.commit id true, .log (.transaction .committed id)]).finishing id)
    := by
  simp [commit, finish, Action.on_bind, unfinished, answer, finishing, changing_noting,
    Except.isOk, Except.toBool]

/-- Rolling a finished transaction back does nothing. -/
theorem rollback_on_finished {s : Session δ} {id : TransactionId}
    (finished : s.isFinished id = true)
    : (rollback id).on s = ((), s) := by
  simp [rollback, finished]

/-- The entry that a rollback is logged with, by the driver's answer. -/
def rollbackLog (id : TransactionId) : Except SqlError Unit → LogEntry
  | .ok () => .transaction .rolledBack id
  | .error error => .suppressed .rollback error (some id)

/-- A rollback finishes the transaction whatever the driver answers. -/
theorem rollback_on_unfinished {s : Session δ} {id : TransactionId} {d : δ}
    {answer : Except SqlError Unit} (unfinished : s.isFinished id = false)
    (answered : Driver.rollback id s.driver = (answer, d))
    : (rollback id).on s
      = ((), (s.noting d [.rollback id, .log (rollbackLog id answer)]).finishing id) := by
  cases answer <;>
    simp [rollback, finish, unfinished, answered, finishing, changing_noting, rollbackLog]

/-- What is noted when a transaction is abandoned: the event, and the release right behind it if
the driver has one.
-/
def abandonment (id : TransactionId) (released : Bool) : List Entry :=
  .log (.transaction .abandoned id) :: if released then [.release id] else []

/-- The session with one more handle of a transaction. -/
def moreHandle (s : Session δ) (id : TransactionId) : Session δ :=
  s.changing id fun t => { t with handles := t.handles + 1 }

/-- The session with one handle of a transaction given up. -/
def lessHandle (s : Session δ) (id : TransactionId) : Session δ :=
  s.changing id fun t => { t with handles := t.handles - 1 }

omit [Driver δ] in
@[simp]
theorem begun_journal (s : Session δ) (d : δ) (id : TransactionId)
    : (s.begun d id).journal = s.journal ++ [.begin, .log (.transaction .began id)] :=
  rfl

omit [Driver δ] in
@[simp]
theorem finishing_journal (s : Session δ) (id : TransactionId)
    : (s.finishing id).journal = s.journal :=
  rfl

omit [Driver δ] in
@[simp]
theorem moreHandle_journal (s : Session δ) (id : TransactionId)
    : (s.moreHandle id).journal = s.journal :=
  rfl

omit [Driver δ] in
@[simp]
theorem lessHandle_journal (s : Session δ) (id : TransactionId)
    : (s.lessHandle id).journal = s.journal :=
  rfl

omit [Driver δ] in
theorem cloneHandle_on (s : Session δ) (id : TransactionId)
    : (cloneHandle id).on s = ((), s.moreHandle id) :=
  rfl

/-- Giving up a handle does nothing more while others remain or once the transaction is finished.
-/
theorem dropHandle_on_kept {s : Session δ} {id : TransactionId}
    (kept
      : ∀ t, (s.lessHandle id).transaction? id = some t → t.handles ≠ 0 ∨ t.finished = true)
    : (dropHandle id).on s = ((), s.lessHandle id) := by
  rw [lessHandle] at kept ⊢
  cases found
    : (s.changing id fun t => { t with handles := t.handles - 1 }).transaction? id with
  | none => simp [dropHandle, found]
  | some t =>
      have settled : ¬(t.handles = 0 ∧ t.finished = false) := by
        rcases kept t found with held | finished
        · exact fun both => held both.1
        · simp [finished]
      simp [dropHandle, found, settled]

/-- Giving up the last handle of an open transaction abandons it. -/
theorem dropHandle_on_last {s : Session δ} {id : TransactionId} {t : Transaction}
    (found : (s.lessHandle id).transaction? id = some t)
    (last : t.handles = 0) (unfinished : t.finished = false)
    : (dropHandle id).on s
      = (
        (),
        (s.lessHandle id).noting ((Driver.release? id s.driver).getD s.driver)
          (abandonment id (Driver.release? id s.driver).isSome)
      ) := by
  rw [lessHandle] at found
  cases released : Driver.release? id s.driver with
  | none => simp [dropHandle, release, lessHandle, abandonment, found, last, unfinished, released]
  | some d =>
      simp [dropHandle, release, lessHandle, abandonment, found, last, unfinished, released]
      rfl

/-- Either the handle was not the last of an open transaction and nothing more happens, or the
transaction is abandoned.
-/
theorem dropHandle_cases (s : Session δ) (id : TransactionId)
    : (dropHandle id).on s = ((), s.lessHandle id)
        ∧ (∀ t,
            (s.lessHandle id).transaction? id = some t → t.handles ≠ 0 ∨ t.finished = true)
      ∨ ∃ t, (s.lessHandle id).transaction? id = some t ∧ t.handles = 0 ∧ t.finished = false := by
  by_cases last
    : ∃ t, (s.lessHandle id).transaction? id = some t ∧ t.handles = 0 ∧ t.finished = false
  · exact .inr last
  · have kept (t : Transaction) (found : (s.lessHandle id).transaction? id = some t)
        : t.handles ≠ 0 ∨ t.finished = true := by
      cases flag : t.finished with
      | true => exact .inr rfl
      | false => exact .inl fun spent => last ⟨t, found, spent, flag⟩
    exact .inl ⟨dropHandle_on_kept kept, kept⟩

-----------------------------------------------------------------------------------------
-- Calls about no transaction
-----------------------------------------------------------------------------------------

/-- A statement is logged and then executed. -/
theorem execute_on (e : Execution) (s : Session δ)
    : (execute e).on s
      = (
        (Driver.execute e s.driver).1,
        s.noting (Driver.execute e s.driver).2
          [.log (.statement e.sql e.type e.transaction), .execute e]
      ) := by
  simp [execute, Action.on_bind]

theorem authenticate_on (s : Session δ)
    : authenticate.on s
      = (
        (Driver.authenticate s.driver).1,
        s.noting (Driver.authenticate s.driver).2 [.authenticate]
      ) :=
  rfl

theorem close_on (s : Session δ)
    : close.on s = ((Driver.close s.driver).1, s.noting (Driver.close s.driver).2 [.close]) :=
  rfl

end Session

end SqlAssembly
