import SqlAssembly.Proofs.Session.Effects

/-! What running a statement does to a session. The guard is asked first, and a statement that it
denies is not even rendered; a statement that is rendered is logged and executed at once.
-/

namespace SqlAssembly

variable {δ α β : Type}

-----------------------------------------------------------------------------------------
-- Guards
-----------------------------------------------------------------------------------------

/-- What a guard decides. -/
def Guard.permits : Option Guard → Bool
  | none => true
  | some (.flag allowed) => allowed
  | some (.check allowed) => allowed

/-- What is noted when a guard is asked. -/
def Guard.asked : Option Guard → List Entry
  | some (.check allowed) => [.guard allowed]
  | _ => []

/-- What is noted when a statement is executed. -/
def Execution.entries (e : Execution) : List Entry :=
  [.log (.statement e.sql e.type e.transaction), .execute e]

/-- What an action returns may be changed by a function, which a failure is spared. -/
theorem Action.on_bind_pure (action : Action δ α) (f : α → β) (t : Session δ)
    : (do return f (← action) : Action δ β).on t = ((action.on t).1.map f, (action.on t).2) := by
  rw [Action.on_bind]
  rcases action.on t with ⟨error | value, u⟩ <;> rfl

namespace Session

theorem allows_on (guard : Option Guard) (t : Session δ)
    : (allows guard).on t = (Guard.permits guard, t.noting t.driver (Guard.asked guard)) := by
  rcases guard with _ | _ | allowed
  · simp [allows, Guard.permits, Guard.asked]
  · simp [allows, Guard.permits, Guard.asked]
  · rfl

theorem guarded_on_permitted {terms : Terms} {default : α} {action : Action δ α}
    (permitted : Guard.permits terms.guard = true) (t : Session δ)
    : (guarded terms default action).on t
      = action.on (t.noting t.driver (Guard.asked terms.guard)) := by
  rw [guarded, Action.on_bind_ok (Action.on_lift _ t), allows_on, permitted]
  rfl

theorem guarded_on_denied {terms : Terms} {default : α} {action : Action δ α}
    (denied : Guard.permits terms.guard = false) (t : Session δ)
    : (guarded terms default action).on t
      = (.ok default, t.noting t.driver (Guard.asked terms.guard)) := by
  rw [guarded, Action.on_bind_ok (Action.on_lift _ t), allows_on, denied]
  rfl

end Session

-----------------------------------------------------------------------------------------
-- Statements
-----------------------------------------------------------------------------------------

variable [Driver δ]

/-- The action asks its guard and then renders, logs and executes one statement, up to the first of
these that denies or fails. Each step is taken once and nothing else is done; the output is read,
and a failure of the driver is returned as it is.
-/
structure Action.Performs (action : Action δ α) (terms : Terms) (default : α)
    (type : StatementType) (sql : Except ParamError Text) (read : QueryOutput → α)
    : Prop where
  denied
    : Guard.permits terms.guard = false
      → ∀ t, action.on t = (.ok default, t.noting t.driver (Guard.asked terms.guard))
  unrendered
    : Guard.permits terms.guard = true
      → ∀ cause,
          sql = .error cause
          → ∀ t,
              action.on t
                = (.error (.param cause), t.noting t.driver (Guard.asked terms.guard))
  executed
    : Guard.permits terms.guard = true
      → ∀ text,
          sql = .ok text
          → ∀ t,
              let e : Execution := { sql := text, type := type, transaction := terms.transaction }
              action.on t
                = (
                  (Driver.execute e t.driver).1.map read,
                  t.noting (Driver.execute e t.driver).2 (Guard.asked terms.guard ++ e.entries)
                )

/-- What such an action returns may be read once more. -/
theorem Action.Performs.map {action : Action δ α} {terms : Terms} {default : α}
    {type : StatementType} {sql : Except ParamError Text} {read : QueryOutput → α}
    (performs : action.Performs terms default type sql read) (f : α → β)
    : (do return f (← action) : Action δ β).Performs terms (f default) type sql
        fun output => f (read output) where
  denied denied t := by
    rw [on_bind_pure, performs.denied denied]
    rfl
  unrendered permitted cause failed t := by
    rw [on_bind_pure, performs.unrendered permitted cause failed]
    rfl
  executed permitted text rendered t := by
    rw [on_bind_pure, performs.executed permitted text rendered]
    intro e
    rcases Driver.execute e t.driver with ⟨error | output, d⟩ <;> rfl

namespace Session

theorem perform_on_error {sql : Except ParamError Text} {cause : ParamError}
    (unrendered : sql = .error cause) (type : StatementType) (terms : Terms) (t : Session δ)
    : (perform type sql terms).on t = (.error (.param cause), t) := by
  subst unrendered
  exact Action.on_bind_error rfl

theorem perform_on_ok {sql : Except ParamError Text} {text : Text} (rendered : sql = .ok text)
    (type : StatementType) (terms : Terms) (t : Session δ)
    : (perform type sql terms).on t
      = (execute { sql := text, type := type, transaction := terms.transaction }).on t := by
  subst rendered
  exact Action.on_bind_ok rfl

/-- Every structured statement is the guarded reading of the output of one text. -/
theorem statement_performs (default : α) (type : StatementType) (sql : Except ParamError Text)
    (terms : Terms) (read : QueryOutput → α)
    : (guarded terms default do return read (← perform type sql terms) : Action δ α).Performs
        terms default type sql read where
  denied denied t := guarded_on_denied denied t
  unrendered permitted cause unrendered t := by
    rw [guarded_on_permitted permitted, Action.on_bind_pure, perform_on_error unrendered]
    rfl
  executed permitted text rendered t := by
    rw [guarded_on_permitted permitted, Action.on_bind_pure, perform_on_ok rendered, execute_on,
      noting_noting]
    rfl

end Session

end SqlAssembly
