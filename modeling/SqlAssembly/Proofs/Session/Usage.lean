import SqlAssembly.Proofs.Session.Effects
import Mathlib.Algebra.Order.Group.Multiset
import Mathlib.Logic.Relation

/-! Runs of a session. A usage is a session together with the handles that its callers hold, and
a run is any finite sequence of moves: each of them is one operation on the session, and those
on a transaction need a handle of it. Statements, upserts and scopes are sequences of moves.
-/

namespace SqlAssembly

open Session (cloneHandle dropHandle)

variable {δ α β : Type} [Driver δ]

/-- A session in use, with the handles that are held. A transaction occurs as often as it has
handles.
-/
structure Usage (δ : Type) where
  session : Session δ
  handles : Multiset TransactionId := 0

/-- A session on a driver before anything happened. -/
def Usage.initial (driver : δ) : Usage δ :=
  { session := { driver := driver } }

/-- One operation of a caller. A statement that keeps a handle of its own is a clone before it and
a drop behind it. Between operations the driver may change in any way.
-/
inductive Usage.Move : Usage δ → Usage δ → Prop
  | began {s t h id} (granted : Session.begin.on s = (.ok id, t)) : Move ⟨s, h⟩ ⟨t, id ::ₘ h⟩
  | refused {s t h error} (failed : Session.begin.on s = (.error error, t))
    : Move ⟨s, h⟩ ⟨t, h⟩
  | clone {s h id} (held : id ∈ h) : Move ⟨s, h⟩ ⟨((cloneHandle id).on s).2, id ::ₘ h⟩
  | drop {s h id} (held : id ∈ h) : Move ⟨s, h⟩ ⟨((dropHandle id).on s).2, h.erase id⟩
  | commit {s h id} (held : id ∈ h) : Move ⟨s, h⟩ ⟨((Session.commit id).on s).2, h⟩
  | rollback {s h id} (held : id ∈ h) : Move ⟨s, h⟩ ⟨((Session.rollback id).on s).2, h⟩
  | execute {s h} (e : Execution) : Move ⟨s, h⟩ ⟨((Session.execute e).on s).2, h⟩
  | authenticate {s h} : Move ⟨s, h⟩ ⟨(Session.authenticate.on s).2, h⟩
  | close {s h} : Move ⟨s, h⟩ ⟨(Session.close.on s).2, h⟩
  | ask {s h} (answer : Bool) : Move ⟨s, h⟩ ⟨((Session.record (.guard answer)).on s).2, h⟩
  | suppress {s h} (error : SqlError)
    : Move ⟨s, h⟩ ⟨((Session.log (.suppressed .dropDatabase error none)).on s).2, h⟩
  | control {s h} (change : δ → δ) : Move ⟨s, h⟩ ⟨{ s with driver := change s.driver }, h⟩

/-- The second usage follows from the first by a finite run of moves. -/
abbrev Usage.Moves : Usage δ → Usage δ → Prop :=
  Relation.ReflTransGen Usage.Move

-----------------------------------------------------------------------------------------
-- What may happen to the driver from outside
-----------------------------------------------------------------------------------------

/-- A move during which the driver changes by calls, or else as it may from outside. Every call is
noted, so a driver that changed although nothing was noted was changed from outside.
-/
def Usage.MoveWithin (outside : δ → δ → Prop) (u v : Usage δ) : Prop :=
  u.Move v
  ∧ (v.session.journal = u.session.journal
      → v.session.driver = u.session.driver ∨ outside u.session.driver v.session.driver)

/-- Runs of such moves. -/
abbrev Usage.MovesWithin (outside : δ → δ → Prop) : Usage δ → Usage δ → Prop :=
  Relation.ReflTransGen (Usage.MoveWithin outside)

/-- Runs during which nothing but calls changes the driver. -/
abbrev Usage.Calls : Usage δ → Usage δ → Prop :=
  Usage.MovesWithin fun _ _ => False

namespace Usage

variable {outside : δ → δ → Prop} {u v : Usage δ} {s t : Session δ}
  {h : Multiset TransactionId} {id : TransactionId}

theorem MovesWithin.moves (moves : u.MovesWithin outside v) : u.Moves v :=
  Relation.ReflTransGen.mono (fun _ _ move => move.1) _ _ moves

theorem Calls.within (calls : u.Calls v) : u.MovesWithin outside v :=
  Relation.ReflTransGen.mono
    (fun _ _ move => ⟨move.1, fun same => (move.2 same).imp_right (·.elim)⟩) _ _ calls

/-- A move that notes something is one by calls. -/
theorem Move.noting (move : u.Move v) (noted : v.session.journal ≠ u.session.journal)
    : u.Calls v :=
  .single ⟨move, fun same => absurd same noted⟩

/-- A move that leaves the driver alone is one by calls. -/
theorem Move.keeping (move : u.Move v) (kept : v.session.driver = u.session.driver)
    : u.Calls v :=
  .single ⟨move, fun _ => .inl kept⟩

theorem Calls.began (granted : Session.begin.on s = (.ok id, t))
    : Calls ⟨s, h⟩ ⟨t, id ::ₘ h⟩ := by
  refine (Move.began granted).noting (?_ : t.journal ≠ s.journal)
  rcases answer : Driver.beginTransaction s.driver with ⟨error | issued, d⟩
  · rw [Session.begin_on_error answer] at granted
    simp at granted
  · rw [Session.begin_on_ok answer] at granted
    simp [← (Prod.mk.inj granted).2]

theorem Calls.refused {error : SqlError} (failed : Session.begin.on s = (.error error, t))
    : Calls ⟨s, h⟩ ⟨t, h⟩ := by
  refine (Move.refused failed).noting (?_ : t.journal ≠ s.journal)
  rcases answer : Driver.beginTransaction s.driver with ⟨error | issued, d⟩
  · rw [Session.begin_on_error answer] at failed
    simp [← (Prod.mk.inj failed).2]
  · rw [Session.begin_on_ok answer] at failed
    simp at failed

theorem Calls.drop (held : id ∈ h) : Calls ⟨s, h⟩ ⟨((dropHandle id).on s).2, h.erase id⟩ := by
  rcases Session.dropHandle_cases s id with ⟨kept, -⟩ | ⟨t, found, last, unfinished⟩
  · exact (Move.drop held).keeping (by rw [kept]; rfl)
  · refine (Move.drop held).noting ?_
    simp [Session.dropHandle_on_last found last unfinished, Session.abandonment]

theorem Calls.commit (held : id ∈ h) : Calls ⟨s, h⟩ ⟨((Session.commit id).on s).2, h⟩ := by
  cases finished : s.isFinished id with
  | true => exact (Move.commit held).keeping (by rw [Session.commit_on_finished finished])
  | false =>
      refine (Move.commit held).noting ?_
      rcases answer : Driver.commit id s.driver with ⟨error | done, d⟩
      · simp [Session.commit_on_error finished answer]
      · simp [Session.commit_on_ok finished answer]

theorem Calls.rollback (held : id ∈ h) : Calls ⟨s, h⟩ ⟨((Session.rollback id).on s).2, h⟩ := by
  cases finished : s.isFinished id with
  | true => exact (Move.rollback held).keeping (by rw [Session.rollback_on_finished finished])
  | false =>
      refine (Move.rollback held).noting ?_
      rcases answered : Driver.rollback id s.driver with ⟨answer, d⟩
      simp [Session.rollback_on_unfinished finished answered]

theorem Calls.execute (e : Execution) : Calls ⟨s, h⟩ ⟨((Session.execute e).on s).2, h⟩ :=
  (Move.execute e).noting (by simp [Session.execute_on])

end Usage

-----------------------------------------------------------------------------------------
-- Actions as runs
-----------------------------------------------------------------------------------------

/-- The action is a run that takes the handles (before) and leaves the handles (after), whatever
else is held.
-/
def SessionM.Trades (action : SessionM δ α) (before after : Multiset TransactionId) : Prop :=
  ∀ s others, Usage.Calls ⟨s, before + others⟩ ⟨(action.on s).2, after + others⟩

/-- The action, failing or not, is a run that takes the first handles and leaves the second. -/
def Action.Trades (action : Action δ α) (before after : Multiset TransactionId) : Prop :=
  SessionM.Trades action.run before after

/-- The action is a run that leaves the held handles as they are. -/
def Action.Steady (action : Action δ α) : Prop :=
  ∀ handles, action.Trades handles handles

namespace Session

theorem cloneHandle_trades (id : TransactionId)
    : (cloneHandle id : SessionM δ Unit).Trades {id} (id ::ₘ {id}) := by
  intro s others
  have held : id ∈ ({id} + others : Multiset TransactionId) := by simp
  simpa only [Multiset.singleton_add, Multiset.cons_add]
    using (Usage.Move.clone (s := s) held).keeping rfl

theorem dropHandle_trades (id : TransactionId)
    : (dropHandle id : SessionM δ Unit).Trades {id} 0 := by
  intro s others
  have held : id ∈ ({id} + others : Multiset TransactionId) := by simp
  simpa using Usage.Calls.drop (s := s) held

theorem commit_trades (id : TransactionId)
    : (Session.commit id : Action δ Unit).Trades {id} {id} :=
  fun _ _ => .commit (by simp)

theorem rollback_trades (id : TransactionId)
    : (Session.rollback id : SessionM δ Unit).Trades {id} {id} :=
  fun _ _ => .rollback (by simp)

theorem execute_steady (e : Execution) : (execute e : Action δ QueryOutput).Steady :=
  fun _ _ _ => .execute e

end Session

namespace Action

theorem Steady.pure (value : α) : (Pure.pure value : Action δ α).Steady :=
  fun _ _ _ => .refl

theorem Steady.throw (error : SqlError) : (MonadExcept.throw error : Action δ α).Steady :=
  fun _ _ _ => .refl

theorem Steady.mk_pure (outcome : Except SqlError α)
    : Action.Steady (δ := δ) (ExceptT.mk (Pure.pure outcome)) :=
  fun _ _ _ => .refl

/-- Runs compose; after a failure the rest does not run. -/
theorem Steady.bind {action : Action δ α} {next : α → Action δ β} (first : action.Steady)
    (second : ∀ value, (next value).Steady)
    : (action >>= next).Steady := by
  intro handles s others
  have moves := first handles s others
  rw [SessionM.on_run] at moves ⊢
  rcases outcome : action.on s with ⟨error | value, t⟩
  · rw [outcome] at moves
    rwa [Action.on_bind_error outcome]
  · rw [outcome] at moves
    rw [Action.on_bind_ok outcome]
    exact moves.trans (second value handles t others)

theorem Steady.map {action : Action δ α} (steady : action.Steady) (f : α → β)
    : (do return f (← action) : Action δ β).Steady :=
  steady.bind fun _ => .pure _

/-- What a session does cannot fail, so what follows it always runs. -/
theorem Trades.lift_bind {action : SessionM δ α} {next : α → Action δ β}
    {before between after : Multiset TransactionId} (first : action.Trades before between)
    (second : ∀ value, (next value).Trades between after)
    : Action.Trades (ExceptT.lift action >>= next) before after := by
  intro s others
  rw [SessionM.on_run, Action.on_bind_ok (Action.on_exceptLift action s)]
  exact (first s others).trans (second _ _ others)

/-- An action that begins a transaction owns its first handle; when it gives that up by the end, the
handles are as before.
-/
theorem Steady.begin_bind {next : TransactionId → Action δ α}
    (rest : ∀ id, (next id).Trades {id} 0)
    : (Session.begin >>= next).Steady := by
  intro handles s others
  rw [SessionM.on_run]
  rcases opened : Session.begin.on s with ⟨error | id, t⟩
  · rw [Action.on_bind_error opened]
    exact .refused opened
  · rw [Action.on_bind_ok opened]
    have moves := rest id t (handles + others)
    rw [Multiset.singleton_add, zero_add] at moves
    exact (Usage.Calls.began opened).trans moves

end Action

-----------------------------------------------------------------------------------------
-- Statements
-----------------------------------------------------------------------------------------

namespace Session

open SqlAssembly.Action (Steady)

theorem allows_steady (guard : Option Guard)
    : Action.Steady (δ := δ) (liftM (allows guard : SessionM δ Bool)) := by
  intro handles s others
  rcases guard with _ | _ | answer
  · exact .refl
  · exact .refl
  · exact (Usage.Move.ask answer).noting (by simp)

theorem guarded_steady {default : α} {action : Action δ α} (terms : Terms)
    (steady : action.Steady)
    : (guarded terms default action).Steady := by
  refine (allows_steady terms.guard).bind fun allowed => ?_
  cases allowed with
  | true => exact steady
  | false => exact .pure default

theorem perform_steady (type : StatementType) (sql : Except ParamError Text) (terms : Terms)
    : (perform type sql terms : Action δ QueryOutput).Steady :=
  (Steady.mk_pure _).bind fun _ => execute_steady _

/-- Every structured statement is the guarded reading of the output of one text. -/
theorem statement_steady {default : α} (type : StatementType) (sql : Except ParamError Text)
    (terms : Terms) (read : QueryOutput → α)
    : (guarded terms default do return read (← perform type sql terms) : Action δ α).Steady :=
  guarded_steady terms ((perform_steady type sql terms).map read)

theorem selectOne_steady (s : Select) (terms : Terms)
    : (selectOne s terms : Action δ _).Steady :=
  (statement_steady _ _ _ _).map List.head?

theorem insert_steady (s : Insert) (mode : InsertMode) (terms : Terms)
    : (insert s mode terms : Action δ _).Steady :=
  statement_steady _ _ _ _

theorem insertAndFetch_steady (s : Insert) (terms : Terms)
    : (insertAndFetch s terms : Action δ _).Steady := by
  refine (insert_steady s .plain terms).bind fun inserted => ?_
  cases inserted.bind (·.insertId) with
  | none => exact .pure _
  | some id => exact selectOne_steady _ _

/-- The lookup and the write of an upsert leave its transaction held. -/
theorem upsertIn_steady (s : UpdateOrInsert) (id : TransactionId)
    : (upsertIn s id : Action δ _).Steady := by
  refine (selectOne_steady _ _).bind fun found => ?_
  cases found with
  | some row => exact (statement_steady _ _ _ _).bind fun _ => .pure _
  | none => exact (insert_steady _ _ _).bind fun _ => .pure _

/-- An upsert of its own holds the one handle of its transaction and gives it up at the end. -/
theorem upsertAlone_steady (s : UpdateOrInsert) : (upsertAlone s : Action δ _).Steady := by
  refine .begin_bind fun id => ?_
  have undo (error : SqlError)
      : Action.Trades (δ := δ) (α := Option Nat)
          (do
            (rollback id : SessionM δ Unit)
            (dropHandle id : SessionM δ Unit)
            throw error)
          {id} 0 :=
    .lift_bind (rollback_trades id) fun _ =>
      .lift_bind (dropHandle_trades id) fun _ => Steady.throw error 0
  refine .lift_bind (upsertIn_steady s id {id}) fun outcome => ?_
  cases outcome with
  | error error => exact undo error
  | ok key =>
      refine .lift_bind (commit_trades id) fun committed => ?_
      cases committed with
      | error error => exact undo error
      | ok done => exact .lift_bind (dropHandle_trades id) fun _ => Steady.pure key 0

theorem updateOrInsert_steady (s : UpdateOrInsert) (terms : Terms)
    : (updateOrInsert s terms : Action δ _).Steady := by
  refine guarded_steady terms ((Steady.mk_pure _).bind fun _ => ?_)
  cases terms.transaction with
  | some id => exact upsertIn_steady s id
  | none => exact upsertAlone_steady s

theorem createBySql_steady (sql : Text) (replacements : Replacements)
    (id : Option TransactionId)
    : (createBySql sql replacements id : Action δ _).Steady :=
  (execute_steady _).bind fun _ => .pure _

theorem executeScript_steady (script : Text) : (executeScript script : Action δ _).Steady :=
  (execute_steady _).map QueryOutput.affectedRows

theorem dropDatabase_steady (name : Text) : (dropDatabase name : Action δ _).Steady :=
  (Steady.mk_pure _).bind fun _ => (execute_steady _).bind fun _ => .pure _

theorem createDatabase_steady (name : Text) (force : Bool)
    : (createDatabase name force : Action δ _).Steady := by
  refine (Steady.mk_pure _).bind fun name => ?_
  have creating := createBySql_steady (δ := δ) ("create database ".toList ++ name) .none none
  cases force with
  | false => exact creating
  | true =>
      intro handles
      refine .lift_bind (dropDatabase_steady name handles) fun dropped => ?_
      cases dropped with
      | ok done => exact creating handles
      | error error =>
          exact .lift_bind (fun _ _ => (Usage.Move.suppress error).noting (by simp)) fun _ =>
            creating handles

end Session

end SqlAssembly
