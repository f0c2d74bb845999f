import SqlAssembly.Proofs.Session.Chronicle
import SqlAssembly.Proofs.Session.Usage

/-! What one move of a usage can do, said once. A move notes something that concerns no
transaction, begins one, changes the number of handles of one, or ends one.
-/

namespace SqlAssembly

open Session (abandonment rollbackLog)

variable {δ : Type}

/-- The entries concern no transaction. -/
def Silent (entries : List Entry) : Prop :=
  ∀ id, entries.filter (Entry.concerns id) = []

variable [Driver δ]

/-- The driver was called about no transaction, or not at all. -/
inductive Consulted : δ → δ → Prop
  | not (d : δ) : Consulted d d
  | refused {d e : δ} {error : SqlError} (answer : Driver.beginTransaction d = (.error error, e))
    : Consulted d e
  | executed (d : δ) (e : Execution) : Consulted d (Driver.execute e d).2
  | authenticated (d : δ) : Consulted d (Driver.authenticate d).2
  | closed (d : δ) : Consulted d (Driver.close d).2

/-- The change that a move makes, with what the driver answered. -/
inductive Usage.Effect : Usage δ → Usage δ → Prop
  | noted {s h d entries} (silent : Silent entries) (consulted : Consulted s.driver d)
    : Effect ⟨s, h⟩ ⟨s.noting d entries, h⟩
  | disturbed {s h} (d : δ) : Effect ⟨s, h⟩ ⟨s.noting d [], h⟩
  | began {s h id d} (answer : Driver.beginTransaction s.driver = (.ok id, d))
    : Effect ⟨s, h⟩ ⟨s.begun d id, id ::ₘ h⟩
  | cloned {s h id} (held : id ∈ h) : Effect ⟨s, h⟩ ⟨s.moreHandle id, id ::ₘ h⟩
  | dropped {s h id} (held : id ∈ h)
    (kept : ∀ t, (s.lessHandle id).transaction? id = some t → t.handles ≠ 0 ∨ t.finished = true)
    : Effect ⟨s, h⟩ ⟨s.lessHandle id, h.erase id⟩
  | abandoned {s h id t} (held : id ∈ h) (found : (s.lessHandle id).transaction? id = some t)
    (last : t.handles = 0) (unfinished : t.finished = false)
    : Effect ⟨s, h⟩
        ⟨
          (s.lessHandle id).noting ((Driver.release? id s.driver).getD s.driver)
            (abandonment id (Driver.release? id s.driver).isSome),
          h.erase id
        ⟩
  | refused {s h id error d} (held : id ∈ h) (unfinished : s.isFinished id = false)
    (answer : Driver.commit id s.driver = (.error error, d))
    : Effect ⟨s, h⟩ ⟨s.noting d [.commit id false], h⟩
  | committed {s h id d} (held : id ∈ h) (unfinished : s.isFinished id = false)
    (answer : Driver.commit id s.driver = (.ok (), d))
    : Effect ⟨s, h⟩
        ⟨(s.noting d [.commit id true, .log (.transaction .committed id)]).finishing id, h⟩
  | rolledBack {s h id answer d} (held : id ∈ h) (unfinished : s.isFinished id = false)
    (answered : Driver.rollback id s.driver = (answer, d))
    : Effect ⟨s, h⟩
        ⟨(s.noting d [.rollback id, .log (rollbackLog id answer)]).finishing id, h⟩

theorem Usage.Effect.refl (u : Usage δ) : u.Effect u := by
  have noted := Usage.Effect.noted (s := u.session) (h := u.handles)
    (show Silent [] from fun _ => rfl) (.not u.session.driver)
  simpa [Session.noting] using noted

theorem Usage.Effect.of_drop (s : Session δ) {h : Multiset TransactionId} {id : TransactionId}
    (held : id ∈ h)
    : Usage.Effect ⟨s, h⟩ ⟨((Session.dropHandle id).on s).2, h.erase id⟩ := by
  rcases Session.dropHandle_cases s id with ⟨same, kept⟩ | ⟨t, found, last, unfinished⟩
  · rw [same]
    exact .dropped held kept
  · rw [Session.dropHandle_on_last found last unfinished]
    exact .abandoned held found last unfinished

theorem Usage.Effect.of_commit (s : Session δ) {h : Multiset TransactionId} {id : TransactionId}
    (held : id ∈ h)
    : Usage.Effect ⟨s, h⟩ ⟨((Session.commit id).on s).2, h⟩ := by
  cases finished : s.isFinished id with
  | true =>
      rw [Session.commit_on_finished finished]
      exact .refl _
  | false =>
      rcases answer : Driver.commit id s.driver with ⟨error | done, d⟩
      · rw [Session.commit_on_error finished answer]
        exact .refused held finished answer
      · rw [Session.commit_on_ok finished answer]
        exact .committed held finished answer

theorem Usage.Effect.of_rollback (s : Session δ) {h : Multiset TransactionId}
    {id : TransactionId} (held : id ∈ h)
    : Usage.Effect ⟨s, h⟩ ⟨((Session.rollback id).on s).2, h⟩ := by
  cases finished : s.isFinished id with
  | true =>
      rw [Session.rollback_on_finished finished]
      exact .refl _
  | false =>
      rcases answered : Driver.rollback id s.driver with ⟨answer, d⟩
      rw [Session.rollback_on_unfinished finished answered]
      exact .rolledBack held finished answered

/-- Every move has one of these effects, by cases on the move and on the driver's answer. -/
theorem Usage.Move.effect {u v : Usage δ} (move : u.Move v) : u.Effect v := by
  cases move with
  | @began s t h id granted =>
      rcases answer : Driver.beginTransaction s.driver with ⟨error | issued, d⟩
      · rw [Session.begin_on_error answer] at granted
        simp at granted
      · rw [Session.begin_on_ok answer] at granted
        simp only [Prod.mk.injEq, Except.ok.injEq] at granted
        obtain ⟨rfl, rfl⟩ := granted
        exact .began answer
  | @refused s t h error failed =>
      rcases answer : Driver.beginTransaction s.driver with ⟨error | issued, d⟩
      · rw [Session.begin_on_error answer] at failed
        simp only [Prod.mk.injEq] at failed
        obtain ⟨_, rfl⟩ := failed
        exact .noted (fun _ => rfl) (.refused answer)
      · rw [Session.begin_on_ok answer] at failed
        simp at failed
  | clone held => exact .cloned held
  | drop held => exact .of_drop _ held
  | commit held => exact .of_commit _ held
  | rollback held => exact .of_rollback _ held
  | execute e =>
      rw [Session.execute_on]
      exact .noted (fun _ => rfl) (.executed _ e)
  | authenticate => exact .noted (fun _ => rfl) (.authenticated _)
  | close => exact .noted (fun _ => rfl) (.closed _)
  | ask answer => exact .noted (fun _ => rfl) (.not _)
  | suppress error => exact .noted (fun _ => rfl) (.not _)
  | @control s h change =>
      have disturbed := Usage.Effect.disturbed (s := s) (h := h) (change s.driver)
      simpa [Session.noting] using disturbed

end SqlAssembly
