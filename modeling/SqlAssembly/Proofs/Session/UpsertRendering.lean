import SqlAssembly.Proofs.Session.Upserts
import SqlAssembly.Proofs.Statement.FallbackRow

/-! Which errors an upsert raises late. A valid upsert renders its lookup and its update. Its insert
is rendered from other values, of which nothing is left when the criteria ask for null everywhere,
and then it is refused only after the lookup.
-/

namespace SqlAssembly

variable {δ : Type}

-----------------------------------------------------------------------------------------
-- Rendering
-----------------------------------------------------------------------------------------

namespace UpdateOrInsert

variable {s : UpdateOrInsert}

/-- Some column of the row to insert is written a value that is not null. -/
def Fills (s : UpdateOrInsert) : Prop :=
  ∃ column value, s.written? column = some value ∧ value.isNull = false

theorem update_renders (valid : s.validate = .ok ()) : ∃ line, s.update.toSql = .ok line := by
  obtain ⟨named, given⟩ := validate_eq_ok_iff.mp valid
  have set : (Clause.update s.update.set).assemble.isEmpty = false := by
    change (if s.values.nonNull.isEmpty then [] else _ : Text).isEmpty = false
    rw [if_neg (by simpa using given)]
    rfl
  rw [Update.toSql, show s.update.table = s.table from rfl, requireTable_ok named]
  simp only [bind, Except.bind, set]
  exact ⟨_, rfl⟩

theorem insert_renders (distinct : s.values.keys.Nodup) (valid : s.validate = .ok ())
    : (∃ line, s.insert.toSql .plain = .ok line) ↔ s.Fills := by
  rw [insert_renders_iff, insertedValues_nonNull_iff distinct]
  exact and_iff_right (validate_eq_ok_iff.mp valid).1

/-- An insert of nothing is refused for that. -/
theorem insert_refused (distinct : s.values.keys.Nodup) (valid : s.validate = .ok ())
    (unfilled : ¬s.Fills)
    : s.insert.toSql .plain = .error .insertEmpty := by
  have named := (validate_eq_ok_iff.mp valid).1
  have none : s.insertedValues.nonNull = [] := by
    by_contra given
    exact unfilled ((insertedValues_nonNull_iff distinct).mp given)
  exact Insert.toSql_empty named (Clause.insertText_eq_nil_iff.mpr none) .plain

/-- Either write has a text. -/
theorem write_renders (distinct : s.values.keys.Nodup) (valid : s.validate = .ok ())
    (fills : s.Fills) (found : Option Row)
    : ∃ line, (s.write found).2 = .ok line := by
  cases found with
  | some row => exact update_renders valid
  | none => exact (insert_renders distinct valid).mpr fills

end UpdateOrInsert

-----------------------------------------------------------------------------------------
-- Failures
-----------------------------------------------------------------------------------------

/-- From this state on, some call to the driver comes to answer with the error. -/
inductive Driver.Reports [Driver δ] : δ → SqlError → Prop
  | execute {x d e error} (failed : Driver.execute x d = (.error error, e)) : Reports d error
  | begin {d e error} (failed : Driver.beginTransaction d = (.error error, e)) : Reports d error
  | commit {id d e error} (failed : Driver.commit id d = (.error error, e)) : Reports d error
  | executed {x d answer e error} (called : Driver.execute x d = (answer, e))
    (later : Reports e error)
    : Reports d error
  | begun {d answer e error} (called : Driver.beginTransaction d = (answer, e))
    (later : Reports e error)
    : Reports d error

namespace UpdateOrInsert.Runs

variable [Driver δ] {s : UpdateOrInsert} {id : TransactionId} {d e : δ}
  {outcome : Except SqlError (Option Nat)} {entries : List Entry} {error : SqlError}

/-- What the driver answers after an upsert, it comes to answer. -/
theorem later (runs : s.Runs id d outcome e entries) (reports : Driver.Reports e error)
    : Driver.Reports d error := by
  cases runs with
  | lookupFailed lookup failed => exact .executed failed reports
  | unrendered lookup found => exact .executed found reports
  | writeFailed lookup found rendered failed => exact .executed found (.executed failed reports)
  | written lookup found rendered done => exact .executed found (.executed done reports)

/-- An upsert whose writes have texts fails only with what the driver answers. -/
theorem reports (runs : s.Runs id d outcome e entries)
    (renders : ∀ found, ∃ line, (s.write found).2 = .ok line) (failed : outcome = .error error)
    : Driver.Reports d error := by
  cases runs with
  | lookupFailed lookup refused =>
      cases failed
      exact .execute refused
  | @unrendered look output between cause lookup found unrendered =>
      obtain ⟨line, rendered⟩ := renders output.rowList.head?
      rw [rendered] at unrendered
      cases unrendered
  | writeFailed lookup found rendered refused =>
      cases failed
      exact .executed found (.execute refused)
  | written => cases failed

end UpdateOrInsert.Runs

namespace Session

variable [Driver δ] {s : UpdateOrInsert} {id : TransactionId} {look : Text} {output : QueryOutput}
  {cause : ParamError} {t : Session δ} {d e : δ}

/-- An upsert whose lookup returned no row stops there when its insert has no text. -/
theorem upsertIn_on_unrendered (lookup : s.lookup.toSql = .ok look)
    (found : Driver.execute (.bound id .select look) t.driver = (.ok output, e))
    (missed : output.rowList.head? = none) (unrendered : s.insert.toSql .plain = .error cause)
    : (upsertIn s id).on t
      = (.error (.param cause), t.noting e (Execution.bound id .select look).entries) := by
  have looked := selectOne_on_ok id lookup t
  rw [found] at looked
  have write : (s.write output.rowList.head?).2 = .error cause := by rw [missed]; exact unrendered
  rw [upsertIn_eq, Action.on_bind_ok looked, upsertWrite_on_error write]

/-- In a transaction of its own, it is rolled back from there. -/
theorem upsertAlone_on_unrendered (answer : Driver.beginTransaction t.driver = (.ok id, d))
    (fresh : id ∉ t.ids) (lookup : s.lookup.toSql = .ok look)
    (found : Driver.execute (.bound id .select look) d = (.ok output, e))
    (missed : output.rowList.head? = none) (unrendered : s.insert.toSql .plain = .error cause)
    : ∃ closing,
        ((upsertAlone s).on t).1 = .error (.param cause)
        ∧ ((upsertAlone s).on t).2.journal
          = t.journal
            ++ ([.begin, .log (.transaction .began id)]
              ++ (Execution.bound id .select look).entries ++ [.rollback id, closing]) := by
  let stopped := (t.begun d id).noting e (Execution.bound id .select look).entries
  have ran : (upsertIn s id).on (t.begun d id) = (.error (.param cause), stopped) :=
    upsertIn_on_unrendered lookup found missed unrendered
  have record := begun_transaction? fresh d
  have unfinished : stopped.isFinished id = false :=
    congrArg (Option.all Transaction.finished) record
  obtain ⟨result, u, closes, concluded⟩ :=
    conclude_on id (.error (.param cause) : Except SqlError (Option Nat)) stopped
  rw [upsertAlone_on_begun (begin_on_ok answer), ran, concluded]
  cases closes with
  | settled finished =>
      rw [unfinished] at finished
      cases finished
  | @failed _ _ answer f _ answered =>
      refine ⟨.log (rollbackLog id answer), rfl, ?_⟩
      simp [stopped]

/-- An upsert that can be rendered fails with what the driver answers. -/
theorem upsertAlone_reports (valid : s.validate = .ok ())
    (renders : ∀ found, ∃ line, (s.write found).2 = .ok line) {error : SqlError}
    (failed : ((upsertAlone s).on t).1 = .error error)
    : Driver.Reports t.driver error := by
  rcases answer : Driver.beginTransaction t.driver with ⟨refusal | id, d⟩
  · have opened := begin_on_error answer
    rw [upsertAlone, Action.on_bind_error opened] at failed
    cases failed
    exact .begin answer
  · obtain ⟨outcome, e, entries, result, u, runs, closes, ran⟩ :=
      upsertAlone_on_granted valid answer
    rw [ran] at failed
    refine .begun answer ?_
    cases closes with
    | settled => exact runs.reports renders failed
    | failed => exact runs.reports renders failed
    | committed => cases failed
    | refused unfinished refused =>
        cases failed
        exact runs.later (.commit refused)

/-- In either mode an upsert that can be rendered fails with what the driver answers. -/
theorem updateOrInsert_reports {terms : Terms} (permitted : Guard.permits terms.guard = true)
    (valid : s.validate = .ok ()) (renders : ∀ found, ∃ line, (s.write found).2 = .ok line)
    {error : SqlError} (failed : ((updateOrInsert s terms).on t).1 = .error error)
    : Driver.Reports t.driver error := by
  rw [updateOrInsert_on permitted valid] at failed
  cases mode : terms.transaction with
  | some id =>
      obtain ⟨outcome, e, entries, runs, ran⟩ := upsertIn_on valid id t.driver
      rw [mode, ran (t.noting t.driver (Guard.asked terms.guard)) rfl] at failed
      exact runs.reports renders failed
  | none =>
      rw [mode] at failed
      exact upsertAlone_reports (t := t.noting t.driver (Guard.asked terms.guard)) valid renders
        failed

end Session

/-- Which errors an upsert raises late that its guard allows and that is valid. Its lookup and its
update have texts. Its insert has one exactly when some column is written a value that is not null;
then the upsert fails only with what the driver answers. Otherwise it fails at the insert, once the
lookup returned no row: inside the transaction of a caller, or behind the begin of its own, which
is rolled back.
-/
structure UpdateOrInsert.Raises [Driver δ] (s : UpdateOrInsert) (terms : Terms) (t : Session δ)
    : Prop where
  lookup : ∃ line, s.lookup.toSql = .ok line
  update : ∃ line, s.update.toSql = .ok line
  insert : (∃ line, s.insert.toSql .plain = .ok line) ↔ s.Fills
  empty : ¬s.Fills → s.insert.toSql .plain = .error .insertEmpty
  filled
    : ∀ error,
        s.Fills
        → ((Session.updateOrInsert s terms).on t).1 = .error error
        → Driver.Reports t.driver error
  inside
    : ∀ id look output e,
        ¬s.Fills
        → terms.transaction = some id
        → s.lookup.toSql = .ok look
        → Driver.execute (.bound id .select look) t.driver = (.ok output, e)
        → output.rowList.head? = none
        → (Session.updateOrInsert s terms).on t
          = (
            .error (.param .insertEmpty),
            t.noting e (Guard.asked terms.guard ++ (Execution.bound id .select look).entries)
          )
  alone
    : ∀ id d look output e,
        ¬s.Fills
        → terms.transaction = none
        → Driver.beginTransaction t.driver = (.ok id, d)
        → id ∉ t.ids
        → s.lookup.toSql = .ok look
        → Driver.execute (.bound id .select look) d = (.ok output, e)
        → output.rowList.head? = none
        → ∃ closing,
            ((Session.updateOrInsert s terms).on t).1 = .error (.param .insertEmpty)
            ∧ ((Session.updateOrInsert s terms).on t).2.journal
              = t.journal
                ++ (Guard.asked terms.guard
                  ++ ([.begin, .log (.transaction .began id)]
                    ++ (Execution.bound id .select look).entries ++ [.rollback id, closing]))

/-- A valid upsert raises an error late only when its insert would write nothing. -/
theorem upserts_raise [Driver δ] (s : UpdateOrInsert) (terms : Terms) (t : Session δ)
    (distinct : s.values.keys.Nodup) (permitted : Guard.permits terms.guard = true)
    (valid : s.validate = .ok ())
    : s.Raises terms t where
  lookup := UpdateOrInsert.lookup_renders valid
  update := UpdateOrInsert.update_renders valid
  insert := UpdateOrInsert.insert_renders distinct valid
  empty := UpdateOrInsert.insert_refused distinct valid
  filled _ fills failed :=
    Session.updateOrInsert_reports permitted valid
      (UpdateOrInsert.write_renders distinct valid fills) failed
  inside id look output e unfilled caller lookup found missed := by
    have unrendered := UpdateOrInsert.insert_refused distinct valid unfilled
    have stopped := Session.upsertIn_on_unrendered
      (t := t.noting t.driver (Guard.asked terms.guard)) lookup found missed unrendered
    rw [Session.noting_noting] at stopped
    rw [Session.updateOrInsert_on permitted valid, caller]
    exact stopped
  alone id d look output e unfilled own answer fresh lookup found missed := by
    have unrendered := UpdateOrInsert.insert_refused distinct valid unfilled
    obtain ⟨closing, failed, journal⟩ := Session.upsertAlone_on_unrendered
      (t := t.noting t.driver (Guard.asked terms.guard)) answer fresh lookup found missed unrendered
    rw [Session.updateOrInsert_on permitted valid, own]
    refine ⟨closing, failed, journal.trans ?_⟩
    rw [Session.noting_journal, List.append_assoc]

/-- An upsert of an amount whose criteria ask the amount to be null. -/
def UpdateOrInsert.nulling : UpdateOrInsert :=
  {
    table := "balances",
    values := [("amount", .ofNat 1)],
    criteria := Criteria.empty.and "amount" (.scalar .null)
  }

/-- The null takes the place of the amount, so that nothing is left to insert. -/
theorem UpdateOrInsert.nulling_unfilled : ¬nulling.Fills := by
  rw [Fills, ← insertedValues_nonNull_iff (by decide), not_ne_iff]
  rfl

/-- An upsert may be valid and its insert have no text. -/
theorem null_term_empties_insert
    : ¬∀ s : UpdateOrInsert, s.validate = .ok () → ∃ line, s.insert.toSql .plain = .ok line := by
  intro renders
  obtain ⟨line, rendered⟩ := renders .nulling rfl
  have refused : UpdateOrInsert.nulling.insert.toSql .plain = .error .insertEmpty := rfl
  cases rendered.symm.trans refused

/-- A new session on a driver with nothing prepared. -/
def ScriptedDriver.unprepared : Session ScriptedDriver :=
  { driver := {} }

/-- On a new session the upsert begins a transaction and looks the row up before it fails. -/
theorem nulling_raises_late
    : let after := (Session.updateOrInsert .nulling {}).on ScriptedDriver.unprepared
      UpdateOrInsert.nulling.values.keys.Nodup
      ∧ Guard.permits none = true
      ∧ UpdateOrInsert.nulling.validate = .ok ()
      ∧ after.1 = .error (.param .insertEmpty)
      ∧ ∃ look closing,
          UpdateOrInsert.nulling.lookup.toSql = .ok look
          ∧ after.2.journal
            = [.begin, .log (.transaction .began "tx-1")]
              ++ (Execution.bound "tx-1" .select look).entries ++ [.rollback "tx-1", closing] := by
  have distinct : UpdateOrInsert.nulling.values.keys.Nodup := by decide
  have raises := upserts_raise .nulling {} ScriptedDriver.unprepared distinct rfl rfl
  obtain ⟨look, lookup⟩ := raises.lookup
  obtain ⟨closing, failed, journal⟩ :=
    raises.alone "tx-1" _ look _ _ UpdateOrInsert.nulling_unfilled rfl rfl List.not_mem_nil
      lookup rfl rfl
  exact ⟨distinct, rfl, rfl, failed, look, closing, lookup, journal⟩

end SqlAssembly
