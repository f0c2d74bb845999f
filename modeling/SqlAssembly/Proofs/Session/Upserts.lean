import SqlAssembly.Proofs.Session.Scopes
import SqlAssembly.Proofs.Session.Statements

/-! An upsert in a transaction of its own is one in the transaction of a caller, run in a scope. In
either mode the lookup comes first and decides which write follows, and the guard is asked once.
-/

namespace SqlAssembly

variable {δ α β : Type}

-----------------------------------------------------------------------------------------
-- Statements of a transaction
-----------------------------------------------------------------------------------------

/-- A statement in a transaction. -/
def Execution.bound (id : TransactionId) (type : StatementType) (sql : Text) : Execution :=
  { sql := sql, type := type, transaction := some id }

namespace Session

variable [Driver δ]

/-- A statement in a transaction that cannot be rendered is not executed. -/
theorem statement_on_error {default : α} {read : QueryOutput → α} (id : TransactionId)
    (type : StatementType) {sql : Except ParamError Text} {cause : ParamError}
    (unrendered : sql = .error cause) (t : Session δ)
    : (guarded { transaction := some id } default do
          return read (← perform type sql { transaction := some id })).on t
      = (.error (.param cause), t) := by
  rw [(statement_performs default type sql _ read).unrendered rfl cause unrendered]
  exact congrArg _ (noting_nil t)

/-- A statement in a transaction that is rendered is executed, and its output is read. -/
theorem statement_on_ok {default : α} {read : QueryOutput → α} (id : TransactionId)
    (type : StatementType) {sql : Except ParamError Text} {text : Text}
    (rendered : sql = .ok text) (t : Session δ)
    : (guarded { transaction := some id } default do
          return read (← perform type sql { transaction := some id })).on t
      = (
        (Driver.execute (.bound id type text) t.driver).1.map read,
        t.noting (Driver.execute (.bound id type text) t.driver).2
          (Execution.bound id type text).entries
      ) := by
  rw [(statement_performs default type sql _ read).executed rfl text rendered]
  rfl

end Session

-----------------------------------------------------------------------------------------
-- Inside a transaction
-----------------------------------------------------------------------------------------

namespace UpdateOrInsert

/-- The write that follows the lookup: the update when it found a row, or else the insert. -/
def write (s : UpdateOrInsert) : Option Row → StatementType × Except ParamError Text
  | some _ => (.update, s.update.toSql)
  | none => (.insert, s.insert.toSql .plain)

/-- The answer of an upsert: the key of the row that was found, or else the generated one. -/
def key : Option Row → QueryOutput → Option Nat
  | some row, _ => (row.get? Session.keyColumn).bind Session.naturalOf?
  | none, output => output.asInsert.insertId

/-- An upsert that is valid has a table, and then its lookup has a text. -/
theorem lookup_renders {s : UpdateOrInsert} (valid : s.validate = .ok ())
    : ∃ text, s.lookup.toSql = .ok text := by
  cases table : requireTable s.table with
  | error cause => simp [validate, table, bind, Except.bind] at valid
  | ok name => simp [lookup, Select.toSql, table, bind, Except.bind]

end UpdateOrInsert

/-- An upsert in a transaction that meets the driver in the first state comes to the outcome, leaves
the second state and notes the entries. The lookup comes first. The write follows if it succeeded,
and is the update if it returned a row; an output of any other shape has none.
-/
inductive UpdateOrInsert.Runs [Driver δ] (s : UpdateOrInsert) (id : TransactionId) (d : δ)
    : Except SqlError (Option Nat) → δ → List Entry → Prop
  | lookupFailed {look error e} (lookup : s.lookup.toSql = .ok look)
    (failed : Driver.execute (.bound id .select look) d = (.error error, e))
    : Runs s id d (.error error) e (Execution.bound id .select look).entries
  | unrendered {look output e cause} (lookup : s.lookup.toSql = .ok look)
    (found : Driver.execute (.bound id .select look) d = (.ok output, e))
    (unrendered : (s.write output.rowList.head?).2 = .error cause)
    : Runs s id d (.error (.param cause)) e (Execution.bound id .select look).entries
  | writeFailed {look output e text error f} (lookup : s.lookup.toSql = .ok look)
    (found : Driver.execute (.bound id .select look) d = (.ok output, e))
    (rendered : (s.write output.rowList.head?).2 = .ok text)
    (failed
      : Driver.execute (.bound id (s.write output.rowList.head?).1 text) e = (.error error, f))
    : Runs s id d (.error error) f
        ((Execution.bound id .select look).entries
          ++ (Execution.bound id (s.write output.rowList.head?).1 text).entries)
  | written {look output e text answer f} (lookup : s.lookup.toSql = .ok look)
    (found : Driver.execute (.bound id .select look) d = (.ok output, e))
    (rendered : (s.write output.rowList.head?).2 = .ok text)
    (done : Driver.execute (.bound id (s.write output.rowList.head?).1 text) e = (.ok answer, f))
    : Runs s id d (.ok (key output.rowList.head? answer)) f
        ((Execution.bound id .select look).entries
          ++ (Execution.bound id (s.write output.rowList.head?).1 text).entries)

namespace UpdateOrInsert.Runs

variable [Driver δ] {s : UpdateOrInsert} {id : TransactionId} {d e : δ}
  {outcome : Except SqlError (Option Nat)} {entries : List Entry}

/-- An upsert in a transaction does nothing but execute statements of that transaction. -/
theorem statements (runs : s.Runs id d outcome e entries)
    : ∀ entry ∈ entries, ∃ x : Execution, x.transaction = some id ∧ entry ∈ x.entries := by
  intro entry member
  cases runs with
  | lookupFailed | unrendered => exact ⟨_, rfl, member⟩
  | writeFailed | written =>
      rcases List.mem_append.mp member with look | write
      · exact ⟨_, rfl, look⟩
      · exact ⟨_, rfl, write⟩

/-- No statement asks a guard. -/
theorem guard_notMem (runs : s.Runs id d outcome e entries) (answer : Bool)
    : Entry.guard answer ∉ entries := by
  intro member
  obtain ⟨x, -, among⟩ := runs.statements _ member
  simp [Execution.entries] at among

end UpdateOrInsert.Runs

namespace Session

variable [Driver δ]

/-- What an upsert does after its lookup. -/
def upsertWrite (s : UpdateOrInsert) (id : TransactionId) : Option Row → Action δ (Option Nat)
  | some row => do
      let _ ← update s.update { transaction := some id }
      return (row.get? keyColumn).bind naturalOf?
  | none => do
      let inserted ← insert s.insert .plain { transaction := some id }
      return inserted.bind (·.insertId)

theorem upsertIn_eq (s : UpdateOrInsert) (id : TransactionId)
    : (upsertIn s id : Action δ _)
      = selectOne s.lookup { transaction := some id } >>= upsertWrite s id := by
  refine bind_congr fun found => ?_
  cases found <;> rfl

theorem upsertWrite_on_error {s : UpdateOrInsert} {id : TransactionId} {found : Option Row}
    {cause : ParamError} (unrendered : (s.write found).2 = .error cause) (t : Session δ)
    : (upsertWrite s id found).on t = (.error (.param cause), t) := by
  cases found with
  | some row => exact Action.on_bind_error (statement_on_error id .update unrendered t)
  | none => exact Action.on_bind_error (statement_on_error id .insert unrendered t)

theorem upsertWrite_on_ok {s : UpdateOrInsert} {id : TransactionId} {found : Option Row}
    {text : Text} (rendered : (s.write found).2 = .ok text) (t : Session δ)
    : (upsertWrite s id found).on t
      = (
        (Driver.execute (.bound id (s.write found).1 text) t.driver).1.map
          (UpdateOrInsert.key found),
        t.noting (Driver.execute (.bound id (s.write found).1 text) t.driver).2
          (Execution.bound id (s.write found).1 text).entries
      ) := by
  cases found with
  | some row =>
      have ran
          : (update s.update { transaction := some id } : Action δ Nat).on t = _ :=
        statement_on_ok id .update rendered t
      rw [upsertWrite, Action.on_bind_pure, ran, show (s.write (some row)).1 = .update from rfl]
      rcases Driver.execute (.bound id .update text) t.driver with ⟨error | output, d⟩ <;> rfl
  | none =>
      have ran
          : (insert s.insert .plain { transaction := some id } : Action δ _).on t = _ :=
        statement_on_ok id .insert rendered t
      rw [upsertWrite, Action.on_bind_pure, ran, show (s.write none).1 = .insert from rfl]
      rcases Driver.execute (.bound id .insert text) t.driver with ⟨error | output, d⟩ <;> rfl

/-- The first row that a lookup returned. -/
theorem selectOne_on_ok {s : Select} (id : TransactionId) {text : Text}
    (rendered : s.toSql = .ok text) (t : Session δ)
    : (selectOne s { transaction := some id }).on t
      = (
        (Driver.execute (.bound id .select text) t.driver).1.map (·.rowList.head?),
        t.noting (Driver.execute (.bound id .select text) t.driver).2
          (Execution.bound id .select text).entries
      ) := by
  have ran : (select s { transaction := some id } : Action δ _).on t = _ :=
    statement_on_ok id .select rendered t
  rw [selectOne, Action.on_bind_pure, ran]
  rcases Driver.execute (.bound id .select text) t.driver with ⟨error | output, d⟩ <;> rfl

/-- Whatever the driver answers, a valid upsert in a transaction is such a run: what it comes to
depends on the driver alone, and no transaction is touched.
-/
theorem upsertIn_on {s : UpdateOrInsert} (valid : s.validate = .ok ()) (id : TransactionId)
    (d : δ)
    : ∃ outcome e entries,
        s.Runs id d outcome e entries
        ∧ ∀ t : Session δ, t.driver = d → (upsertIn s id).on t = (outcome, t.noting e entries) := by
  obtain ⟨look, lookup⟩ := UpdateOrInsert.lookup_renders valid
  rcases looked : Driver.execute (.bound id .select look) d with ⟨error | output, e⟩
  · refine ⟨_, _, _, .lookupFailed lookup looked, fun t same => ?_⟩
    have ran := selectOne_on_ok id lookup t
    rw [same, looked] at ran
    rw [upsertIn_eq, Action.on_bind_error ran]
  · have ran (t : Session δ) (same : t.driver = d)
        : (upsertIn s id).on t
          = (upsertWrite s id output.rowList.head?).on
              (t.noting e (Execution.bound id .select look).entries) := by
      have ran := selectOne_on_ok id lookup t
      rw [same, looked] at ran
      rw [upsertIn_eq, Action.on_bind_ok ran]
    cases rendered : (s.write output.rowList.head?).2 with
    | error cause =>
        refine ⟨_, _, _, .unrendered lookup looked rendered, fun t same => ?_⟩
        rw [ran t same, upsertWrite_on_error rendered]
    | ok text =>
        rcases written : Driver.execute (.bound id (s.write output.rowList.head?).1 text) e
          with ⟨error | answer, f⟩
        · refine ⟨_, _, _, .writeFailed lookup looked rendered written, fun t same => ?_⟩
          rw [ran t same, upsertWrite_on_ok rendered, noting_driver, written, noting_noting]
          rfl
        · refine ⟨_, _, _, .written lookup looked rendered written, fun t same => ?_⟩
          rw [ran t same, upsertWrite_on_ok rendered, noting_driver, written, noting_noting]
          rfl

-----------------------------------------------------------------------------------------
-- In a transaction of its own
-----------------------------------------------------------------------------------------

/-- An upsert of its own closes its transaction as a scope does. -/
theorem upsertAlone_on_begun {t u : Session δ} {id : TransactionId}
    (opened : begin.on t = (.ok id, u)) (s : UpdateOrInsert)
    : (upsertAlone s).on t
      = (conclude id ((upsertIn s id).on u).1).on ((upsertIn s id).on u).2 := by
  rw [upsertAlone, Action.on_bind_ok opened, Action.on_bind_ok (Action.on_exceptLift _ u),
    SessionM.on_run]
  rcases (upsertIn s id).on u with ⟨error | key, v⟩
  · rfl
  · rw [conclude, SessionM.on_bind, SessionM.on_run]
    refine (Action.on_bind_ok (Action.on_exceptLift _ v)).trans ?_
    rw [SessionM.on_run]
    rcases (commit id).on v with ⟨error | done, w⟩ <;> rfl

/-- An upsert of its own is a scope around one in the scope's transaction. -/
theorem upsertAlone_eq (s : UpdateOrInsert)
    : (Client.inSession (upsertAlone s).run : ClientM δ _)
      = transactionBlock δ fun id => Client.inSession (upsertIn s id).run := by
  rw [transactionBlock_eq]
  refine ClientM.ext fun c t => ?_
  rw [ClientM.on_bind, ClientM.on_inSession, ClientM.on_inSession, SessionM.on_run, SessionM.on_run]
  rcases opened : begin.on t with ⟨error | id, u⟩
  · rw [upsertAlone, Action.on_bind_error opened]
    rfl
  · rw [upsertAlone_on_begun opened]
    rfl

/-- What the driver granted is closed as a scope, whatever the upsert came to. -/
theorem upsertAlone_on_granted {s : UpdateOrInsert} (valid : s.validate = .ok ()) {t : Session δ}
    {id : TransactionId} {d : δ} (answer : Driver.beginTransaction t.driver = (.ok id, d))
    : ∃ outcome e entries result u,
        s.Runs id d outcome e entries
        ∧ Closes id outcome ((t.begun d id).noting e entries) result u
        ∧ (upsertAlone s).on t = (result, u.lessHandle id) := by
  obtain ⟨outcome, e, entries, runs, ran⟩ := upsertIn_on valid id d
  obtain ⟨result, u, closes, concluded⟩ :=
    conclude_on id outcome ((t.begun d id).noting e entries)
  refine ⟨outcome, e, entries, result, u, runs, closes, ?_⟩
  rw [upsertAlone_on_begun (begin_on_ok answer), ran (t.begun d id) rfl, concluded]

omit [Driver δ] in
/-- The record of a transaction with a new id. -/
theorem begun_transaction? {t : Session δ} {id : TransactionId} (fresh : id ∉ t.ids) (d : δ)
    : (t.begun d id).transaction? id = some ⟨id, false, 1⟩ := by
  have absent : t.transactions.find? (·.id == id) = none := by
    rw [List.find?_eq_none]
    intro r member same
    exact fresh ((by simpa using same : r.id = id) ▸ List.mem_map_of_mem member)
  simp [begun, transaction?, absent]

/-- The upsert in the scope's transaction counts no handles. -/
theorem upsertAlone_scoped {s : UpdateOrInsert} (valid : s.validate = .ok ()) {t : Session δ}
    (fresh : ∀ id d, Driver.beginTransaction t.driver = (.ok id, d) → id ∉ t.ids) (c : Client)
    : (Client.inSession (upsertAlone s).run).on c t
      = (runInTransaction δ
          (ClientM.returning fun id => Client.inSession (upsertIn s id).run)).on c t := by
  rw [upsertAlone_eq]
  rcases answer : Driver.beginTransaction t.driver with ⟨error | id, d⟩
  · rw [Program.runInTransaction_eq, transactionBlock_on_refused _ c answer,
      transactionBlock_on_refused _ c answer]
  · obtain ⟨outcome, e, entries, runs, ran⟩ := upsertIn_on valid id d
    have block (u : Session δ) (same : u.driver = d)
        : (Client.inSession (upsertIn s id).run : ClientM δ _).on c u
          = ((outcome, c), u.noting e entries) := by
      rw [ClientM.on_inSession, SessionM.on_run, ran u same]
    refine (ClientM.runInTransaction_returning answer ?_ fun r found => .inl ?_).symm
    · rw [block (t.begun d id) rfl, block ((t.begun d id).moreHandle id) rfl]
      rfl
    · rw [block (t.begun d id) rfl] at found
      have record := begun_transaction? (fresh id d answer) d
      obtain rfl := Option.some.inj (record.symm.trans found)
      exact Nat.one_ne_zero

-----------------------------------------------------------------------------------------
-- Both modes
-----------------------------------------------------------------------------------------

/-- An upsert that its guard allows and that is valid runs in the mode that its terms say. -/
theorem updateOrInsert_on {s : UpdateOrInsert} {terms : Terms}
    (permitted : Guard.permits terms.guard = true) (valid : s.validate = .ok ()) (t : Session δ)
    : (updateOrInsert s terms).on t
      = (match terms.transaction with
        | some id => upsertIn s id
        | none => upsertAlone s).on (t.noting t.driver (Guard.asked terms.guard)) := by
  rw [updateOrInsert, guarded_on_permitted permitted, valid]
  exact Action.on_bind_ok rfl

/-- An upsert that is not valid does nothing. -/
theorem updateOrInsert_on_invalid {s : UpdateOrInsert} {terms : Terms} {cause : ParamError}
    (permitted : Guard.permits terms.guard = true) (invalid : s.validate = .error cause)
    (t : Session δ)
    : (updateOrInsert s terms).on t
      = (.error (.param cause), t.noting t.driver (Guard.asked terms.guard)) := by
  rw [updateOrInsert, guarded_on_permitted permitted, invalid]
  exact Action.on_bind_error rfl

end Session

/-- The guard allows the upsert, and it has a table and a value to write. -/
def UpdateOrInsert.Accepted (s : UpdateOrInsert) (terms : Terms) : Prop :=
  Guard.permits terms.guard = true ∧ s.validate = .ok ()

/-- What an upsert comes to that is started on these terms in this session. When it is denied or not
valid, the driver is not called. In the transaction of a caller it executes statements of that
transaction and does nothing else. In one of its own it is such an upsert in a scope: committed when
that succeeded, rolled back when it failed or when the commit was refused, and finished on return.
In every case the guard is asked once, before anything else.
-/
structure UpdateOrInsert.Scoped [Driver δ] (s : UpdateOrInsert) (terms : Terms) (t : Session δ)
    : Prop where
  denied
    : Guard.permits terms.guard = false
      → (Session.updateOrInsert s terms).on t
        = (.ok none, t.noting t.driver (Guard.asked terms.guard))
  rejected
    : ∀ cause,
        Guard.permits terms.guard = true
        → s.validate = .error cause
        → (Session.updateOrInsert s terms).on t
          = (.error (.param cause), t.noting t.driver (Guard.asked terms.guard))
  inside
    : ∀ id,
        s.Accepted terms
        → terms.transaction = some id
        → ∃ outcome d entries,
            s.Runs id t.driver outcome d entries
            ∧ (∀ entry ∈ entries, ∃ x : Execution, x.transaction = some id ∧ entry ∈ x.entries)
            ∧ (Session.updateOrInsert s terms).on t
              = (outcome, t.noting d (Guard.asked terms.guard ++ entries))
  refused
    : ∀ error d,
        s.Accepted terms
        → terms.transaction = none
        → Driver.beginTransaction t.driver = (.error error, d)
        → (Session.updateOrInsert s terms).on t
          = (.error error, t.noting d (Guard.asked terms.guard ++ [.begin]))
  alone
    : ∀ id d,
        s.Accepted terms
        → terms.transaction = none
        → Driver.beginTransaction t.driver = (.ok id, d)
        → id ∉ t.ids
        → ∃ outcome e entries result u,
            let ran := ((t.noting t.driver (Guard.asked terms.guard)).begun d id).noting e entries
            s.Runs id d outcome e entries
            ∧ ran.isFinished id = false
            ∧ Session.Closes id outcome ran result u
            ∧ (Session.updateOrInsert s terms).on t = (result, u.lessHandle id)
            ∧ ((u.lessHandle id).transaction? id).map (·.finished) = some true
  inScope
    : s.Accepted terms
      → terms.transaction = none
      → (∀ id d, Driver.beginTransaction t.driver = (.ok id, d) → id ∉ t.ids)
      → ∀ c,
          (Client.inSession (Session.updateOrInsert s terms).run).on c t
          = (Session.runInTransaction δ
              (ClientM.returning fun id =>
                Client.inSession (Session.updateOrInsert s { transaction := some id }).run)).on c
              (t.noting t.driver (Guard.asked terms.guard))
  askedOnce
    : ∃ rest,
        ((Session.updateOrInsert s terms).on t).2.journal
          = t.journal ++ (Guard.asked terms.guard ++ rest)
        ∧ ∀ answer, Entry.guard answer ∉ rest

namespace Session

variable [Driver δ]

/-- In the transaction of a caller a valid upsert is the lookup and the write. -/
theorem updateOrInsert_inside {s : UpdateOrInsert} (valid : s.validate = .ok ())
    (id : TransactionId)
    : (updateOrInsert s { transaction := some id } : Action δ _) = upsertIn s id := by
  refine funext fun t => ?_
  exact (updateOrInsert_on rfl valid t).trans (congrArg (upsertIn s id).on (noting_nil t))

/-- An upsert asks its guard once: it is the first thing noted, and nothing noted later is a guard's
answer.
-/
theorem updateOrInsert_asks (s : UpdateOrInsert) (terms : Terms) (t : Session δ)
    : ∃ rest,
        ((updateOrInsert s terms).on t).2.journal
          = t.journal ++ (Guard.asked terms.guard ++ rest)
        ∧ ∀ answer, Entry.guard answer ∉ rest := by
  cases permitted : Guard.permits terms.guard with
  | false => exact ⟨[], by simp [updateOrInsert, guarded_on_denied permitted], by simp⟩
  | true =>
      cases valid : s.validate with
      | error cause => exact ⟨[], by simp [updateOrInsert_on_invalid permitted valid], by simp⟩
      | ok accepted =>
          rw [updateOrInsert_on permitted valid]
          cases terms.transaction with
          | some id =>
              obtain ⟨outcome, d, entries, runs, ran⟩ := upsertIn_on valid id t.driver
              refine ⟨entries, ?_, runs.guard_notMem⟩
              simp only [ran (t.noting t.driver (Guard.asked terms.guard)) rfl, noting_noting,
                noting_journal]
          | none =>
              rcases answer : Driver.beginTransaction t.driver with ⟨error | id, d⟩
              · refine ⟨[.begin], ?_, by simp⟩
                have opened := begin_on_error
                  (s := t.noting t.driver (Guard.asked terms.guard)) answer
                simp [upsertAlone, Action.on_bind_error opened]
              · obtain ⟨outcome, e, entries, result, u, runs, closes, ran⟩ :=
                  upsertAlone_on_granted valid
                    (t := t.noting t.driver (Guard.asked terms.guard)) answer
                obtain ⟨closing, closed, unasked⟩ := closes.journal
                refine ⟨[.begin, .log (.transaction .began id)] ++ entries ++ closing, ?_, ?_⟩
                · simp [ran, closed]
                · intro asked
                  simp [runs.guard_notMem asked, unasked asked]

end Session

/-- Every upsert is one in a transaction, which is its caller's or that of a scope of its own. -/
theorem upserts_are_scoped [Driver δ] (s : UpdateOrInsert) (terms : Terms) (t : Session δ)
    : s.Scoped terms t where
  denied denied := Session.guarded_on_denied denied t
  rejected cause permitted invalid := Session.updateOrInsert_on_invalid permitted invalid t
  inside id accepted caller := by
    obtain ⟨outcome, d, entries, runs, ran⟩ := Session.upsertIn_on accepted.2 id t.driver
    refine ⟨outcome, d, entries, runs, runs.statements, ?_⟩
    rw [Session.updateOrInsert_on accepted.1 accepted.2, caller]
    simp only [ran (t.noting t.driver (Guard.asked terms.guard)) rfl, Session.noting_noting]
  refused error d accepted own answer := by
    have opened := Session.begin_on_error (s := t.noting t.driver (Guard.asked terms.guard)) answer
    rw [Session.updateOrInsert_on accepted.1 accepted.2, own]
    simp [Session.upsertAlone, Action.on_bind_error opened]
  alone id d accepted own answer fresh := by
    obtain ⟨outcome, e, entries, result, u, runs, closes, ran⟩ :=
      Session.upsertAlone_on_granted accepted.2
        (t := t.noting t.driver (Guard.asked terms.guard)) answer
    refine ⟨outcome, e, entries, result, u, runs, ?_, closes, ?_, ?_⟩
    · have record := Session.begun_transaction?
        (t := t.noting t.driver (Guard.asked terms.guard)) fresh d
      exact congrArg (Option.all (·.finished)) record
    · rw [Session.updateOrInsert_on accepted.1 accepted.2, own]
      exact ran
    · exact Session.finished_of_known (by simp [closes.ids])
        (Session.lessHandle_isFinished closes.isFinished)
  inScope accepted own fresh c := by
    have body (id : TransactionId)
        : (Session.updateOrInsert s { transaction := some id } : Action δ _)
          = Session.upsertIn s id :=
      Session.updateOrInsert_inside accepted.2 id
    have alone := Session.upsertAlone_scoped accepted.2
      (t := t.noting t.driver (Guard.asked terms.guard)) fresh c
    simp only [body]
    rw [← alone, ClientM.on_inSession, ClientM.on_inSession, SessionM.on_run, SessionM.on_run,
      Session.updateOrInsert_on accepted.1 accepted.2, own]
  askedOnce := Session.updateOrInsert_asks s terms t

/-- An upsert of an amount. -/
def UpdateOrInsert.amount : UpdateOrInsert :=
  { table := "balances", values := [("amount", .text "5")] }

/-- A new session on a driver that finds a row and refuses every commit. -/
def ScriptedDriver.refusing : Session ScriptedDriver :=
  {
    driver :=
      {
        outputs := [.ok (.rows [[("id", .text "11")]])],
        failures := [(.commit, .driver "deadlock")]
      }
  }

/-- The upsert looks the row up and updates it, and is rolled back when its commit is refused. -/
theorem refused_upsert_is_undone
    : let terms : Terms := { guard := some (.check true) }
      let after := (Session.updateOrInsert .amount terms).on ScriptedDriver.refusing
      UpdateOrInsert.amount.Scoped terms ScriptedDriver.refusing
      ∧ UpdateOrInsert.amount.Accepted terms
      ∧ after.1 = .error (.driver "deadlock")
      ∧ after.2.rollbackCalls (ScriptedDriver.transactionId 1) = 1
      ∧ after.2.isFinished (ScriptedDriver.transactionId 1) = true := by
  refine ⟨upserts_are_scoped _ _ _, ⟨rfl, by cbv⟩, rfl, ?_, ?_⟩
  · decide +kernel
  · decide +kernel

end SqlAssembly
