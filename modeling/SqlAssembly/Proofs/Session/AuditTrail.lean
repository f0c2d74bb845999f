import SqlAssembly.Proofs.Session.SingleEnding
import SqlAssembly.Proofs.Session.Statements
import SqlAssembly.Proofs.Statement.Lines

/-! The log as an audit trail. Every operation with a statement asks its guard, renders, logs and
executes, in that order, so that over every run the driver executes what was logged right before,
and nothing is logged that it does not execute.
-/

namespace SqlAssembly

variable {γ δ : Type}

-----------------------------------------------------------------------------------------
-- The row that was inserted
-----------------------------------------------------------------------------------------

namespace Text

theorem isBlank_of_isDigit {c : Char} (digit : c.isDigit = true) : isBlank c = false := by
  have bounds : 48 ≤ c.toNat ∧ c.toNat ≤ 57 := Char.isDigit_iff_toNat.mp digit
  simp only [isBlank, blankRanges, within, List.any_cons, List.any_nil, Bool.or_false,
    Bool.or_eq_false_iff, Bool.and_eq_false_iff, decide_eq_false_iff_not]
  omega

/-- A number ends with a digit. -/
theorem ends_ofNat (n : Nat) : Reading.Ends (ofNat n) := by
  have nonempty : ofNat n ≠ [] := Nat.toDigits_ne_nil
  rw [Reading.Ends, List.getLast?_eq_some_getLast nonempty, Option.any_some,
    isBlank_of_isDigit
      (Nat.isDigit_of_mem_toDigits (by decide) (by decide) (List.getLast_mem nonempty))]
  rfl

end Text

namespace Session

/-- The text that reads the row with the given key back. -/
def fetchText (table : Text) (id : Nat) : Text :=
  "select * from ".toList ++ Text.trim table ++ " where id = ".toList ++ Text.ofNat id
    ++ " limit 0, 1".toList

/-- The text has five parts. -/
theorem fetchText_eq (table : Text) (id : Nat)
    : fetchText table id
      = Text.join " "
          ["select *", "from", Text.trim table, "where id = ".toList ++ Text.ofNat id,
            "limit 0, 1"] := by
  have opening
      : "select * from ".toList
        = "select *".toList ++ " ".toList ++ "from".toList ++ " ".toList := rfl
  have middle : " where id = ".toList = " ".toList ++ "where id = ".toList := rfl
  have closing : " limit 0, 1".toList = " ".toList ++ "limit 0, 1".toList := rfl
  change "select * from ".toList ++ Text.trim table ++ " where id = ".toList ++ Text.ofNat id
    ++ " limit 0, 1".toList = _
  rw [opening, middle, closing]
  simp only [Text.join, List.intercalate_cons_cons, List.intercalate_singleton, List.append_assoc]

/-- The row of a key is looked for by a condition on the key. -/
theorem filter_byId (id : Nat)
    : (Clause.filter (some (.raw ("id = ".toList ++ Text.ofNat id)))).assemble
      = "where id = ".toList ++ Text.ofNat id := by
  have whole : Text.trim ("id = ".toList ++ Text.ofNat id) = "id = ".toList ++ Text.ofNat id :=
    Reading.trim_eq rfl (.append (Text.ends_ofNat id))
  change Text.withKeyword ("id = ".toList ++ Text.ofNat id) "where" = _
  rw [Text.withKeyword, whole]
  rfl

/-- A table that is not blank has a text that reads its rows back. -/
theorem fetchById_toSql {table : Text} (named : Text.trim table ≠ []) (id : Nat)
    : (fetchById table id).toSql = .ok (fetchText table id) := by
  have key
      : Text.trim ("where id = ".toList ++ Text.ofNat id) = "where id = ".toList ++ Text.ofNat id :=
    Reading.trim_eq rfl (.append (Text.ends_ofNat id))
  let line := ["select *".toList, "from", Text.trim table, "where id = ".toList ++ Text.ofNat id]
  let window := "limit 0, 1".toList
  have trimmed : ∀ part ∈ line ++ [window], Text.trim part = part ∧ part ≠ [] := by
    intro part member
    simp only [line, List.cons_append, List.nil_append, List.mem_cons, List.not_mem_nil,
      or_false] at member
    rcases member with rfl | rfl | rfl | rfl | rfl
    · exact ⟨rfl, List.cons_ne_nil _ _⟩
    · exact ⟨rfl, List.cons_ne_nil _ _⟩
    · exact ⟨Text.trim_trim table, named⟩
    · exact ⟨key, List.cons_ne_nil _ _⟩
    · exact ⟨rfl, List.cons_ne_nil _ _⟩
  rw [Select.toSql, fetchById, filter_byId, requireTable_ok named]
  refine congrArg Except.ok ?_
  calc
    Text.joinParts (line ++ [] :: [] :: window :: [[]])
    _ = Text.joinParts (line ++ [] :: window :: [[]]) := Text.joinParts_nothing _ _
    _ = Text.joinParts ((line ++ [window]) ++ [] :: []) := by
      rw [Text.joinParts_nothing, List.append_cons]
    _ = Text.joinParts (line ++ [window]) := by
      rw [Text.joinParts_nothing, List.append_nil]
    _ = Text.join " " (line ++ [window]) := Text.joinParts_trimmed trimmed
    _ = fetchText table id := (fetchText_eq table id).symm

end Session

-----------------------------------------------------------------------------------------
-- The operations
-----------------------------------------------------------------------------------------

variable [Driver δ]

/-- The action inserts and, if the insert succeeded and generated a key, reads the row of that key
back with one more statement in the same transaction.
-/
structure Action.Fetches (action : Action δ (Option Row)) (s : Insert) (terms : Terms) : Prop where
  failed
    : ∀ t error u,
        (Session.insert s .plain terms).on t = (.error error, u) → action.on t = (.error error, u)
  keyless
    : ∀ t inserted u,
        (Session.insert s .plain terms).on t = (.ok inserted, u)
        → inserted.bind (·.insertId) = none
        → action.on t = (.ok none, u)
  fetched
    : ∀ t inserted u id,
        (Session.insert s .plain terms).on t = (.ok inserted, u)
        → inserted.bind (·.insertId) = some id
        → let e : Execution := {
            sql := Session.fetchText s.table id
            type := .select
            transaction := terms.transaction
          }
          action.on t
            = (
              (Driver.execute e u.driver).1.map fun output => output.rowList.head?,
              u.noting (Driver.execute e u.driver).2 e.entries
            )

namespace Session

theorem select_performs (s : Select) (terms : Terms)
    : (select s terms : Action δ _).Performs terms [] .select s.toSql QueryOutput.rowList :=
  statement_performs _ _ _ _ _

theorem selectOne_performs (s : Select) (terms : Terms)
    : (selectOne s terms : Action δ _).Performs terms none .select s.toSql
        fun output => output.rowList.head? :=
  (select_performs s terms).map List.head?

theorem insert_performs (s : Insert) (mode : InsertMode) (terms : Terms)
    : (insert s mode terms : Action δ _).Performs terms none .insert (s.toSql mode)
        fun output => some output.asInsert :=
  statement_performs _ _ _ _ _

/-- A row was inserted only if the insert had a text. -/
theorem insert_renders {s : Insert} {mode : InsertMode} {terms : Terms} {t u : Session δ}
    {result : InsertResult} (inserted : (insert s mode terms).on t = (.ok (some result), u))
    : ∃ text, s.toSql mode = .ok text := by
  have performs := insert_performs (δ := δ) s mode terms
  cases permitted : Guard.permits terms.guard with
  | false =>
      rw [performs.denied permitted] at inserted
      simp at inserted
  | true =>
      cases rendered : s.toSql mode with
      | error cause =>
          rw [performs.unrendered permitted cause rendered] at inserted
          simp at inserted
      | ok text => exact ⟨text, rfl⟩

theorem insertAndFetch_fetches (s : Insert) (terms : Terms)
    : (insertAndFetch s terms : Action δ _).Fetches s terms where
  failed t error u failed := Action.on_bind_error failed
  keyless t inserted u done keyless := by
    rw [insertAndFetch, Action.on_bind_ok done, keyless]
    rfl
  fetched t inserted u id done key := by
    obtain ⟨result, rfl, generated⟩ := Option.bind_eq_some_iff.mp key
    obtain ⟨text, rendered⟩ := insert_renders done
    have fetch := fetchById_toSql (Insert.named rendered) id
    rw [insertAndFetch, Action.on_bind_ok done, key]
    exact (selectOne_performs _ _).executed rfl _ fetch u

end Session

/-- Every operation with a structured statement asks its guard and renders, logs and executes the
statement in its category and its transaction.
-/
structure Session.Performing (δ : Type) [Driver δ] : Prop where
  select
    : ∀ s terms,
        (Session.select s terms : Action δ _).Performs terms [] .select s.toSql QueryOutput.rowList
  selectOne
    : ∀ s terms,
        (Session.selectOne s terms : Action δ _).Performs terms none .select s.toSql
          fun output => output.rowList.head?
  sum
    : ∀ s terms,
        (Session.sum s terms : Action δ _).Performs terms "0" .select s.toSql
          fun output => sumText output.rowList
  count
    : ∀ s terms,
        (Session.count s terms : Action δ _).Performs terms 0 .select s.toSql
          fun output => countNumber output.rowList
  joinSelect
    : ∀ s terms,
        (Session.joinSelect s terms : Action δ _).Performs terms [] .select s.toSql
          QueryOutput.rowList
  update
    : ∀ s terms,
        (Session.update s terms : Action δ _).Performs terms 0 .update s.toSql
          QueryOutput.affectedRows
  delete
    : ∀ s terms,
        (Session.delete s terms : Action δ _).Performs terms 0 .delete s.toSql
          QueryOutput.affectedRows
  insert
    : ∀ s mode terms,
        (Session.insert s mode terms : Action δ _).Performs terms none .insert (s.toSql mode)
          fun output => some output.asInsert
  batchInsert
    : ∀ s terms,
        (Session.batchInsert s terms : Action δ _).Performs terms none .insert s.toSql
          fun output => some output.asInsert
  insertAndFetch : ∀ s terms, (Session.insertAndFetch s terms : Action δ _).Fetches s terms

theorem Session.performing (δ : Type) [Driver δ] : Performing δ where
  select := select_performs
  selectOne := selectOne_performs
  sum _ _ := statement_performs _ _ _ _ _
  count _ _ := statement_performs _ _ _ _ _
  joinSelect _ _ := statement_performs _ _ _ _ _
  update _ _ := statement_performs _ _ _ _ _
  delete _ _ := statement_performs _ _ _ _ _
  insert := insert_performs
  batchInsert _ _ := statement_performs _ _ _ _ _
  insertAndFetch := insertAndFetch_fetches

-----------------------------------------------------------------------------------------
-- Runs
-----------------------------------------------------------------------------------------

/-- Every statement is executed right behind its log entry, and every such entry is followed by the
execution of its statement.
-/
structure Audited (journal : List Entry) : Prop where
  logged
    : ∀ before e after,
        journal = before ++ .execute e :: after
        → ∃ earlier, before = earlier ++ [.log (.statement e.sql e.type e.transaction)]
  executed
    : ∀ before sql type transaction after,
        journal = before ++ .log (.statement sql type transaction) :: after
        → ∃ e later,
            after = .execute e :: later
            ∧ e.sql = sql
            ∧ e.type = type
            ∧ e.transaction = transaction

namespace Entry

/-- The entry is about a statement. -/
def isStatement : Entry → Bool
  | execute _ => true
  | log (.statement ..) => true
  | _ => false

end Entry

/-- A journal of executions with their log entries in front, and of entries about no statement. -/
inductive Paired : List Entry → Prop
  | nil : Paired []
  | other {entry rest} (other : entry.isStatement = false) (paired : Paired rest)
    : Paired (entry :: rest)
  | executed (e : Execution) {rest} (paired : Paired rest) : Paired (e.entries ++ rest)

namespace Paired

variable {first second entries : List Entry}

theorem of_others (others : ∀ entry ∈ entries, entry.isStatement = false) : Paired entries := by
  induction entries with
  | nil => exact .nil
  | cons entry rest ih =>
      have tail := ih fun later member => others later (List.mem_cons_of_mem entry member)
      exact .other (others entry List.mem_cons_self) tail

/-- Journals of pairs are put together, by induction on the first. -/
theorem append (paired : Paired first) (more : Paired second) : Paired (first ++ second) := by
  induction paired with
  | nil => exact more
  | other other _ ih => exact .other other ih
  | executed e _ ih =>
      rw [List.append_assoc]
      exact .executed e ih

end Paired

namespace Audited

variable {rest : List Entry}

/-- An entry about no statement is neither an execution nor its log entry. -/
theorem other {entry : Entry} (other : entry.isStatement = false) (audited : Audited rest)
    : Audited (entry :: rest) := by
  constructor
  · intro before e after split
    rcases List.cons_eq_append_iff.mp split with ⟨-, here⟩ | ⟨earlier, rfl, there⟩
    · rw [← (List.cons.inj here).1] at other
      exact absurd other (by simp [Entry.isStatement])
    · obtain ⟨head, rfl⟩ := audited.logged earlier e after there
      exact ⟨entry :: head, rfl⟩
  · intro before sql type transaction after split
    rcases List.cons_eq_append_iff.mp split with ⟨-, here⟩ | ⟨earlier, rfl, there⟩
    · rw [← (List.cons.inj here).1] at other
      exact absurd other (by simp [Entry.isStatement])
    · exact audited.executed earlier sql type transaction after there

/-- An execution with its log entry in front. The cut is before the two, between them, or behind. -/
theorem pair (e : Execution) (audited : Audited rest) : Audited (e.entries ++ rest) := by
  constructor
  · intro before other after split
    change _ :: .execute e :: rest = _ at split
    rcases List.cons_eq_append_iff.mp split with ⟨-, here⟩ | ⟨earlier, rfl, there⟩
    · simp at here
    · rcases List.cons_eq_append_iff.mp there with ⟨rfl, here⟩ | ⟨earliest, rfl, there⟩
      · obtain rfl : other = e := by simpa using (List.cons.inj here).1
        exact ⟨[], rfl⟩
      · obtain ⟨head, rfl⟩ := audited.logged earliest other after (List.cons.inj there).2
        exact ⟨e.entries ++ head, rfl⟩
  · intro before sql type transaction after split
    change _ :: .execute e :: rest = _ at split
    rcases List.cons_eq_append_iff.mp split with ⟨-, here⟩ | ⟨earlier, rfl, there⟩
    · obtain ⟨same, rfl⟩ := List.cons.inj here
      simp only [Entry.log.injEq, LogEntry.statement.injEq] at same
      exact ⟨e, rest, rfl, same.1.symm, same.2.1.symm, same.2.2.symm⟩
    · rcases List.cons_eq_append_iff.mp there with ⟨rfl, here⟩ | ⟨earliest, rfl, there⟩
      · simp at here
      · exact audited.executed earliest sql type transaction after (List.cons.inj there).2

end Audited

/-- A journal of pairs is an audit trail, by induction on the journal. -/
theorem Paired.audited {journal : List Entry} (paired : Paired journal) : Audited journal := by
  induction paired with
  | nil =>
      exact ⟨fun before e after split => by simp at split,
        fun before sql type transaction after split => by simp at split⟩
  | other other _ ih => exact ih.other other
  | executed e _ ih => exact ih.pair e

namespace Session

/-- The journal goes on with a journal of pairs. -/
def Extends (s t : Session δ) : Prop :=
  ∃ entries, t.journal = s.journal ++ entries ∧ Paired entries

omit [Driver δ] in
/-- Entries about no statement were noted, if any. -/
theorem Extends.quietly {s t : Session δ} {entries : List Entry}
    (noted : t.journal = s.journal ++ entries)
    (others : ∀ entry ∈ entries, entry.isStatement = false)
    : Extends s t :=
  ⟨entries, noted, .of_others others⟩

omit [Driver δ] in
/-- Nothing was noted. -/
theorem Extends.of_unchanged {s t : Session δ} (same : t.journal = s.journal) : Extends s t :=
  ⟨[], by rw [same, List.append_nil], .of_others (by simp)⟩

theorem Extends.drop (s : Session δ) (id : TransactionId)
    : Extends s ((dropHandle id).on s).2 := by
  rcases dropHandle_cases s id with ⟨kept, -⟩ | ⟨t, found, last, unfinished⟩
  · rw [kept]
    exact .of_unchanged (by simp)
  · rw [dropHandle_on_last found last unfinished]
    refine .quietly rfl fun entry member => ?_
    rcases List.mem_cons.mp member with rfl | released
    · rfl
    · split at released <;> simp_all [Entry.isStatement]

theorem Extends.commit (s : Session δ) (id : TransactionId)
    : Extends s ((commit id).on s).2 := by
  cases finished : s.isFinished id with
  | true =>
      rw [commit_on_finished finished]
      exact .of_unchanged (by simp)
  | false =>
      rcases answer : Driver.commit id s.driver with ⟨error | done, d⟩
      · rw [commit_on_error finished answer]
        exact .quietly rfl (by simp [Entry.isStatement])
      · rw [commit_on_ok finished answer]
        exact .quietly rfl (by simp [Entry.isStatement])

theorem Extends.rollback (s : Session δ) (id : TransactionId)
    : Extends s ((rollback id).on s).2 := by
  cases finished : s.isFinished id with
  | true =>
      rw [rollback_on_finished finished]
      exact .of_unchanged (by simp)
  | false =>
      rcases answered : Driver.rollback id s.driver with ⟨answer, d⟩
      rw [rollback_on_unfinished finished answered]
      refine .quietly rfl ?_
      cases answer <;> simp [Entry.isStatement, rollbackLog]

end Session

namespace Usage

variable {u v : Usage δ}

/-- A move notes a statement with its execution, or entries about no statement, by cases on the
move.
-/
theorem Move.extends (move : u.Move v) : u.session.Extends v.session := by
  cases move with
  | @began s t h id granted =>
      rcases answer : Driver.beginTransaction s.driver with ⟨error | issued, d⟩
      · rw [Session.begin_on_error answer] at granted
        simp at granted
      · rw [Session.begin_on_ok answer] at granted
        obtain ⟨-, rfl⟩ := Prod.mk.inj granted
        exact .quietly (Session.begun_journal _ _ _) (by simp [Entry.isStatement])
  | @refused s t h error failed =>
      rcases answer : Driver.beginTransaction s.driver with ⟨cause | issued, d⟩
      · rw [Session.begin_on_error answer] at failed
        obtain ⟨-, rfl⟩ := Prod.mk.inj failed
        exact .quietly rfl (by simp [Entry.isStatement])
      · rw [Session.begin_on_ok answer] at failed
        simp at failed
  | clone held => exact .of_unchanged (by simp [Session.cloneHandle_on])
  | drop held => exact .drop _ _
  | commit held => exact .commit _ _
  | rollback held => exact .rollback _ _
  | execute e =>
      rw [Session.execute_on]
      exact ⟨e.entries, rfl, .executed e .nil⟩
  | authenticate => exact .quietly rfl (by simp [Entry.isStatement])
  | close => exact .quietly rfl (by simp [Entry.isStatement])
  | ask answer => exact .quietly rfl (by simp [Entry.isStatement])
  | suppress error => exact .quietly rfl (by simp [Entry.isStatement])
  | control change => exact .of_unchanged (by simp)

/-- A run keeps the journal one of pairs, by induction on the run. -/
theorem Moves.paired (moves : u.Moves v) (paired : Paired u.session.journal)
    : Paired v.session.journal := by
  induction moves with
  | refl => exact paired
  | tail _ move ih =>
      obtain ⟨entries, grown, more⟩ := move.extends
      rw [grown]
      exact ih.append more

end Usage

/-- Every operation keeps the order of guard, rendering, log and execution, every program is a run,
and over every run the log is an audit trail of the driver's executions.
-/
theorem statements_are_audited (control : γ → δ → δ) (d : δ)
    : Session.Performing δ
      ∧ (∀ p : Program γ, (Usage.initial d).Moves (p.usage control d))
      ∧ ∀ u : Usage δ, (Usage.initial d).Moves u → Audited u.session.journal :=
  ⟨
    Session.performing δ,
    fun p => p.usage_moves control d,
    fun _ moves => (Usage.Moves.paired moves .nil).audited
  ⟩

/-- A guarded insert whose row is read back by the key that the driver generated. -/
def Program.fetching (table : Text) (row : Values) : Program ScriptedControl :=
  .call (.control (.push [.ok (.inserted ⟨some 7, 1⟩)])) fun _ =>
    .call
      (.insertAndFetch ⟨table, some (.structured row)⟩ { guard := some (.check true) })
      fun _ => .finish none

/-- Its guard is asked once and two statements are logged and executed. -/
theorem fetching_is_audited
    : let u := (Program.fetching "users" [("name", .text "Ann")]).usage ScriptedDriver.prepare {}
      Audited u.session.journal
      ∧ u.session.journal.map Entry.isStatement = [false, true, true, true, true] := by
  obtain ⟨-, programs, audited⟩ := statements_are_audited ScriptedDriver.prepare {}
  exact ⟨audited _ (programs _), by decide +kernel⟩

end SqlAssembly
