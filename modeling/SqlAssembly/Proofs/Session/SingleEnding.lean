import SqlAssembly.Driver.Scripted
import SqlAssembly.Proofs.Session.Outcome
import SqlAssembly.Proofs.Session.Programs

/-! Every transaction has exactly one end. It may have ended while handles of it are held, and it
has ended once they are all gone, whatever the driver answered on the way.
-/

namespace SqlAssembly

variable {γ δ : Type}

namespace Session

/-- How often the driver confirmed a commit of the transaction. -/
def confirmedCommits (s : Session δ) (id : TransactionId) : Nat :=
  s.journal.countP (Entry.isConfirmedCommit id)

/-- How often the driver was asked to roll the transaction back. -/
def rollbackCalls (s : Session δ) (id : TransactionId) : Nat :=
  s.journal.countP (Entry.isRollback id)

/-- How often the transaction was logged as abandoned. -/
def abandonments (s : Session δ) (id : TransactionId) : Nat :=
  s.journal.countP (Entry.isAbandonment id)

/-- How often the transaction ended. -/
def endings (s : Session δ) (id : TransactionId) : Nat :=
  s.confirmedCommits id + s.rollbackCalls id + s.abandonments id

end Session

-----------------------------------------------------------------------------------------
-- The flag
-----------------------------------------------------------------------------------------

namespace Session

/-- Looking a transaction up after a change finds what was there before, changed if it is the one.
-/
theorem changing_transaction? (s : Session δ) (id other : TransactionId)
    (change : Transaction → Transaction) (keeps : ∀ t, (change t).id = t.id)
    : (s.changing id change).transaction? other
      = (s.transaction? other).map fun t => if t.id == id then change t else t := by
  have sameId (t : Transaction) : (if t.id == id then change t else t).id = t.id := by
    split
    · exact keeps t
    · rfl
  simp only [transaction?, changing, List.find?_map, Function.comp_def, sameId]

/-- A change that sets no flag back leaves finished transactions finished. -/
theorem changing_isFinished {s : Session δ} {id other : TransactionId}
    {change : Transaction → Transaction} (keeps : ∀ t, (change t).id = t.id)
    (sets : ∀ t, t.finished = true → (change t).finished = true)
    (finished : s.isFinished other = true)
    : (s.changing id change).isFinished other = true := by
  rw [isFinished, changing_transaction? _ _ _ _ keeps]
  rw [isFinished] at finished
  cases found : s.transaction? other with
  | none => rfl
  | some t =>
      rw [found] at finished
      have flag : t.finished = true := finished
      simp only [Option.map_some, Option.all_some]
      split
      · exact sets t flag
      · exact flag

theorem lessHandle_isFinished {s : Session δ} {id other : TransactionId}
    (finished : s.isFinished other = true)
    : (s.lessHandle id).isFinished other = true :=
  changing_isFinished (fun _ => rfl) (fun _ flag => flag) finished

/-- A new record stands behind the old ones. -/
theorem begun_isFinished {s : Session δ} {id other : TransactionId} (d : δ)
    (known : other ∈ s.ids) (finished : s.isFinished other = true)
    : (s.begun d id).isFinished other = true := by
  obtain ⟨r, found⟩ := transaction?_of_known known
  have still : (s.begun d id).transaction? other = some r := by
    rw [transaction?] at found ⊢
    simp [begun, List.find?_append, found]
  rw [isFinished, found] at finished
  rwa [isFinished, still]

end Session

namespace Usage

/-- No effect sets the flag of a transaction back. -/
theorem Effect.isFinished [Driver δ] {u v : Usage δ} (effect : u.Effect v) {id : TransactionId}
    (known : id ∈ u.session.ids) (finished : u.session.isFinished id = true)
    : v.session.isFinished id = true := by
  cases effect with
  | noted | disturbed | refused => exact finished
  | began => exact Session.begun_isFinished _ known finished
  | cloned | dropped | abandoned =>
      exact Session.changing_isFinished (fun _ => rfl) (fun _ flag => flag) finished
  | committed | rolledBack =>
      exact Session.changing_isFinished (fun _ => rfl) (fun _ _ => rfl) finished

/-- Only the drop of a last handle notes an abandonment, by cases on the effect. -/
theorem Effect.last_handle [Driver δ] {u v : Usage δ} (effect : u.Effect v) (sound : u.Sound)
    (distinct : u.session.Distinct) {id : TransactionId}
    (more : v.session.abandonments id ≠ u.session.abandonments id)
    : u.handles.count id = 1 ∧ v.handles = u.handles.erase id := by
  rw [Session.abandonments, Session.abandonments] at more
  cases effect with
  | noted silent =>
      have none := List.filter_eq_nil_iff.mp (silent id)
      have zero : List.countP (Entry.isAbandonment id) _ = 0 :=
        List.countP_eq_zero.mpr fun e member abandoned =>
          none e member (by simp [Entry.concerns, abandoned])
      rw [Session.noting_journal, List.countP_append, zero] at more
      exact absurd rfl more
  | disturbed | began | cloned | dropped => simp [Entry.isAbandonment] at more
  | refused => simp [Entry.isAbandonment] at more
  | committed => simp [Entry.isAbandonment] at more
  | @rolledBack s h id answer =>
      cases answer <;> simp [Entry.isAbandonment, Session.rollbackLog] at more
  | @abandoned s h other r held found last unfinished =>
      obtain ⟨t, member, rfl⟩ := sound.record held
      rw [Sound.lessHandle_transaction? distinct member] at found
      obtain rfl := Option.some.inj found
      have one : t.id = id := by
        by_contra different
        apply more
        cases (Driver.release? t.id s.driver).isSome <;>
          simp [Session.abandonment, Entry.isAbandonment, different]
      subst one
      have positive : 0 < h.count t.id := Multiset.count_pos.mpr held
      have counted : t.handles = h.count t.id := sound.counted t member
      have spent : t.handles - 1 = 0 := last
      have one : h.count t.id = 1 := by omega
      exact ⟨one, rfl⟩

variable [Driver δ]

theorem Moves.ids_prefix {u v : Usage δ} (moves : u.Moves v)
    : u.session.ids <+: v.session.ids := by
  induction moves with
  | refl => exact List.prefix_rfl
  | tail _ move ih => exact ih.trans move.effect.ids_prefix

/-- A finished transaction stays finished, by induction on the run. -/
theorem Moves.isFinished {u v : Usage δ} (moves : u.Moves v) {id : TransactionId}
    (known : id ∈ u.session.ids) (finished : u.session.isFinished id = true)
    : v.session.isFinished id = true := by
  induction moves with
  | refl => exact finished
  | tail earlier move ih =>
      have stillKnown := (Moves.ids_prefix earlier).subset known
      exact move.effect.isFinished stillKnown ih

/-- The invariant holds after every run, by induction on the run. -/
theorem Moves.sound {u v : Usage δ} (moves : u.Moves v) (sound : u.Sound)
    (distinct : v.session.Distinct)
    : v.Sound := by
  induction moves with
  | refl => exact sound
  | tail earlier move ih =>
      have before := distinct.sublist move.effect.ids_prefix.sublist
      exact (ih before).effect move.effect distinct

-----------------------------------------------------------------------------------------
-- Ending once
-----------------------------------------------------------------------------------------

/-- How a transaction ends, whatever happens to it. Its handles share the flag, and an abandonment
is an event together with the driver's release of the transaction.
-/
structure EndsOnce (u : Usage δ) (id : TransactionId) : Prop where
  atMostOnce : u.session.endings id ≤ 1
  nothingAfter
    : ∀ head entry tail,
        u.session.journal = head ++ entry :: tail
        → entry.ends id = true
        → ∃ own rest,
            tail = own ++ rest
            ∧ (own = [] ∨ entry.isAbandonment id = true ∧ own = [.release id])
            ∧ ∀ later ∈ rest, later.asks id = false
  lastHandle
    : ∀ v,
        u.Move v
        → v.session.abandonments id ≠ u.session.abandonments id
        → u.handles.count id = 1 ∧ v.handles = u.handles.erase id
  refusedCommit
    : ∀ error d,
        u.session.isFinished id = false
        → Driver.commit id u.session.driver = (.error error, d)
        → (Session.commit id).on u.session
            = (.error error, u.session.noting d [.commit id false])
          ∧ (u.session.noting d [.commit id false]).isFinished id = false
  exactlyOnce : id ∉ u.handles → u.session.endings id = 1
  flag
    : u.session.isFinished id = true
      ↔ u.session.confirmedCommits id + u.session.rollbackCalls id = 1
  flagStays : ∀ v, u.Moves v → u.session.isFinished id = true → v.session.isFinished id = true
  flagShared
    : ∀ (c : Client) name,
        c.held.lookup name = some id
        → (Call.finished? name).on c u.session
          = ((some (u.session.isFinished id), c), u.session)

omit [Driver δ] in
/-- What the journal of a sound usage counts, by cases on how the transaction ended. -/
theorem Sound.counts {u : Usage δ} (sound : u.Sound) {t : Transaction}
    (member : t ∈ u.session.transactions)
    : u.session.endings t.id ≤ 1
      ∧ (t.finished = true
          ↔ u.session.confirmedCommits t.id + u.session.rollbackCalls t.id = 1)
      ∧ (t.handles = 0 → u.session.endings t.id = 1) := by
  obtain ⟨ending, tells, shows_⟩ := sound.told t member
  have commits : u.session.confirmedCommits t.id = _ :=
    tells.countP_eq (p := Entry.isConfirmedCommit t.id)
      (fun e counted => Entry.concerns_of_ends (by simp [Entry.ends, counted]))
      (by simp [Entry.isConfirmedCommit])
  have rollbacks : u.session.rollbackCalls t.id = _ :=
    tells.countP_eq (p := Entry.isRollback t.id)
      (fun e counted => Entry.concerns_of_ends (by simp [Entry.ends, counted])) rfl
  have abandonments : u.session.abandonments t.id = _ :=
    tells.countP_eq (p := Entry.isAbandonment t.id)
      (fun e counted => Entry.concerns_of_ends (by simp [Entry.ends, counted])) rfl
  rw [Session.endings, commits, rollbacks, abandonments]
  rcases ending with _ | _ | _ | released
  · simp [shows_.1, shows_.2]
  · have finished : t.finished = true := shows_
    simp [Ending.entries, Entry.isConfirmedCommit, Entry.isRollback, Entry.isAbandonment, finished]
  · have finished : t.finished = true := shows_
    simp [Ending.entries, Entry.isConfirmedCommit, Entry.isRollback, Entry.isAbandonment, finished]
  · cases released <;>
      simp [Ending.entries, Session.abandonment, Entry.isConfirmedCommit, Entry.isRollback,
        Entry.isAbandonment, shows_.1]

/-- After any run of a sound usage each transaction ends once. -/
theorem Sound.endsOnce {u : Usage δ} (sound : u.Sound) (distinct : u.session.Distinct)
    {id : TransactionId} (known : id ∈ u.session.ids)
    : u.EndsOnce id := by
  obtain ⟨t, member, rfl⟩ := List.mem_map.mp known
  obtain ⟨ending, tells, _⟩ := sound.told t member
  obtain ⟨atMostOnce, flag, spent⟩ := sound.counts member
  have recorded := distinct.isFinished member
  refine {
    atMostOnce := atMostOnce
    nothingAfter := fun _ _ _ split ended => tells.nothing_after split ended
    lastHandle := fun v move more => move.effect.last_handle sound distinct more
    refusedCommit := fun error d unfinished answer =>
      ⟨Session.commit_on_error unfinished answer, unfinished⟩
    exactlyOnce := fun gone => spent ?_
    flag := by rw [recorded, flag]
    flagStays := fun v moves => Moves.isFinished moves known
    flagShared := fun c name held => ?_
  }
  · rw [sound.counted t member, Multiset.count_eq_zero.mpr gone]
  · have read
        : (Client.transactionOf? name).on c u.session = ((some t, c), u.session) := by
      rw [Client.transactionOf?, ClientM.on_bind, ClientM.on_idOf?, held]
      exact congrArg (fun found => ((found, c), u.session)) (distinct.transaction? member)
    rw [Call.finished?, ClientM.on_bind, read, recorded]
    rfl

end Usage

/-- The usage that a client leaves behind when its program ran on a new session. -/
def Program.usage (control : γ → δ → δ) (p : Program γ) (d : δ) [Driver δ] : Usage δ :=
  let after := ClientM.on (p.run control) {} { driver := d }
  { session := after.2, handles := after.1.2.handles }

variable [Driver δ]

/-- A program on a new session is a run, with its controls as what happens from outside. -/
theorem Program.usage_movesWithin (outside : δ → δ → Prop) {control : γ → δ → δ}
    (permitted : ∀ c d, outside d (control c d)) (p : Program γ) (d : δ)
    : (Usage.initial d).MovesWithin outside (p.usage control d) := by
  obtain ⟨_, moves⟩ := p.run_plays permitted {} { driver := d } 0 (by simp [Client.Ordered])
  simp only [add_zero] at moves
  exact moves

theorem Program.usage_moves (control : γ → δ → δ) (p : Program γ) (d : δ)
    : (Usage.initial d).Moves (p.usage control d) :=
  (p.usage_movesWithin (fun _ _ => True) (fun _ _ => trivial) d).moves

/-- Every transaction of every run ends once, and every program is a run, on any driver that gave
each of them an id of its own.
-/
theorem transactions_end_once (control : γ → δ → δ) (d : δ)
    : (∀ p : Program γ, (Usage.initial d).Moves (p.usage control d))
      ∧ ∀ u : Usage δ,
          (Usage.initial d).Moves u
          → u.session.Distinct
          → ∀ id ∈ u.session.ids, u.EndsOnce id :=
  ⟨
    fun p => p.usage_moves control d,
    fun _ moves distinct _ known =>
      (Usage.Moves.sound moves (.initial d) distinct).endsOnce distinct known
  ⟩

/-- A transaction with two handles whose commit the driver refuses, and whose handles are then
dropped.
-/
def Program.dropping (name other : Text) : Program ScriptedControl :=
  .call (.begin name) fun _ =>
    .call (.clone name other) fun _ =>
      .call (.control (.fail .commit (.driver "deadlock"))) fun _ =>
        .call (.commit other) fun _ =>
          .call (.drop name) fun _ => .call (.drop other) fun _ => .finish none

/-- Its transaction is abandoned once, on the second drop. -/
theorem dropping_ends_once
    : let u := (Program.dropping "a" "b").usage ScriptedDriver.prepare {}
      u.session.Distinct
      ∧ "tx-1".toList ∈ u.session.ids
      ∧ u.EndsOnce "tx-1"
      ∧ u.handles = 0
      ∧ u.session.abandonments "tx-1" = 1 := by
  have distinct
      : ((Program.dropping "a" "b").usage ScriptedDriver.prepare {}).session.Distinct := by
    unfold Session.Distinct
    decide +kernel
  have known
      : "tx-1".toList
        ∈ ((Program.dropping "a" "b").usage ScriptedDriver.prepare {}).session.ids := by
    decide +kernel
  obtain ⟨programs, once⟩ := transactions_end_once ScriptedDriver.prepare {}
  exact ⟨distinct, known, once _ (programs _) distinct _ known, by decide +kernel,
    by decide +kernel⟩

end SqlAssembly
