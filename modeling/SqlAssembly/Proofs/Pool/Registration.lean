import SqlAssembly.Proofs.Pool.OpenTransactions
import SqlAssembly.Sqlite.Database

/-! Which transactions a pool serves. The registry never holds one that is finished or that nobody
has a handle of. It does lose one that is still open: a refused commit takes its transaction out,
and every later call on it is turned away.
-/

namespace SqlAssembly

open Pool (BackendOnly)

variable {γ β : Type} {supply : Nat → TransactionId} [Backend β]

/-- A control of the backend as one of the pool over it. -/
def Pool.onBackend (control : γ → β → β) (c : γ) (p : Pool β supply) : Pool β supply :=
  { p with backend := control c p.backend }

/-- The invariant holds after every run, by induction on the run. -/
theorem Usage.MovesWithin.booked (fresh : Function.Injective supply) {b : β}
    {u : Usage (Pool β supply)}
    (moves : (Usage.initial ({ backend := b } : Pool β supply)).MovesWithin BackendOnly u)
    : u.Booked := by
  induction moves with
  | refl => exact .initial b
  | tail _ move ih => exact ih.move fresh move

/-- A program whose controls reach the backend only is a run beside which only the backend changes.
-/
theorem Program.usage_backendOnly (control : γ → β → β) (p : Program γ) (b : β)
    : (Usage.initial ({ backend := b } : Pool β supply)).MovesWithin BackendOnly
        (p.usage (Pool.onBackend control) { backend := b }) :=
  have permitted : ∀ c q, BackendOnly q (Pool.onBackend control c q) := fun _ _ => ⟨rfl, rfl⟩
  p.usage_movesWithin BackendOnly permitted _

-----------------------------------------------------------------------------------------
-- Registered transactions
-----------------------------------------------------------------------------------------

/-- What is registered is open and held. A finished transaction is not, so that a statement bound to
it is refused before the backend sees it.
-/
structure Usage.RegistersOpen (u : Usage (Pool β supply)) : Prop where
  openAndHeld
    : ∀ id ∈ u.session.driver.registered,
        (u.session.transaction? id).map (·.finished) = some false ∧ id ∈ u.handles
  finishedGone
    : ∀ id ∈ u.session.ids,
        u.session.isFinished id = true → id ∉ u.session.driver.registered
  noneLeft
    : (∀ id ∈ u.session.ids, u.session.isFinished id = true ∨ id ∉ u.handles)
      → u.session.driver.openTransactions = 0
  finishedRefused
    : ∀ e id sql,
        e.transaction = some id
        → id ∈ u.session.ids
        → u.session.isFinished id = true
        → Placeholder.bind e.sql e.replacements = .ok sql
        → Driver.execute e u.session.driver
          = (.error (.transaction (.unknown id)), u.session.driver)

omit [Backend β] in
theorem Usage.Booked.openAndHeld {u : Usage (Pool β supply)} (booked : u.Booked)
    {id : TransactionId}
    (registered : id ∈ u.session.driver.registered)
    : (u.session.transaction? id).map (·.finished) = some false ∧ id ∈ u.handles := by
  obtain ⟨t, member, rfl⟩ := List.mem_map.mp (booked.known id registered)
  obtain ⟨unfinished, positive, _⟩ := (booked.registered_iff t member).mp registered
  rw [booked.sound.counted t member] at positive
  refine ⟨?_, Multiset.count_ne_zero.mp positive⟩
  rw [booked.distinct.transaction? member, Option.map_some, unfinished]

omit [Backend β] in
theorem Usage.Booked.finishedGone {u : Usage (Pool β supply)} (booked : u.Booked)
    {id : TransactionId}
    (finished : u.session.isFinished id = true)
    : id ∉ u.session.driver.registered := by
  intro registered
  obtain ⟨unfinished, _⟩ := booked.openAndHeld registered
  rw [Session.isFinished] at finished
  cases found : u.session.transaction? id with
  | none => simp [found] at unfinished
  | some t =>
      simp only [found, Option.map_some, Option.some.injEq] at unfinished
      simp [found, unfinished] at finished

theorem Usage.Booked.registersOpen {u : Usage (Pool β supply)} (booked : u.Booked)
    : u.RegistersOpen where
  openAndHeld _ registered := booked.openAndHeld registered
  finishedGone _ _ finished := booked.finishedGone finished
  noneLeft settled := by
    rw [Pool.openTransactions_eq_zero_iff, List.eq_nil_iff_forall_not_mem]
    intro id registered
    rcases settled id (booked.known id registered) with finished | dropped
    · exact booked.finishedGone finished registered
    · exact dropped (booked.openAndHeld registered).2
  finishedRefused _ _ _ named _ finished filled :=
    Pool.execute_of_absent named filled (booked.finishedGone finished)

/-- In every run on a pool that never issues an id twice, whatever its backend answers and however
that changes meanwhile, the registry holds only transactions that are open and held, and every
program is a run.
-/
theorem registry_holds_open_transactions (fresh : Function.Injective supply)
    (control : γ → β → β) (b : β)
    : (∀ p : Program γ,
        (Usage.initial ({ backend := b } : Pool β supply)).MovesWithin BackendOnly
          (p.usage (Pool.onBackend control) { backend := b }))
      ∧ ∀ u : Usage (Pool β supply),
          (Usage.initial ({ backend := b } : Pool β supply)).MovesWithin BackendOnly u
          → u.RegistersOpen :=
  ⟨fun p => p.usage_backendOnly control b, fun _ moves => (moves.booked fresh).registersOpen⟩

/-- What a program without controls leaves behind on an empty database with two connections. -/
def Program.onSqlite (p : Program Empty) : Usage (Pool Sqlite.Database) :=
  p.usage (Pool.onBackend Empty.elim) { backend := { capacity := 2 } }

/-- Such a program is a run beside which only the backend changes. -/
theorem Program.onSqlite_moves (p : Program Empty)
    : (Usage.initial ({ backend := { capacity := 2 } } : Pool Sqlite.Database)).MovesWithin
        BackendOnly p.onSqlite :=
  p.usage_backendOnly Empty.elim _

/-- One transaction with two handles is committed through one of them, another is dropped. -/
def Program.settling (name other dropped : Text) : Program Empty :=
  .call (.begin name) fun _ =>
    .call (.clone name other) fun _ =>
      .call (.begin dropped) fun _ =>
        .call (.commit other) fun _ => .call (.drop dropped) fun _ => .finish none

/-- Then nothing is registered any more, and a statement of the committed transaction is refused. -/
theorem settling_leaves_none_open
    : let u := (Program.settling "a" "b" "c").onSqlite
      u.RegistersOpen
      ∧ u.session.driver.openTransactions = 0
      ∧ Driver.execute
            { sql := "select id from t", type := .select, transaction := some (Pool.freshId 1) }
            u.session.driver
          = (.error (.transaction (.unknown (Pool.freshId 1))), u.session.driver) := by
  obtain ⟨programs, open_⟩ :=
    registry_holds_open_transactions Pool.freshId_injective Empty.elim
      ({ capacity := 2 } : Sqlite.Database)
  have registers := open_ (Program.onSqlite _) (programs (.settling "a" "b" "c"))
  refine ⟨registers, registers.noneLeft ?_, registers.finishedRefused _ _ _ rfl ?_ ?_ rfl⟩
  all_goals decide +kernel

-----------------------------------------------------------------------------------------
-- Refused commits
-----------------------------------------------------------------------------------------

/-- Every later call on the transaction fails as one on a transaction that never was. A rollback
still finishes it, with the failure logged.
-/
structure Usage.TurnedAway (u : Usage (Pool β supply)) (id : TransactionId) : Prop where
  commit
    : (Session.commit id).on u.session
      = (
        .error (.transaction (.unknown id)),
        u.session.noting u.session.driver [.commit id false]
      )
  rollback
    : (Session.rollback id).on u.session
      = (
        (),
        (u.session.noting u.session.driver
          [
            .rollback id,
            .log (.suppressed .rollback (.transaction (.unknown id)) (some id))
          ]).finishing id
      )
  execute
    : ∀ e sql,
        e.transaction = some id
        → Placeholder.bind e.sql e.replacements = .ok sql
        → (Session.execute e).on u.session
          = (
            .error (.transaction (.unknown id)),
            u.session.noting u.session.driver
              [.log (.statement e.sql e.type e.transaction), .execute e]
          )

/-- An open transaction that is not registered is turned away. -/
theorem Usage.TurnedAway.of_absent {u : Usage (Pool β supply)} {id : TransactionId}
    (unfinished : u.session.isFinished id = false) (absent : id ∉ u.session.driver.registered)
    : u.TurnedAway id where
  commit := Session.commit_on_error unfinished (Pool.finish_of_absent Backend.commit absent)
  rollback :=
    Session.rollback_on_unfinished unfinished (Pool.finish_of_absent Backend.rollback absent)
  execute e sql named filled := by
    have refused
        : Driver.execute e u.session.driver
          = (.error (.transaction (.unknown id)), u.session.driver) :=
      Pool.execute_of_absent named filled absent
    rw [Session.execute_on, refused]

/-- An open transaction is registered as long as no commit of it was refused, and from then on it is
turned away.
-/
theorem refused_commit_turns_away (fresh : Function.Injective supply) (b : β)
    (u : Usage (Pool β supply))
    (moves : (Usage.initial ({ backend := b } : Pool β supply)).MovesWithin BackendOnly u)
    (id : TransactionId) (held : id ∈ u.handles) (unfinished : u.session.isFinished id = false)
    : (id ∈ u.session.driver.registered ↔ Entry.commit id false ∉ u.session.journal)
      ∧ (Entry.commit id false ∈ u.session.journal → u.TurnedAway id) := by
  have booked := moves.booked fresh
  obtain ⟨t, member, rfl⟩ := booked.sound.record held
  have registered
      : t.id ∈ u.session.driver.registered ↔ Entry.commit t.id false ∉ u.session.journal := by
    rw [booked.registered_iff t member, Transaction.Retained, booked.sound.counted t member,
      ← booked.distinct.isFinished member]
    simp [unfinished, Multiset.count_ne_zero.mpr held]
  exact ⟨registered, fun refused =>
    .of_absent unfinished fun still => registered.mp still refused⟩

/-- One transaction reads, another writes and is committed meanwhile. -/
def Program.overtaking (reader writer : Text) : Program Empty :=
  .call (.begin reader) fun _ =>
    .call (.begin writer) fun _ =>
      .call (.count { table := "t" } { transaction := some reader }) fun _ =>
        .call
            (.insert { table := "t", values := some (.structured [("v", .text "x")]) } .plain
              { transaction := some writer })
            fun _ => .call (.commit writer) fun _ => .finish none

/-- The database refuses that commit. The writing transaction stays open and held, but it is no
longer registered.
-/
theorem overtaking_open
    : let u := (Program.overtaking "a" "b").onSqlite
      Pool.freshId 2 ∈ u.handles
      ∧ u.session.isFinished (Pool.freshId 2) = false
      ∧ Pool.freshId 2 ∉ u.session.driver.registered := by
  decide +kernel

/-- It is turned away. -/
theorem overtaking_turns_away
    : let u := (Program.overtaking "a" "b").onSqlite
      Pool.freshId 2 ∈ u.handles
      ∧ u.session.isFinished (Pool.freshId 2) = false
      ∧ u.TurnedAway (Pool.freshId 2) := by
  obtain ⟨held, unfinished, absent⟩ := overtaking_open
  have moves := (Program.overtaking "a" "b").onSqlite_moves
  obtain ⟨registered, away⟩ := refused_commit_turns_away Pool.freshId_injective _
    (Program.overtaking "a" "b").onSqlite moves (Pool.freshId 2) held unfinished
  exact ⟨held, unfinished, away (not_not.mp (mt registered.mpr absent))⟩

/-- So it is not true that the pool serves every transaction that is open and held. -/
theorem open_transaction_unregistered
    : ¬∀ u : Usage (Pool Sqlite.Database),
        (Usage.initial ({ backend := { capacity := 2 } } : Pool Sqlite.Database)).MovesWithin
          BackendOnly u
        → ∀ id ∈ u.handles,
            u.session.isFinished id = false → id ∈ u.session.driver.registered := by
  intro always
  obtain ⟨held, unfinished, absent⟩ := overtaking_open
  have moves := (Program.overtaking "a" "b").onSqlite_moves
  exact absent (always (Program.overtaking "a" "b").onSqlite moves (Pool.freshId 2) held unfinished)

end SqlAssembly
