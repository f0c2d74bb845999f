import SqlAssembly.Proofs.Pool.Registry
import SqlAssembly.Proofs.Session.SingleEnding

/-! What the registry of a pool holds while a session uses it: exactly the transactions that are
open, that have a handle, and of which no commit was refused. The invariant ties the registry to
the flag, the handles and the journal, which change in other places and at other moments.
-/

namespace SqlAssembly

open Pool (BackendOnly)

variable {γ β : Type} {supply : Nat → TransactionId}

-----------------------------------------------------------------------------------------
-- The invariant
-----------------------------------------------------------------------------------------

/-- The transaction is open and held, and no commit of it was refused so far. -/
def Transaction.Retained (t : Transaction) (journal : List Entry) : Prop :=
  t.finished = false ∧ t.handles ≠ 0 ∧ Entry.commit t.id false ∉ journal

/-- Ids were issued one after the other, none of them twice, and the registry holds the retained
transactions.
-/
structure Usage.Booked (u : Usage (Pool β supply)) : Prop where
  sound : u.Sound
  distinct : u.session.Distinct
  issued
    : u.session.ids = (List.range u.session.driver.issued).map fun n => supply (n + 1)
  known : ∀ id ∈ u.session.driver.registered, id ∈ u.session.ids
  registered_iff
    : ∀ t ∈ u.session.transactions,
        t.id ∈ u.session.driver.registered ↔ t.Retained u.session.journal

/-- Ids that are issued one after the other are distinct when the supply never repeats one. -/
theorem Session.Distinct.of_issued (fresh : Function.Injective supply)
    {s : Session (Pool β supply)} {count : Nat}
    (issued : s.ids = (List.range count).map fun n => supply (n + 1))
    : s.Distinct := by
  rw [Session.Distinct, issued]
  exact List.nodup_range.map fun n m same => Nat.succ_injective (fresh same)

/-- Entries that do not concern a transaction refuse no commit of it. -/
theorem Transaction.retained_append {t : Transaction} {journal entries : List Entry}
    (silent : entries.filter (Entry.concerns t.id) = [])
    : t.Retained (journal ++ entries) ↔ t.Retained journal := by
  have absent : Entry.commit t.id false ∉ entries := fun member =>
    List.filter_eq_nil_iff.mp silent _ member (by simp [Entry.concerns, Entry.asks])
  simp [Transaction.Retained, absent]

namespace Usage.Booked

variable {s : Session (Pool β supply)} {h : Multiset TransactionId}

theorem initial (b : β) : (Usage.initial ({ backend := b } : Pool β supply)).Booked where
  sound := .initial _
  distinct := List.nodup_nil
  issued := rfl
  known _ member := absurd member List.not_mem_nil
  registered_iff _ member := absurd member List.not_mem_nil

/-- A change of the backend alone, noted with entries that concern no transaction. -/
theorem noted (booked : Booked ⟨s, h⟩) {p : Pool β supply} (same : BackendOnly s.driver p)
    {entries : List Entry} (silent : Silent entries)
    : Booked ⟨s.noting p entries, h⟩ where
  sound := booked.sound.noted p silent
  distinct := booked.distinct
  issued := booked.issued.trans (congrArg _ (congrArg _ same.2.symm))
  known id member := booked.known id (same.registered ▸ member)
  registered_iff t member := by
    rw [Session.noting_driver, same.registered, Session.noting_journal,
      Transaction.retained_append (silent t.id)]
    exact booked.registered_iff t member

variable [Backend β]

/-- A transaction that begins gets the next id, is registered and is retained. -/
theorem began (fresh : Function.Injective supply) (booked : Booked ⟨s, h⟩)
    {p : Pool β supply} {id : TransactionId}
    (granted : Driver.beginTransaction s.driver = (.ok id, p))
    : Booked ⟨s.begun p id, id ::ₘ h⟩ := by
  obtain ⟨next, issued, registered⟩ := Pool.begin_registers granted
  have ids
      : (s.begun p id).ids = (List.range p.issued).map fun n => supply (n + 1) := by
    rw [Session.ids_begun, issued, List.range_succ, List.map_append, next]
    exact congrArg (· ++ _) booked.issued
  have distinct := Session.Distinct.of_issued fresh ids
  have unknown : id ∉ s.ids := by
    rw [Session.Distinct, Session.ids_begun, List.nodup_append] at distinct
    exact fun old => distinct.2.2 id old id (by simp) rfl
  have silent (i : TransactionId)
      : ([.begin, .log (.transaction .began id)] : List Entry).filter (Entry.concerns i) = [] :=
    rfl
  refine ⟨booked.sound.effect (.began granted) distinct, distinct, ids, fun i member => ?_,
    fun t member => ?_⟩
  · rw [Session.ids_begun]
    have member : i ∈ s.driver.registered ++ [id] := registered ▸ member
    exact (List.mem_append.mp member).elim (fun old => List.mem_append_left _ (booked.known i old))
      (List.mem_append_right _)
  · change t.id ∈ p.registered ↔ _
    rw [registered, Session.begun_journal, Transaction.retained_append (silent t.id)]
    rcases List.mem_append.mp member with old | new
    · have other : t.id ≠ id := fun same => unknown (same ▸ List.mem_map_of_mem old)
      simpa [other] using booked.registered_iff t old
    · have untold : Entry.commit id false ∉ s.journal := fun refused =>
        List.filter_eq_nil_iff.mp (booked.sound.silent id unknown) _ refused
          (by simp [Entry.concerns, Entry.asks])
      rw [List.mem_singleton.mp new]
      simpa [Transaction.Retained] using untold

/-- A change of one transaction keeps the invariant when the registry and its record agree
afterwards and nothing else is touched.
-/
theorem changed (booked : Booked ⟨s, h⟩) {t : Transaction} (member : t ∈ s.transactions)
    (change : Transaction → Transaction) (keeps : ∀ r, (change r).id = r.id)
    {after : Multiset TransactionId} {p : Pool β supply} {entries : List Entry}
    (effect : Effect ⟨s, h⟩ ⟨(s.noting p entries).changing t.id change, after⟩)
    (issued : p.issued = s.driver.issued)
    (others : ∀ i ≠ t.id, i ∈ p.registered ↔ i ∈ s.driver.registered)
    (elsewhere : ∀ i ≠ t.id, entries.filter (Entry.concerns i) = [])
    (own : t.id ∈ p.registered ↔ (change t).Retained (s.journal ++ entries))
    : Booked ⟨(s.noting p entries).changing t.id change, after⟩ := by
  have same : ((s.noting p entries).changing t.id change).ids = s.ids :=
    Session.ids_changing _ _ _ keeps
  have ids
      : ((s.noting p entries).changing t.id change).ids
        = (List.range p.issued).map fun n => supply (n + 1) := by
    rw [same, issued]
    exact booked.issued
  have distinct : ((s.noting p entries).changing t.id change).Distinct := by
    rw [Session.Distinct, same]
    exact booked.distinct
  refine ⟨booked.sound.effect effect distinct, distinct, ids, fun i registered => ?_,
    fun r now => ?_⟩
  · rw [same]
    by_cases hit : i = t.id
    · exact hit ▸ List.mem_map_of_mem member
    · exact booked.known i ((others i hit).mp registered)
  · rcases booked.distinct.mem_changing member now with rfl | ⟨was, other⟩
    · rw [keeps]
      exact own
    · exact (others r.id other).trans ((booked.registered_iff r was).trans
        (Transaction.retained_append (elsewhere r.id other)).symm)

/-- A transaction that is taken out of the registry when it is no longer retained. -/
theorem settled (booked : Booked ⟨s, h⟩) {t : Transaction} (member : t ∈ s.transactions)
    (change : Transaction → Transaction) (keeps : ∀ r, (change r).id = r.id)
    {after : Multiset TransactionId} {p : Pool β supply} {entries : List Entry}
    (effect : Effect ⟨s, h⟩ ⟨(s.noting p entries).changing t.id change, after⟩)
    (without : s.driver.Without p t.id)
    (elsewhere : ∀ i ≠ t.id, entries.filter (Entry.concerns i) = [])
    (lost : ¬(change t).Retained (s.journal ++ entries))
    : Booked ⟨(s.noting p entries).changing t.id change, after⟩ :=
  booked.changed member change keeps effect without.issued
    (fun i other => (without.mem_registered i).trans (and_iff_left other)) elsewhere
    (iff_of_false (fun still => ((without.mem_registered _).mp still).2 rfl) lost)

/-- A transaction whose number of handles changes while it keeps one, or once it is finished. -/
theorem counted (booked : Booked ⟨s, h⟩) {t : Transaction} (member : t ∈ s.transactions)
    (change : Transaction → Transaction) (keeps : ∀ r, (change r).id = r.id)
    {after : Multiset TransactionId} (effect : Effect ⟨s, h⟩ ⟨s.changing t.id change, after⟩)
    (own : (change t).Retained s.journal ↔ t.Retained s.journal)
    : Booked ⟨s.changing t.id change, after⟩ := by
  have unnoted : Booked ⟨(s.noting s.driver []).changing t.id change, after⟩ := by
    refine booked.changed member change keeps ?_ rfl (fun _ _ => .rfl) (fun _ _ => rfl) ?_
    · rwa [Session.noting_nil]
    · rw [List.append_nil, own]
      exact booked.registered_iff t member
  rwa [Session.noting_nil] at unnoted

/-- Every move keeps the invariant while nothing but the backend changes from outside, by cases on
the effect of the move.
-/
theorem move (fresh : Function.Injective supply) {u v : Usage (Pool β supply)}
    (booked : u.Booked) (move : u.MoveWithin BackendOnly v)
    : v.Booked := by
  obtain ⟨move, calm⟩ := move
  have effect := move.effect
  cases effect with
  | noted silent consulted => exact booked.noted (.of_consulted consulted) silent
  | @disturbed s h p =>
      have same : BackendOnly s.driver p := by
        rcases calm (by simp) with unchanged | permitted
        · exact ⟨congrArg _ unchanged, congrArg _ unchanged⟩
        · exact permitted
      exact booked.noted same fun _ => rfl
  | began granted => exact booked.began fresh granted
  | cloned held =>
      obtain ⟨t, member, rfl⟩ := booked.sound.record held
      refine booked.counted member (fun t => { t with handles := t.handles + 1 }) (fun _ => rfl)
        (.cloned held) ?_
      have positive : t.handles ≠ 0 := by
        rw [booked.sound.counted t member]
        exact Multiset.count_ne_zero.mpr held
      simp [Transaction.Retained, positive]
  | dropped held kept =>
      obtain ⟨t, member, rfl⟩ := booked.sound.record held
      refine booked.counted member (fun t => { t with handles := t.handles - 1 }) (fun _ => rfl)
        (.dropped held kept) ?_
      rcases kept _ (Sound.lessHandle_transaction? booked.distinct member) with left | finished
      · have positive : t.handles ≠ 0 := fun none => left (by simp [none])
        simp only [Transaction.Retained]
        exact and_congr_right fun _ => and_congr_left fun _ => iff_of_true left positive
      · have settled : t.finished = true := finished
        simp [Transaction.Retained, settled]
  | @abandoned s h id r held found last unfinished =>
      obtain ⟨t, member, rfl⟩ := booked.sound.record held
      rw [Sound.lessHandle_transaction? booked.distinct member] at found
      obtain rfl := Option.some.inj found
      exact booked.settled member (fun t => { t with handles := t.handles - 1 }) (fun _ => rfl)
        (.abandoned held (Sound.lessHandle_transaction? booked.distinct member) last unfinished)
        (Pool.release_without t.id s.driver)
        (fun _ => Ending.entries_elsewhere (.abandoned true)) fun retained => retained.2.1 last
  | @refused s h id error p held unfinished answer =>
      obtain ⟨t, member, rfl⟩ := booked.sound.record held
      have unchanged
          : Booked ⟨(s.noting p [.commit t.id false]).changing t.id fun t => t, h⟩ := by
        refine booked.settled member (fun t => t) (fun _ => rfl) ?_ (.of_commit answer) ?_ ?_
        · rw [Session.changing_same]
          exact .refused held unfinished answer
        · intro i other
          simp [Entry.concerns, Entry.asks, Entry.isAbandonment, other.symm]
        · simp [Transaction.Retained]
      rwa [Session.changing_same] at unchanged
  | @committed s h id p held unfinished answer =>
      obtain ⟨t, member, rfl⟩ := booked.sound.record held
      refine booked.settled member (fun t => { t with finished := true }) (fun _ => rfl)
        (.committed held unfinished answer) (.of_commit answer) (fun i other => ?_)
        fun retained => Bool.noConfusion retained.1
      simp [Entry.concerns, Entry.asks, Entry.isAbandonment, other.symm]
  | @rolledBack s h id answer p held unfinished answered =>
      obtain ⟨t, member, rfl⟩ := booked.sound.record held
      refine booked.settled member (fun t => { t with finished := true }) (fun _ => rfl)
        (.rolledBack held unfinished answered) (.of_rollback answered) (fun i other => ?_)
        fun retained => Bool.noConfusion retained.1
      cases answer <;>
        simp [Entry.concerns, Entry.asks, Entry.isAbandonment, Session.rollbackLog, other.symm]

end Usage.Booked

end SqlAssembly
