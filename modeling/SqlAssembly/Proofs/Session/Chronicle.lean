import SqlAssembly.Proofs.Session.Effects

/-! What a journal tells of one transaction: commits that were refused, then how it ended, if it
did, and nothing more. The end is a confirmed commit, a call to roll back, or an abandonment,
which the driver's release follows at once.
-/

namespace SqlAssembly

namespace Entry

/-- The driver confirmed a commit of the transaction. -/
def isConfirmedCommit (id : TransactionId) : Entry → Bool
  | commit i confirmed => i == id && confirmed
  | _ => false

/-- The driver was asked to roll the transaction back. -/
def isRollback (id : TransactionId) : Entry → Bool
  | rollback i => i == id
  | _ => false

def isAbandonment (id : TransactionId) : Entry → Bool
  | log (.transaction .abandoned i) => i == id
  | _ => false

/-- The entry ends the transaction. -/
def ends (id : TransactionId) (entry : Entry) : Bool :=
  entry.isConfirmedCommit id || entry.isRollback id || entry.isAbandonment id

/-- The driver was asked to commit, roll back or release the transaction. -/
def asks (id : TransactionId) : Entry → Bool
  | commit i _ => i == id
  | rollback i => i == id
  | release i => i == id
  | _ => false

/-- The entry ends the transaction or asks the driver to. -/
def concerns (id : TransactionId) (entry : Entry) : Bool :=
  entry.asks id || entry.isAbandonment id

theorem concerns_of_ends {id : TransactionId} {entry : Entry} (h : entry.ends id = true)
    : entry.concerns id = true := by
  cases entry with
  | commit i confirmed =>
      simp only [ends, isConfirmedCommit, isRollback, isAbandonment, Bool.or_false,
        Bool.and_eq_true] at h
      simp [concerns, asks, h.1]
  | rollback i => simpa [concerns, asks, ends, isConfirmedCommit, isRollback, isAbandonment] using h
  | log entry => simpa [concerns, asks, ends, isConfirmedCommit, isRollback] using h
  | execute | begin | release | authenticate | close | guard =>
      simp [ends, isConfirmedCommit, isRollback, isAbandonment] at h

end Entry

/-- How a transaction ended. -/
inductive Ending where
  | committed
  | rolledBack
  | abandoned (released : Bool)

/-- What is noted when a transaction ends. -/
def Ending.entries (id : TransactionId) : Ending → List Entry
  | committed => [.commit id true]
  | rolledBack => [.rollback id]
  | abandoned released => Session.abandonment id released

/-- What is noted when a transaction ends concerns no other. -/
theorem Ending.entries_elsewhere {id other : TransactionId} (how : Ending) (distinct : other ≠ id)
    : (how.entries id).filter (Entry.concerns other) = [] := by
  have unequal : (id == other) = false := beq_false_of_ne distinct.symm
  rcases how with _ | _ | _ | _ <;>
    simp [entries, Session.abandonment, Entry.concerns, Entry.asks, Entry.isAbandonment, unequal]

/-- The journal tells that some commits were refused, that the transaction ended in this way or
not at all, and nothing else of it.
-/
def Tells (id : TransactionId) (journal : List Entry) (ending : Option Ending) : Prop :=
  ∃ before after refused,
    journal = before ++ (ending.elim [] (Ending.entries id) ++ after)
    ∧ before.filter (Entry.concerns id) = List.replicate refused (.commit id false)
    ∧ after.filter (Entry.concerns id) = []

namespace Tells

variable {id : TransactionId} {journal : List Entry} {ending : Option Ending}

-----------------------------------------------------------------------------------------
-- How a chronicle grows
-----------------------------------------------------------------------------------------

/-- Before anything concerned the transaction. -/
theorem of_silent (silent : journal.filter (Entry.concerns id) = []) : Tells id journal none :=
  ⟨[], journal, 0, rfl, rfl, silent⟩

/-- Entries about anything else change nothing. -/
theorem append (tells : Tells id journal ending) {more : List Entry}
    (silent : more.filter (Entry.concerns id) = [])
    : Tells id (journal ++ more) ending := by
  obtain ⟨before, after, refused, rfl, early, late⟩ := tells
  exact ⟨before, after ++ more, refused, by simp, early, by simp [late, silent]⟩

/-- While the transaction is open, the whole journal holds nothing but refused commits of it. -/
theorem refusals (tells : Tells id journal none)
    : ∃ refused,
        journal.filter (Entry.concerns id) = List.replicate refused (.commit id false) := by
  obtain ⟨before, after, refused, rfl, early, late⟩ := tells
  exact ⟨refused, by simp [early, late]⟩

/-- A refused commit leaves the transaction open. -/
theorem refuse (tells : Tells id journal none)
    : Tells id (journal ++ [.commit id false]) none := by
  obtain ⟨refused, early⟩ := tells.refusals
  refine ⟨journal ++ [.commit id false], [], refused + 1, by simp, ?_, rfl⟩
  have concerned : Entry.concerns id (.commit id false) = true := by
    simp [Entry.concerns, Entry.asks]
  rw [List.filter_append, early, List.filter_cons_of_pos concerned, List.replicate_succ']
  rfl

/-- An open transaction ends. -/
theorem finish (tells : Tells id journal none) (how : Ending) {more : List Entry}
    (silent : more.filter (Entry.concerns id) = [])
    : Tells id (journal ++ (how.entries id ++ more)) (some how) := by
  obtain ⟨refused, early⟩ := tells.refusals
  exact ⟨journal, more, refused, rfl, early, silent⟩

-----------------------------------------------------------------------------------------
-- What a chronicle implies
-----------------------------------------------------------------------------------------

/-- A predicate of concerned entries that holds of no refused commit is counted at the end alone,
because the journal has nothing else of the transaction.
-/
theorem countP_eq (tells : Tells id journal ending) {p : Entry → Bool}
    (concerned : ∀ entry, p entry = true → entry.concerns id = true)
    (refused : p (.commit id false) = false)
    : journal.countP p = (ending.elim [] (Ending.entries id)).countP p := by
  obtain ⟨before, after, count, rfl, early, late⟩ := tells
  have restrict (entries : List Entry)
      : entries.countP p = (entries.filter (Entry.concerns id)).countP p := by
    rw [List.countP_filter]
    refine List.countP_congr fun entry _ => ?_
    have := concerned entry
    grind
  rw [List.countP_append, List.countP_append, restrict before, restrict after, early, late]
  simp [List.countP_replicate, refused]

/-- Refused commits end nothing. -/
theorem not_ends {entries : List Entry} {refused : Nat}
    (only : entries.filter (Entry.concerns id) = List.replicate refused (.commit id false))
    : ∀ entry ∈ entries, entry.ends id = false := by
  intro entry member
  refine Bool.eq_false_iff.mpr fun ended => ?_
  have kept := List.mem_filter.mpr ⟨member, Entry.concerns_of_ends ended⟩
  rw [only] at kept
  have same := List.eq_of_mem_replicate kept
  subst same
  simp [Entry.ends, Entry.isConfirmedCommit, Entry.isRollback, Entry.isAbandonment] at ended

/-- The only entry with a property is found at one place, by induction on what stands before it. -/
theorem only_place {p : Entry → Bool} {before rest head tail : List Entry} {first entry : Entry}
    (none : ∀ e ∈ before, p e = false) (later : ∀ e ∈ rest, p e = false)
    (same : before ++ first :: rest = head ++ entry :: tail) (holds : p entry = true)
    : entry = first ∧ tail = rest := by
  induction before generalizing head with
  | nil =>
      cases head with
      | nil =>
          obtain ⟨rfl, rfl⟩ := List.cons.inj same
          exact ⟨rfl, rfl⟩
      | cons e others =>
          obtain ⟨_, rfl⟩ := List.cons.inj same
          have absent := later entry (by simp)
          simp [holds] at absent
  | cons e others ih =>
      cases head with
      | nil =>
          obtain ⟨rfl, _⟩ := List.cons.inj same
          have absent := none e (by simp)
          simp [holds] at absent
      | cons _ others =>
          exact ih (fun e member => none e (List.mem_cons_of_mem _ member)) (List.cons.inj same).2

/-- After the entry that ends a transaction the driver is not asked about it again, except that an
abandonment brings its own release.
-/
theorem nothing_after (tells : Tells id journal ending) {head tail : List Entry} {entry : Entry}
    (split : journal = head ++ entry :: tail) (ended : entry.ends id = true)
    : ∃ own rest,
        tail = own ++ rest
        ∧ (own = [] ∨ entry.isAbandonment id = true ∧ own = [.release id])
        ∧ ∀ later ∈ rest, later.asks id = false := by
  obtain ⟨before, after, refused, whole, early, late⟩ := tells
  have quiet : ∀ later ∈ after, later.asks id = false := by
    intro later member
    have unconcerned := List.filter_eq_nil_iff.mp late later member
    simp only [Entry.concerns, Bool.or_eq_true, not_or, Bool.not_eq_true] at unconcerned
    exact unconcerned.1
  have noEarlier := not_ends early
  have noLater := not_ends (show _ = List.replicate 0 _ from late)
  rcases ending with _ | _ | _ | released
  · have member : entry ∈ before ++ after := by
      rw [show before ++ after = head ++ entry :: tail from whole.symm.trans split]
      simp
    have absent : entry.ends id = false :=
      (List.mem_append.mp member).elim (noEarlier entry) (noLater entry)
    simp [ended] at absent
  · obtain ⟨_, rest⟩ := only_place noEarlier noLater (whole.symm.trans split) ended
    exact ⟨[], after, rest, Or.inl rfl, quiet⟩
  · obtain ⟨_, rest⟩ := only_place noEarlier noLater (whole.symm.trans split) ended
    exact ⟨[], after, rest, Or.inl rfl, quiet⟩
  · have releaseEndsNothing : ∀ e ∈ (if released then [.release id] else []) ++ after,
        Entry.ends id e = false := by
      intro e member
      rcases List.mem_append.mp member with own | rest
      · cases released with
        | false => simp at own
        | true => rw [List.mem_singleton.mp own]; rfl
      · exact noLater e rest
    obtain ⟨rfl, rest⟩ := only_place noEarlier releaseEndsNothing (whole.symm.trans split) ended
    refine ⟨_, after, rest, ?_, quiet⟩
    cases released with
    | false => exact Or.inl rfl
    | true => exact Or.inr ⟨by simp [Entry.isAbandonment], rfl⟩

end Tells

end SqlAssembly
