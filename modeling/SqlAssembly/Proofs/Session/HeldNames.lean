import SqlAssembly.Session.Program
import Mathlib.Data.Char
import Mathlib.Data.List.Lex
import Mathlib.Data.Multiset.Basic

/-! The names of a client stand in strict order, so each of them stands for one handle. Holding
and dropping names changes the handles by exactly the ones concerned.
-/

namespace SqlAssembly.Client

/-- The names stand in strict order. -/
def Ordered (held : List (Text × TransactionId)) : Prop :=
  held.Pairwise fun a b => a.1 < b.1

/-- A name before all others is not among them. -/
theorem lookup_of_lt {name : Text} {held : List (Text × TransactionId)}
    (smaller : ∀ entry ∈ held, name < entry.1)
    : held.lookup name = none := by
  rw [List.lookup_eq_none_iff]
  intro entry member
  simpa using (smaller entry member).ne

/-- Entries after a handle was put under a name are the new one or were there before. -/
theorem mem_insertHeld {name : Text} {id : TransactionId} {held : List (Text × TransactionId)}
    {entry : Text × TransactionId} (member : entry ∈ insertHeld name id held)
    : entry = (name, id) ∨ entry ∈ held := by
  induction held with
  | nil => simpa [insertHeld] using member
  | cons first rest ih =>
      rw [insertHeld] at member
      split at member
      · exact (List.mem_cons.mp member).imp_right (List.mem_cons_of_mem _)
      · split at member
        · exact List.mem_cons.mp member
        · rcases List.mem_cons.mp member with same | later
          · exact Or.inr (by simp [same])
          · exact (ih later).imp_right (List.mem_cons_of_mem _)

/-- Putting a handle under a name keeps the order, by trichotomy of names. -/
theorem Ordered.insertHeld {name : Text} {id : TransactionId}
    {held : List (Text × TransactionId)} (ordered : Ordered held)
    : Ordered (insertHeld name id held) := by
  induction held with
  | nil => exact List.pairwise_singleton _ _
  | cons first rest ih =>
      obtain ⟨below, tail⟩ := List.pairwise_cons.mp ordered
      by_cases same : first.1 = name
      · rw [Client.insertHeld, if_pos same]
        exact List.pairwise_cons.mpr ⟨fun entry member => same ▸ below entry member, tail⟩
      by_cases smaller : name < first.1
      · rw [Client.insertHeld, if_neg same, if_pos smaller]
        refine List.pairwise_cons.mpr ⟨fun entry member => ?_, ordered⟩
        rcases List.mem_cons.mp member with head | later
        · exact head ▸ smaller
        · exact smaller.trans (below entry later)
      · rw [Client.insertHeld, if_neg same, if_neg smaller]
        refine List.pairwise_cons.mpr ⟨fun entry member => ?_, ih tail⟩
        rcases mem_insertHeld member with new | later
        · exact new ▸ lt_of_le_of_ne (not_lt.mp smaller) same
        · exact below entry later

/-- Putting a handle under a name adds it, and gives up the one that was there. -/
theorem Ordered.insertHeld_perm {held : List (Text × TransactionId)} (ordered : Ordered held)
    (name : Text) (id : TransactionId)
    : ((held.lookup name).toList ++ (Client.insertHeld name id held).map (·.2)).Perm
        (id :: held.map (·.2)) := by
  induction held with
  | nil => simp [Client.insertHeld]
  | cons first rest ih =>
      obtain ⟨below, tail⟩ := List.pairwise_cons.mp ordered
      by_cases same : first.1 = name
      · rw [Client.insertHeld, if_pos same, List.lookup_cons, same, beq_self_eq_true]
        exact List.Perm.swap _ _ _
      have other : (name == first.1) = false := by simpa using Ne.symm same
      rw [List.lookup_cons, other]
      by_cases smaller : name < first.1
      · rw [Client.insertHeld, if_neg same, if_pos smaller]
        simp only [lookup_of_lt fun entry member => smaller.trans (below entry member)]
        exact .rfl
      · rw [Client.insertHeld, if_neg same, if_neg smaller]
        exact (List.perm_middle.trans ((ih tail).cons first.2)).trans (List.Perm.swap _ _ _)

/-- Removing a name gives up the one handle under it. -/
theorem Ordered.filter_perm {name : Text} {id : TransactionId}
    {held : List (Text × TransactionId)} (ordered : Ordered held)
    (found : held.lookup name = some id)
    : (id :: (held.filter (·.1 ≠ name)).map (·.2)).Perm (held.map (·.2)) := by
  induction held with
  | nil => simp at found
  | cons first rest ih =>
      obtain ⟨below, tail⟩ := List.pairwise_cons.mp ordered
      by_cases same : first.1 = name
      · subst same
        have others : rest.filter (·.1 ≠ first.1) = rest := by
          rw [List.filter_eq_self]
          intro entry member
          simpa using (below entry member).ne'
        rw [List.lookup_cons, beq_self_eq_true] at found
        rw [List.filter_cons_of_neg (by simp), others, List.map_cons, Option.some.inj found]
      · have other : (name == first.1) = false := by simpa using Ne.symm same
        rw [List.lookup_cons, other] at found
        rw [List.filter_cons_of_pos (by simpa using same)]
        exact (List.Perm.swap _ _ _).trans ((ih tail found).cons first.2)

/-- The handles a client holds, whatever their names. -/
def handles (c : Client) : Multiset TransactionId :=
  (c.held.map (·.2) : List TransactionId)

theorem mem_handles {c : Client} {name : Text} {id : TransactionId}
    (found : c.held.lookup name = some id)
    : id ∈ c.handles := by
  obtain ⟨before, after, split⟩ := List.lookup_eq_some_iff.mp found
  simp [handles, split]

end SqlAssembly.Client
