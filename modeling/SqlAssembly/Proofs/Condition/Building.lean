import Mathlib.Data.List.DropRight
import SqlAssembly.Clause.Condition

/-! Criteria that are built call by call. Each group is settled by the calls that are about it: by
the terms after the last raw predicate, or else by that predicate. Calls about the other group
between them make no difference.
-/

namespace SqlAssembly

-----------------------------------------------------------------------------------------
-- One group
-----------------------------------------------------------------------------------------

namespace Group

/-- What a call does to a group: it adds a term, or puts a raw predicate in place of what there is.
-/
inductive Addition where
  | term (field : Text) (condition : Condition)
  | raw (sql : Text)

def Addition.term? : Addition → Option (Text × Condition)
  | term field condition => some (field, condition)
  | raw _ => none

def Addition.raw? : Addition → Option Text
  | term _ _ => none
  | raw sql => some sql

/-- The group after one call. -/
def add (group : Option Group) : Addition → Group
  | .term field condition => push group field condition
  | .raw sql => .raw sql

/-- The terms that were added after the last raw predicate, or after the start if there is none. -/
def lastTerms (additions : List Addition) : List (Text × Condition) :=
  (additions.rtakeWhile fun addition => addition.term?.isSome).filterMap Addition.term?

/-- The last raw predicate. -/
def lastRaw? (additions : List Addition) : Option Text :=
  (additions.filterMap Addition.raw?).getLast?

/-- The group that the additions come to: the last terms if there are any, else the last raw
predicate, else none.
-/
def settled (additions : List Addition) : Option Group :=
  match lastTerms additions with
  | [] => (lastRaw? additions).map .raw
  | terms => some (.fields terms)

variable {additions : List Addition}

theorem settled_of_terms (given : lastTerms additions ≠ [])
    : settled additions = some (.fields (lastTerms additions)) := by
  rw [settled]
  split
  · next none => exact absurd none given
  · rfl

theorem settled_of_no_terms (none : lastTerms additions = [])
    : settled additions = (lastRaw? additions).map .raw := by
  rw [settled, none]

/-- One more addition acts on what the additions before it came to, by cases on the addition. -/
theorem settled_concat (additions : List Addition) (addition : Addition)
    : settled (additions ++ [addition]) = some (add (settled additions) addition) := by
  cases addition with
  | term field condition =>
      have terms
          : lastTerms (additions ++ [.term field condition])
            = lastTerms additions ++ [(field, condition)] := by
        rw [lastTerms, List.rtakeWhile_concat_pos _ _ _ rfl, List.filterMap_append]
        rfl
      rw [settled_of_terms (by simp [terms]), terms, add]
      by_cases none : lastTerms additions = []
      · rw [settled_of_no_terms none, none]
        cases lastRaw? additions <;> rfl
      · rw [settled_of_terms none]
        rfl
  | raw sql =>
      have none : lastTerms (additions ++ [.raw sql]) = [] := by
        rw [lastTerms, List.rtakeWhile_concat_neg _ _ _ Bool.false_ne_true]
        rfl
      have last : lastRaw? (additions ++ [.raw sql]) = some sql := by
        simp [lastRaw?, Addition.raw?]
      rw [settled_of_no_terms none, last]
      rfl

/-- Terms alone are all kept. -/
theorem lastTerms_terms (terms : List (Text × Condition))
    : lastTerms (terms.map fun term => .term term.1 term.2) = terms := by
  have kept
      : (terms.map fun term => Addition.term term.1 term.2).rtakeWhile
          (fun addition => addition.term?.isSome)
        = terms.map fun term => .term term.1 term.2 := by
    rw [List.rtakeWhile_eq_self_iff]
    intro addition member
    obtain ⟨term, -, rfl⟩ := List.mem_map.mp member
    rfl
  rw [lastTerms, kept, List.filterMap_map]
  exact List.filterMap_some

end Group

-----------------------------------------------------------------------------------------
-- Both groups
-----------------------------------------------------------------------------------------

namespace Criteria

/-- The group that must hold, or the one of which one must hold. -/
inductive Side where
  | all
  | any
deriving DecidableEq

def group (criteria : Criteria) : Side → Option Group
  | .all => criteria.all
  | .any => criteria.any

/-- Criteria are their two groups. -/
theorem eq_of_group {criteria other : Criteria}
    (same : ∀ side, criteria.group side = other.group side)
    : criteria = other :=
  calc
    criteria = ⟨criteria.group .all, criteria.group .any⟩ := rfl
    _ = ⟨other.group .all, other.group .any⟩ := by rw [same, same]

/-- A call on criteria is an addition to one of their groups. -/
structure Call where
  side : Side
  addition : Group.Addition

def apply (criteria : Criteria) (call : Call) : Criteria :=
  match call.side, call.addition with
  | .all, .term field condition => criteria.and field condition
  | .all, .raw sql => criteria.andRaw sql
  | .any, .term field condition => criteria.or field condition
  | .any, .raw sql => criteria.orRaw sql

/-- The criteria that the calls build from empty ones. -/
def build (calls : List Call) : Criteria :=
  calls.foldl apply empty

/-- What the calls about one side add to it. -/
def additionsTo (side : Side) (calls : List Call) : List Group.Addition :=
  calls.filterMap fun call => if call.side = side then some call.addition else none

/-- A call acts on its side and leaves the other. -/
theorem group_apply (criteria : Criteria) (call : Call) (side : Side)
    : (criteria.apply call).group side
      = if call.side = side then some (Group.add (criteria.group side) call.addition)
        else criteria.group side := by
  obtain ⟨acted, addition⟩ := call
  cases acted <;> cases side <;> cases addition <;> rfl

/-- A side depends on the calls about it alone, by induction on the calls from the last one. -/
theorem group_build (calls : List Call) (side : Side)
    : (build calls).group side = Group.settled (additionsTo side calls) := by
  induction calls using List.reverseRecOn with
  | nil => cases side <;> rfl
  | append_singleton calls call ih =>
      have step : build (calls ++ [call]) = (build calls).apply call := by
        rw [build, List.foldl_append]
        rfl
      rw [step, group_apply, additionsTo, List.filterMap_append, ← additionsTo, ih]
      by_cases about : call.side = side
      · simp [about, Group.settled_concat]
      · simp [about]

/-- Terms alone come to their predicates. Without any, no call makes a group, and there are none. -/
theorem groupPredicates_settled_terms (terms : List (Text × Condition))
    : groupPredicates (Group.settled (terms.map fun term => .term term.1 term.2))
      = Group.predicates (.fields terms) := by
  have kept := Group.lastTerms_terms terms
  cases terms with
  | nil => rfl
  | cons term terms =>
      rw [Group.settled_of_terms (by rw [kept]; exact List.cons_ne_nil _ _), kept]
      rfl

/-- Criteria with the same predicates on both sides have the same predicate. -/
theorem predicate_congr {criteria other : Criteria}
    (same
      : ∀ side, groupPredicates (criteria.group side) = groupPredicates (other.group side))
    : criteria.predicate = other.predicate := by
  have all : groupPredicates criteria.all = groupPredicates other.all := same .all
  have any : groupPredicates criteria.any = groupPredicates other.any := same .any
  rw [predicate, predicate, all, any]

end Criteria

end SqlAssembly
