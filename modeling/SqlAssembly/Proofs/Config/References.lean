import Mathlib.Data.List.Basic
import Mathlib.Data.List.TakeWhile
import SqlAssembly.Config.Environment

/-! Where the references of a text stand, said position by position, and what becomes of each
position. Expansion replaces the references at these positions in one pass: it copies every other
character and looks at no value again.
-/

namespace SqlAssembly

-----------------------------------------------------------------------------------------
-- Splitting at a marker
-----------------------------------------------------------------------------------------

namespace Text

variable {marker : Char} {s head tail : Text}

/-- A text is split at its first marker, by induction on what stands before it. -/
theorem append_of_splitAt? (found : splitAt? marker s = some (head, tail))
    : s = head ++ marker :: tail ∧ marker ∉ head := by
  induction s generalizing head with
  | nil => cases found
  | cons c s ih =>
      rw [splitAt?] at found
      split at found
      · next same =>
          cases found
          exact ⟨congrArg (· :: _) same, List.not_mem_nil⟩
      · next different =>
          obtain ⟨⟨front, back⟩, later, same⟩ := Option.map_eq_some_iff.mp found
          cases same
          obtain ⟨rfl, absent⟩ := ih later
          refine ⟨rfl, ?_⟩
          intro member
          rcases List.mem_cons.mp member with first | further
          · exact different first.symm
          · exact absent further

theorem not_mem_of_splitAt? (missing : splitAt? marker s = none) : marker ∉ s := by
  induction s with
  | nil => exact List.not_mem_nil
  | cons c s ih =>
      rw [splitAt?] at missing
      split at missing
      · cases missing
      · next different =>
          intro member
          rcases List.mem_cons.mp member with first | further
          · exact different first.symm
          · exact ih (Option.map_eq_none_iff.mp missing) further

end Text

namespace Environment

-----------------------------------------------------------------------------------------
-- Positions
-----------------------------------------------------------------------------------------

/-- A dollar sign with an opening brace behind it stands at the position. -/
def opensAt (s : Text) (i : Nat) : Bool :=
  s[i]? == some '$' && s[i + 1]? == some '\x7b'

/-- The key of a reference at the position: what stands behind its opening brace up to the next
closing one.
-/
def keyAt (s : Text) (i : Nat) : Text :=
  (s.drop (i + 2)).takeWhile (· != '\x7d')

/-- There is a closing brace behind the opening one. -/
def isClosedAt (s : Text) (i : Nat) : Bool :=
  decide ('\x7d' ∈ s.drop (i + 2))

/-- The position behind the closing brace of a reference at the position. -/
def endAt (s : Text) (i : Nat) : Nat :=
  i + 3 + (keyAt s i).length

/-- Where the last reference ends that starts before the position. -/
def reach (s : Text) : Nat → Nat
  | 0 => 0
  | i + 1 => if opensAt s i && decide (reach s i ≤ i) then endAt s i else reach s i

/-- A reference starts at the position: it opens there, outside of those that start earlier. -/
def isReferenceAt (s : Text) (i : Nat) : Bool :=
  opensAt s i && decide (reach s i ≤ i)

/-- The positions of the references, in order. -/
def references (s : Text) : List Nat :=
  (List.range s.length).filter (isReferenceAt s)

/-- What is wrong with a reference at the position, if anything is. -/
def faultAt (env : Environment) (s : Text) (i : Nat) : Option ConfigError :=
  if isClosedAt s i = false then some (.unterminatedReference (keyAt s i))
  else if keyAt s i = [] then some .emptyReference
  else if env.lookup (keyAt s i) = none then some (.missingVariable (keyAt s i))
  else none

/-- What a position becomes: the value of its variable where a reference starts, nothing inside of
a reference, and else its own character.
-/
def expansionAt (env : Environment) (s : Text) (i : Nat) : Text :=
  if isReferenceAt s i then (env.lookup (keyAt s i)).getD []
  else if i < reach s i then []
  else s[i]?.toList

/-- The text of all positions, or what is wrong with the first reference that is faulty. -/
def substitute (env : Environment) (s : Text) : Except ConfigError Text :=
  match (references s).findSome? (faultAt env s) with
  | some error => .error error
  | none => .ok ((List.range s.length).flatMap (expansionAt env s))

variable {env other : Environment} {s done rest name : Text} {c : Char} {i k m : Nat}

/-- No reference that starts before the position goes beyond a limit, by induction on the position.
The ends of references are in order, because each starts where the one before has ended.
-/
theorem reach_le_iff
    : reach s i ≤ m ↔ ∀ j < i, isReferenceAt s j = true → endAt s j ≤ m := by
  induction i generalizing m with
  | zero => simp [reach]
  | succ i ih =>
      have last : reach s (i + 1) = if isReferenceAt s i then endAt s i else reach s i := rfl
      rw [last, Nat.forall_lt_succ_right]
      cases starts : isReferenceAt s i with
      | false => simp [ih]
      | true =>
          have free : reach s i ≤ i := by
            rw [isReferenceAt, Bool.and_eq_true, decide_eq_true_eq] at starts
            exact starts.2
          simp only [↓reduceIte, forall_const]
          constructor
          · intro ends
            refine ⟨fun j earlier reference => ?_, ends⟩
            have before := ih.mp free j earlier reference
            rw [endAt] at ends
            omega
          · rintro ⟨_, ends⟩
            exact ends

/-- References are read greedily from the left: one starts wherever a dollar sign and an opening
brace stand outside of all earlier ones.
-/
theorem isReferenceAt_iff
    : isReferenceAt s i = true
      ↔ opensAt s i = true ∧ ∀ j < i, isReferenceAt s j = true → endAt s j ≤ i := by
  rw [isReferenceAt, Bool.and_eq_true, decide_eq_true_eq, reach_le_iff]

-----------------------------------------------------------------------------------------
-- What is behind a prefix
-----------------------------------------------------------------------------------------

theorem drop_behind (done rest : Text) (k : Nat)
    : (done ++ rest).drop (done.length + k) = rest.drop k := by
  rw [← List.drop_drop, List.drop_left]

theorem getElem?_behind (done rest : Text) (k : Nat)
    : (done ++ rest)[done.length + k]? = rest[k]? := by
  rw [List.getElem?_append_right (Nat.le_add_right _ _), Nat.add_sub_cancel_left]

theorem opensAt_behind (done rest : Text) (k : Nat)
    : opensAt (done ++ rest) (done.length + k) = opensAt rest k := by
  simp only [opensAt, Nat.add_assoc, getElem?_behind]

theorem keyAt_behind (done rest : Text) (k : Nat)
    : keyAt (done ++ rest) (done.length + k) = keyAt rest k := by
  simp only [keyAt, Nat.add_assoc, drop_behind]

theorem isClosedAt_behind (done rest : Text) (k : Nat)
    : isClosedAt (done ++ rest) (done.length + k) = isClosedAt rest k := by
  simp only [isClosedAt, Nat.add_assoc, drop_behind]

theorem faultAt_behind (env : Environment) (done rest : Text) (k : Nat)
    : faultAt env (done ++ rest) (done.length + k) = faultAt env rest k := by
  rw [faultAt, isClosedAt_behind, keyAt_behind, faultAt]

/-- Once the references of a prefix have ended, the reach goes on behind it as from the start, by
induction on the position.
-/
theorem reach_behind (settled : reach (done ++ rest) done.length ≤ done.length)
    : reach (done ++ rest) (done.length + k) ≤ done.length + m ↔ reach rest k ≤ m := by
  induction k generalizing m with
  | zero =>
      simp only [Nat.add_zero, reach, Nat.zero_le, iff_true]
      omega
  | succ k ih =>
      have ends : endAt (done ++ rest) (done.length + k) = done.length + endAt rest k := by
        simp only [endAt, keyAt_behind]
        omega
      have free
          : decide (reach (done ++ rest) (done.length + k) ≤ done.length + k)
            = decide (reach rest k ≤ k) :=
        decide_eq_decide.mpr ih
      rw [← Nat.add_assoc, reach, reach, opensAt_behind, ends, free]
      split
      · omega
      · exact ih

theorem isReferenceAt_behind (settled : reach (done ++ rest) done.length ≤ done.length)
    : isReferenceAt (done ++ rest) (done.length + k) = isReferenceAt rest k := by
  rw [isReferenceAt, isReferenceAt, opensAt_behind, decide_eq_decide.mpr (reach_behind settled)]

theorem expansionAt_behind (settled : reach (done ++ rest) done.length ≤ done.length)
    : expansionAt env (done ++ rest) (done.length + k) = expansionAt env rest k := by
  have inside : done.length + k < reach (done ++ rest) (done.length + k) ↔ k < reach rest k := by
    rw [← Nat.not_le, ← Nat.not_le, reach_behind settled]
  simp only [expansionAt, isReferenceAt_behind settled, keyAt_behind, inside, getElem?_behind]

/-- So the outcome of a text is that of a prefix, and then that of the rest by itself. -/
theorem substitute_append (env : Environment)
    (settled : reach (done ++ rest) done.length ≤ done.length)
    : substitute env (done ++ rest)
      = match ((List.range done.length).filter (isReferenceAt (done ++ rest))).findSome?
            (faultAt env (done ++ rest)) with
        | some error => .error error
        | none =>
            (substitute env rest).map
              ((List.range done.length).flatMap (expansionAt env (done ++ rest)) ++ ·) := by
  have found
      : references (done ++ rest)
        = (List.range done.length).filter (isReferenceAt (done ++ rest))
          ++ (references rest).map (done.length + ·) := by
    rw [references, List.length_append, List.range_add, List.filter_append, List.filter_map,
      references]
    congr 2
    refine List.filter_congr fun k _ => ?_
    exact isReferenceAt_behind settled
  have faults
      : ((references rest).map (done.length + ·)).findSome? (faultAt env (done ++ rest))
        = (references rest).findSome? (faultAt env rest) := by
    rw [List.findSome?_map]
    congr 1
    funext k
    exact faultAt_behind env done rest k
  have written
      : (List.range (done ++ rest).length).flatMap (expansionAt env (done ++ rest))
        = (List.range done.length).flatMap (expansionAt env (done ++ rest))
          ++ (List.range rest.length).flatMap (expansionAt env rest) := by
    rw [List.length_append, List.range_add, List.flatMap_append, List.flatMap_map]
    congr 2
    funext k
    exact expansionAt_behind settled
  rw [substitute, found, List.findSome?_append, faults, written]
  cases ((List.range done.length).filter (isReferenceAt (done ++ rest))).findSome?
      (faultAt env (done ++ rest)) with
  | some error => rfl
  | none =>
      rw [Option.none_or, substitute]
      cases (references rest).findSome? (faultAt env rest) <;> rfl

-----------------------------------------------------------------------------------------
-- What stands in front
-----------------------------------------------------------------------------------------

/-- A character that opens no reference is copied. -/
theorem substitute_copied (bare : opensAt (c :: rest) 0 = false)
    : substitute env (c :: rest) = (substitute env rest).map (c :: ·) := by
  have settled : reach ([c] ++ rest) [c].length ≤ [c].length := by
    simp [reach, bare]
  have whole := substitute_append env settled
  have free : isReferenceAt (c :: rest) 0 = false := by rw [isReferenceAt, bare, Bool.false_and]
  simpa [List.range_succ, free, expansionAt, reach] using whole

/-- A reference at the start of a text covers the positions up to its end, by induction on them. -/
theorem reach_inside (starts : isReferenceAt s 0 = true) (upTo : i + 1 ≤ endAt s 0)
    : reach s (i + 1) = endAt s 0 := by
  have last (i : Nat) : reach s (i + 1) = if isReferenceAt s i then endAt s i else reach s i := rfl
  induction i with
  | zero => rw [last, if_pos starts]
  | succ i ih =>
      have before := ih (by omega)
      have covered : isReferenceAt s (i + 1) = false := by
        rw [isReferenceAt, before, decide_eq_false (by omega), Bool.and_false]
      rw [last, if_neg (by simp [covered]), before]

/-- A text that starts with a reference comes to what that reference does, and then to what the text
behind it does.
-/
theorem substitute_first (env : Environment) (starts : isReferenceAt (done ++ rest) 0 = true)
    (whole : done.length = endAt (done ++ rest) 0)
    : substitute env (done ++ rest)
      = match faultAt env (done ++ rest) 0 with
        | some error => .error error
        | none =>
            (substitute env rest).map ((env.lookup (keyAt (done ++ rest) 0)).getD [] ++ ·) := by
  obtain ⟨last, size⟩ : ∃ last, done.length = last + 1 := by
    rw [whole, endAt]
    exact ⟨(keyAt (done ++ rest) 0).length + 2, by omega⟩
  have inside {i : Nat} (within : i < last)
      : isReferenceAt (done ++ rest) (i + 1) = false ∧ expansionAt env (done ++ rest) (i + 1) = []
      := by
    have covered := reach_inside starts (i := i) (by omega)
    have bare : isReferenceAt (done ++ rest) (i + 1) = false := by
      rw [isReferenceAt, covered, decide_eq_false (by omega), Bool.and_false]
    refine ⟨bare, ?_⟩
    rw [expansionAt, bare, if_neg Bool.false_ne_true, covered, if_pos (by omega)]
  have found : (List.range done.length).filter (isReferenceAt (done ++ rest)) = [0] := by
    rw [size, List.range_succ_eq_map, List.filter_cons_of_pos starts, List.filter_map,
      List.filter_eq_nil_iff.mpr]
    · rfl
    · intro i member
      simp [(inside (List.mem_range.mp member)).1]
  have written
      : (List.range done.length).flatMap (expansionAt env (done ++ rest))
        = (env.lookup (keyAt (done ++ rest) 0)).getD [] := by
    rw [size, List.range_succ_eq_map, List.flatMap_cons, List.flatMap_map,
      List.flatMap_eq_nil_iff.mpr]
    · rw [expansionAt, if_pos starts, List.append_nil]
    · intro i member
      exact (inside (List.mem_range.mp member)).2
  have settled : reach (done ++ rest) done.length ≤ done.length := by
    rw [size, reach_inside starts (by omega)]
    omega
  rw [substitute_append env settled, found, written, List.findSome?_singleton]

theorem bne_of_not_mem (absent : '\x7d' ∉ name) : ∀ c ∈ name, (c != '\x7d') = true := by
  intro c member
  rw [bne_iff_ne]
  rintro rfl
  exact absent member

/-- The key of a reference at the start of a text ends at the first closing brace. -/
theorem keyAt_zero (absent : '\x7d' ∉ name) (rest : Text)
    : keyAt ('$' :: '\x7b' :: (name ++ '\x7d' :: rest)) 0 = name := by
  simp [keyAt, List.takeWhile_append_of_pos (bne_of_not_mem absent)]

/-- A closed reference at the start of a text has one of two faults, or becomes the value of its
variable.
-/
theorem substitute_closed (absent : '\x7d' ∉ name) (rest : Text)
    : substitute env ('$' :: '\x7b' :: (name ++ '\x7d' :: rest))
      = if name = [] then .error .emptyReference
        else
          match env.lookup name with
          | none => .error (.missingVariable name)
          | some value => (substitute env rest).map (value ++ ·) := by
  have key := keyAt_zero absent rest
  have closed : isClosedAt ('$' :: '\x7b' :: (name ++ '\x7d' :: rest)) 0 = true := by
    simp [isClosedAt]
  have split
      : ('$' :: '\x7b' :: (name ++ ['\x7d'])) ++ rest
        = '$' :: '\x7b' :: (name ++ '\x7d' :: rest) := by
    simp
  have starts : isReferenceAt ('$' :: '\x7b' :: (name ++ '\x7d' :: rest)) 0 = true := rfl
  have length
      : ('$' :: '\x7b' :: (name ++ ['\x7d'])).length
        = endAt ('$' :: '\x7b' :: (name ++ '\x7d' :: rest)) 0 := by
    rw [endAt, key, List.length_cons, List.length_cons, List.length_append, List.length_singleton]
    omega
  rw [← split] at starts length
  have first := substitute_first env starts length
  rw [split] at first
  rw [first, faultAt, key, closed]
  by_cases empty : name = []
  · simp [empty]
  · cases env.lookup name <;> simp [empty]

/-- A reference at the start of a text that is never closed is the first fault. -/
theorem substitute_unclosed (absent : '\x7d' ∉ rest)
    : substitute env ('$' :: '\x7b' :: rest) = .error (.unterminatedReference rest) := by
  have key : keyAt ('$' :: '\x7b' :: rest) 0 = rest :=
    List.takeWhile_eq_self_iff.mpr (bne_of_not_mem absent)
  have fault : faultAt env ('$' :: '\x7b' :: rest) 0 = some (.unterminatedReference rest) := by
    rw [faultAt, key, if_pos (by simpa [isClosedAt] using absent)]
  have starts : isReferenceAt ('$' :: '\x7b' :: rest) 0 = true := rfl
  rw [substitute, references, List.length_cons, List.range_succ_eq_map,
    List.filter_cons_of_pos starts, List.findSome?_cons, fault]

-----------------------------------------------------------------------------------------
-- Expansion
-----------------------------------------------------------------------------------------

/-- Expansion is substitution at the positions of the references, by induction on the text as it is
read: up to the end of a reference, or by one character.
-/
theorem expand_eq_substitute (env : Environment) (s : Text) : env.expand s = substitute env s := by
  fun_induction expand env s with
  | case1 => rfl
  | case2 rest missing => rw [substitute_unclosed (Text.not_mem_of_splitAt? missing)]
  | case3 rest after found =>
      obtain ⟨rfl, absent⟩ := Text.append_of_splitAt? found
      rw [substitute_closed absent, if_pos rfl]
  | case4 rest name after nonempty found missing =>
      obtain ⟨rfl, absent⟩ := Text.append_of_splitAt? found
      rw [substitute_closed absent, if_neg nonempty, missing]
  | case5 rest name after nonempty found value set shorter ih =>
      obtain ⟨rfl, absent⟩ := Text.append_of_splitAt? found
      rw [substitute_closed absent, if_neg nonempty, set, ih]
  | case6 c rest other ih =>
      have bare : opensAt (c :: rest) 0 = false := by
        rw [Bool.eq_false_iff]
        intro opens
        cases rest with
        | nil => simp [opensAt] at opens
        | cons d rest =>
            simp only [opensAt, List.getElem?_cons_zero, List.getElem?_cons_succ, Nat.zero_add,
              Bool.and_eq_true, beq_iff_eq, Option.some.injEq] at opens
            exact other rest opens.1 (congrArg (· :: rest) opens.2)
      rw [substitute_copied bare, ih]

/-- What is wrong with a reference, if anything is. -/
theorem faultAt_eq_none_iff
    : faultAt env s i = none
      ↔ isClosedAt s i = true ∧ keyAt s i ≠ [] ∧ ∃ value, env.lookup (keyAt s i) = some value := by
  rw [faultAt]
  cases isClosedAt s i with
  | false => simp
  | true =>
      by_cases empty : keyAt s i = []
      · simp [empty]
      · cases env.lookup (keyAt s i) <;> simp [empty]

/-- How a text is expanded in an environment. -/
structure ExpandsOnce (env : Environment) (s : Text) : Prop where
  /-- A reference starts at each opening that stands outside of all earlier references. -/
  greedy : ∀ i, isReferenceAt s i = true
    ↔ opensAt s i = true ∧ ∀ j < i, isReferenceAt s j = true → endAt s j ≤ i
  /-- The expansion succeeds exactly if each reference is closed and names a variable, and is then
  the text with each of them replaced.
  -/
  ok_iff : ∀ expanded, env.expand s = .ok expanded
    ↔ (∀ i ∈ references s,
          isClosedAt s i = true
          ∧ keyAt s i ≠ []
          ∧ ∃ value, env.lookup (keyAt s i) = some value)
      ∧ expanded = (List.range s.length).flatMap (expansionAt env s)
  /-- Otherwise the first faulty reference decides on the error. -/
  error_iff : ∀ error, env.expand s = .error error
    ↔ ∃ before i after,
        references s = before ++ i :: after
        ∧ (∀ j ∈ before, faultAt env s j = none)
        ∧ faultAt env s i = some error
  /-- Only the variables that the references name make a difference. -/
  named_only : ∀ other : Environment,
    (∀ i ∈ references s, other.lookup (keyAt s i) = env.lookup (keyAt s i))
    → other.expand s = env.expand s

theorem ExpandsOnce.of_text (env : Environment) (s : Text) : ExpandsOnce env s where
  greedy _ := isReferenceAt_iff
  ok_iff expanded := by
    simp only [← faultAt_eq_none_iff, ← List.findSome?_eq_none_iff, expand_eq_substitute,
      substitute]
    cases (references s).findSome? (faultAt env s) with
    | none => simp [eq_comm]
    | some error => simp
  error_iff error := by
    have found
        : env.expand s = .error error
          ↔ (references s).findSome? (faultAt env s) = some error := by
      rw [expand_eq_substitute, substitute]
      cases (references s).findSome? (faultAt env s) <;> simp
    rw [found, List.findSome?_eq_some_iff]
    constructor
    · rintro ⟨before, i, after, split, fault, sound⟩
      exact ⟨before, i, after, split, sound, fault⟩
    · rintro ⟨before, i, after, split, sound, fault⟩
      exact ⟨before, i, after, split, fault, sound⟩
  named_only other same := by
    have faults
        : (references s).findSome? (faultAt other s)
          = (references s).findSome? (faultAt env s) := by
      rw [← List.head?_filterMap, ← List.head?_filterMap]
      refine congrArg List.head? (List.filterMap_congr fun i member => ?_)
      rw [faultAt, faultAt, same i member]
    have written
        : (List.range s.length).flatMap (expansionAt other s)
          = (List.range s.length).flatMap (expansionAt env s) := by
      refine List.flatMap_congr fun i member => ?_
      rw [expansionAt, expansionAt]
      split
      · next starts => rw [same i (List.mem_filter.mpr ⟨member, starts⟩)]
      · rfl
    rw [expand_eq_substitute, expand_eq_substitute, substitute, substitute, faults, written]

/-- A dollar sign in front of a reference stays, and a value is not read for references. -/
example
    : expand [("A".toList, "$\x7bA\x7d".toList)] "$$\x7bA\x7d\x7d\x7b"
      = .ok "$$\x7bA\x7d\x7d\x7b".toList := by
  rw [expand_eq_substitute]
  rfl

end Environment

end SqlAssembly
