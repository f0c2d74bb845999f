import Mathlib.Data.List.Basic
import Mathlib.Data.List.Find
import SqlAssembly.Proofs.Placeholder.Positions

/-! Binding is substitution at the positions of the placeholders and nothing else. Values are used
in order or by name; those that no placeholder asks for make no difference.
-/

namespace SqlAssembly.Placeholder

/-- How many question marks stand for values before a position. -/
def rankAt (sql : Text) (i : Nat) : Nat :=
  (List.range i).countP (isPlaceholderAt .positional sql)

/-- What is kept of a position where no placeholder starts: its character, unless it belongs to a
placeholder before it.
-/
def keptAt (style : Style) (sql : Text) (i : Nat) : Text :=
  if isCoveredAt style sql i then [] else sql[i]?.toList

/-- What a position becomes: the literal of its value where a placeholder starts, and else what is
kept of it.
-/
def textAt (style : Style) (sql : Text) (value : Nat → Option Json) (i : Nat) : Text :=
  if isPlaceholderAt style sql i then (value i).elim [] Literal.ofValue else keptAt style sql i

/-- The error of a placeholder without a value. -/
def missingAt (style : Style) (sql : Text) (i : Nat) : ParamError :=
  match style with
  | .positional => .positionalMissing
  | .named => .namedMissing (nameAt sql i)

/-- The outcome for some positions in order: the text of them all, or the error of the first
placeholder that has no value.
-/
def fillAt (style : Style) (sql : Text) (value : Nat → Option Json) (positions : List Nat)
    : Except ParamError Text :=
  match (positions.filter (isPlaceholderAt style sql)).find? fun i => (value i).isNone with
  | some i => .error (missingAt style sql i)
  | none => .ok (positions.flatMap (textAt style sql value))

/-- The outcome for a whole text. -/
def substitute (style : Style) (sql : Text) (value : Nat → Option Json)
    : Except ParamError Text :=
  fillAt style sql value (List.range sql.length)

variable {style : Style} {sql : Text} {i : Nat} {rest : List Nat}

-----------------------------------------------------------------------------------------
-- One position at a time
-----------------------------------------------------------------------------------------

/-- A placeholder with a value becomes its literal. -/
theorem fillAt_filled (value : Nat → Option Json) {v : Json}
    (marked : isPlaceholderAt style sql i = true) (given : value i = some v)
    : fillAt style sql value (i :: rest)
      = (fillAt style sql value rest).map (Literal.ofValue v ++ ·) := by
  rw [fillAt, fillAt, List.filter_cons_of_pos marked, List.find?_cons_of_neg (by simp [given])]
  split <;> simp [Except.map, textAt, marked, given]

/-- A placeholder without a value ends the substitution. -/
theorem fillAt_missing (value : Nat → Option Json)
    (marked : isPlaceholderAt style sql i = true) (lacks : value i = none)
    : fillAt style sql value (i :: rest) = .error (missingAt style sql i) := by
  rw [fillAt, List.filter_cons_of_pos marked, List.find?_cons_of_pos (by simp [lacks])]

/-- Any other position gives what is kept of it. -/
theorem fillAt_kept (value : Nat → Option Json) (unmarked : isPlaceholderAt style sql i = false)
    : fillAt style sql value (i :: rest)
      = (fillAt style sql value rest).map (keptAt style sql i ++ ·) := by
  rw [fillAt, fillAt, List.filter_cons_of_neg (by simp [unmarked])]
  split <;> simp [Except.map, textAt, unmarked]

/-- The pieces of such a position are the copies of what is kept of it. -/
theorem pieces_kept (unmarked : isPlaceholderAt style sql i = false)
    : (i :: rest).filterMap (pieceAt style sql)
      = (keptAt style sql i).map .copied ++ rest.filterMap (pieceAt style sql) := by
  have piece
      : pieceAt style sql i
        = if isCoveredAt style sql i then none else sql[i]?.map .copied := by
    simp [pieceAt, unmarked]
  rw [List.filterMap_cons, piece, keptAt]
  cases isCoveredAt style sql i with
  | true => rfl
  | false => cases sql[i]? <;> rfl

/-- Only the values of placeholders matter. -/
theorem substitute_congr {value other : Nat → Option Json}
    (same : ∀ i ∈ placeholders style sql, value i = other i)
    : substitute style sql value = substitute style sql other := by
  have asked
      : (placeholders style sql).find? (fun i => (value i).isNone)
        = (placeholders style sql).find? (fun i => (other i).isNone) :=
    List.find?_congr fun i member => by rw [same i member]
  have written
      : (List.range sql.length).flatMap (textAt style sql value)
        = (List.range sql.length).flatMap (textAt style sql other) := by
    refine List.flatMap_congr fun i member => ?_
    rw [textAt, textAt]
    split
    · next marked => rw [same i (List.mem_filter.mpr ⟨member, marked⟩)]
    · rfl
  rw [placeholders] at asked
  rw [substitute, substitute, fillAt, fillAt, asked, written]

-----------------------------------------------------------------------------------------
-- Names
-----------------------------------------------------------------------------------------

/-- Copied characters go in front of what is filled. -/
theorem fillNamed_copied (values : Values) (s : Text) (pieces : List Piece)
    : fillNamed values (s.map .copied ++ pieces) = (fillNamed values pieces).map (s ++ ·) := by
  induction s with
  | nil => cases found : fillNamed values pieces <;> simp [found, Except.map]
  | cons c s ih =>
      rw [List.map_cons, List.cons_append, fillNamed, ih]
      cases fillNamed values pieces <;> rfl

/-- Filling the pieces of some positions by name, by induction on the positions. -/
theorem fillNamed_eq (sql : Text) (values : Values) (positions : List Nat)
    : fillNamed values (positions.filterMap (pieceAt .named sql))
      = fillAt .named sql (fun i => values.get? (nameAt sql i)) positions := by
  induction positions with
  | nil => rfl
  | cons i rest ih =>
      cases marked : isPlaceholderAt .named sql i with
      | true =>
          have piece : pieceAt .named sql i = some (.named (nameAt sql i)) := by
            simp [pieceAt, marked]
          rw [List.filterMap_cons, piece]
          cases given : values.get? (nameAt sql i) with
          | none =>
              rw [fillAt_missing (fun i => values.get? (nameAt sql i)) marked given]
              simp [fillNamed, given, missingAt]
          | some v =>
              rw [fillAt_filled (fun i => values.get? (nameAt sql i)) marked given, ← ih]
              simp [fillNamed, given]
      | false => rw [fillAt_kept _ marked, ← ih, pieces_kept marked, fillNamed_copied]

-----------------------------------------------------------------------------------------
-- Question marks
-----------------------------------------------------------------------------------------

/-- Copied characters go in front of what is filled. -/
theorem fillPositional_copied (values : List Json) (s : Text) (pieces : List Piece)
    : fillPositional (s.map .copied ++ pieces) values
      = (fillPositional pieces values).map (s ++ ·) := by
  induction s with
  | nil => cases found : fillPositional pieces values <;> simp [found, Except.map]
  | cons c s ih =>
      rw [List.map_cons, List.cons_append, fillPositional, ih]
      cases fillPositional pieces values <;> rfl

/-- A question mark is one more placeholder before the next position. -/
theorem rankAt_next (sql : Text) (i : Nat)
    : rankAt sql (i + 1)
      = rankAt sql i + if isPlaceholderAt .positional sql i then 1 else 0 := by
  rw [rankAt, List.range_succ, List.countP_append, List.countP_singleton]
  rfl

/-- Filling the pieces from a position on, with the values that are left there, by induction on the
number of positions.
-/
theorem fillPositional_eq (sql : Text) (values : List Json) (first count : Nat)
    : fillPositional ((List.range' first count).filterMap (pieceAt .positional sql))
        (values.drop (rankAt sql first))
      = fillAt .positional sql (fun i => values[rankAt sql i]?) (List.range' first count) := by
  induction count generalizing first with
  | zero => rfl
  | succ count ih =>
      have later := ih (first + 1)
      rw [rankAt_next] at later
      rw [List.range'_succ]
      cases marked : isPlaceholderAt .positional sql first with
      | true =>
          have piece : pieceAt .positional sql first = some .positional := by
            simp [pieceAt, marked]
          rw [List.filterMap_cons, piece]
          rw [marked, if_pos rfl] at later
          cases given : values[rankAt sql first]? with
          | none =>
              rw [fillAt_missing (fun i => values[rankAt sql i]?) marked given]
              have spent : values.drop (rankAt sql first) = [] :=
                List.drop_eq_nil_of_le (List.getElem?_eq_none_iff.mp given)
              rw [spent]
              rfl
          | some v =>
              rw [fillAt_filled (fun i => values[rankAt sql i]?) marked given, ← later]
              obtain ⟨bound, rfl⟩ := List.getElem?_eq_some_iff.mp given
              rw [List.drop_eq_getElem_cons bound]
              rfl
      | false =>
          simp only [marked, Bool.false_eq_true, ↓reduceIte, Nat.add_zero] at later
          rw [fillAt_kept _ marked, ← later, pieces_kept marked, fillPositional_copied]

/-- The values suffice up to a position just when each question mark before it has one, by
induction on the position.
-/
theorem rankAt_le (sql : Text) (n limit : Nat)
    : rankAt sql n ≤ limit
      ↔ ∀ i < n, isPlaceholderAt .positional sql i = true → rankAt sql i < limit := by
  induction n with
  | zero => simp [rankAt]
  | succ n ih =>
      rw [rankAt_next, Nat.forall_lt_succ_right, ← ih]
      cases marked : isPlaceholderAt .positional sql n with
      | true =>
          simp only [↓reduceIte, forall_const]
          omega
      | false => simp

theorem length_placeholders (sql : Text)
    : (placeholders .positional sql).length = rankAt sql sql.length := by
  rw [placeholders, ← List.countP_eq_length_filter, rankAt]

-----------------------------------------------------------------------------------------
-- Binding
-----------------------------------------------------------------------------------------

/-- A substitution succeeds just when every placeholder has a value. -/
theorem substitute_isOk {value : Nat → Option Json}
    : (substitute style sql value).isOk = true
      ↔ ∀ i ∈ placeholders style sql, (value i).isSome = true := by
  rw [substitute, fillAt, ← placeholders]
  cases found : (placeholders style sql).find? fun i => (value i).isNone with
  | none =>
      have all := List.find?_eq_none.mp found
      refine iff_of_true rfl fun i member => ?_
      have given := all i member
      rwa [Bool.not_eq_true, Option.isNone_eq_false_iff] at given
  | some i =>
      have lacks := List.find?_some found
      refine iff_of_false Bool.false_ne_true fun all => ?_
      have given := all i (List.mem_of_find?_eq_some found)
      rw [Option.isNone_iff_eq_none.mp lacks] at given
      exact Bool.false_ne_true given

theorem bind_positional (sql : Text) (values : List Json)
    : bind sql (.positional values)
      = substitute .positional sql fun i => values[rankAt sql i]? := by
  rw [bind, scan_eq, List.range_eq_range', substitute, List.range_eq_range', ← fillPositional_eq]
  rfl

theorem bind_named (sql : Text) (values : Values)
    : bind sql (.named values)
      = substitute .named sql fun i => values.get? (nameAt sql i) := by
  rw [bind, scan_eq, fillNamed_eq, substitute]

/-- A look-up that keeps the key finds what was there, by induction on the values. -/
theorem get?_filter (values : Values) (keeps : Text → Bool) {key : Text}
    (kept : keeps key = true)
    : Values.get? (values.filter fun entry => keeps entry.1) key = values.get? key := by
  simp only [Values.get?]
  induction values with
  | nil => rfl
  | cons entry rest ih =>
      obtain ⟨k, v⟩ := entry
      by_cases same : key = k
      · subst same
        simp [kept]
      · cases held : keeps k with
        | true => simp [held, List.lookup_cons, beq_false_of_ne same, ih]
        | false => simp [held, List.lookup_cons, beq_false_of_ne same, ih]

/-- Binding is substitution at the positions of the placeholders. It succeeds when there are enough
values, or a value for every name, and values beyond those make no difference.
-/
theorem bind_substitutes (sql : Text)
    : (∀ values : List Json,
        bind sql (.positional values)
          = (substitute .positional sql fun i => values[rankAt sql i]?)
        ∧ ((bind sql (.positional values)).isOk = true
            ↔ (placeholders .positional sql).length ≤ values.length)
        ∧ bind sql (.positional (values.take (placeholders .positional sql).length))
          = bind sql (.positional values))
      ∧ ∀ values : Values,
          bind sql (.named values)
            = (substitute .named sql fun i => values.get? (nameAt sql i))
          ∧ ((bind sql (.named values)).isOk = true
              ↔ ∀ i ∈ placeholders .named sql, nameAt sql i ∈ values.map (·.1))
          ∧ bind sql
              (.named
                (values.filter fun entry =>
                  decide (entry.1 ∈ (placeholders .named sql).map (nameAt sql))))
            = bind sql (.named values) := by
  refine ⟨fun values => ⟨bind_positional sql values, ?_, ?_⟩, fun values =>
    ⟨bind_named sql values, ?_, ?_⟩⟩
  · rw [bind_positional, substitute_isOk, length_placeholders, rankAt_le]
    simp [placeholders]
  · rw [bind_positional, bind_positional]
    refine substitute_congr fun i member => ?_
    obtain ⟨bound, marked⟩ := List.mem_filter.mp member
    have within := (rankAt_le sql sql.length _).mp le_rfl i (List.mem_range.mp bound) marked
    rw [length_placeholders, List.getElem?_take_of_lt within]
  · rw [bind_named, substitute_isOk]
    refine forall₂_congr fun i _ => ?_
    rw [Values.get?, List.lookup_isSome_iff]
    simp
  · rw [bind_named, bind_named]
    refine substitute_congr fun i member => ?_
    refine get?_filter values
      (fun key => decide (key ∈ (placeholders .named sql).map (nameAt sql))) ?_
    exact decide_eq_true (List.mem_map_of_mem member)

end SqlAssembly.Placeholder
