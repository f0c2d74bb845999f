import SqlAssembly.Proofs.Placeholder.SealedLiterals

/-! Binding moves what it copies but leaves it in its zone: a character that was quoted stays so,
and one that was not does not become so. What question marks are filled with holds none, so binding
once more changes nothing.
-/

namespace SqlAssembly

open Placeholder

-----------------------------------------------------------------------------------------
-- From positions to the output
-----------------------------------------------------------------------------------------

namespace Replacements

/-- Which placeholders the replacements are for, if for any. -/
def style? : Replacements → Option Style
  | none => .none
  | named _ => some .named
  | positional _ => some .positional

/-- The value of the placeholder at a position. -/
def valueAt (sql : Text) : Replacements → Nat → Option Json
  | none, _ => .none
  | named values, i => values.get? (nameAt sql i)
  | positional values, i => values[rankAt sql i]?

/-- What a position becomes. -/
def textAt (replacements : Replacements) (sql : Text) (i : Nat) : Text :=
  match replacements.style? with
  | .none => sql[i]?.toList
  | some style => Placeholder.textAt style sql (replacements.valueAt sql) i

/-- The position is copied: no placeholder starts there, and none covers it. -/
def isCopiedAt (replacements : Replacements) (sql : Text) (i : Nat) : Bool :=
  replacements.style?.all fun style =>
    !(isPlaceholderAt style sql i || isCoveredAt style sql i)

/-- Where the output of a position starts. -/
def landing (replacements : Replacements) (sql : Text) (i : Nat) : Nat :=
  ((List.range i).flatMap (replacements.textAt sql)).length

end Replacements

namespace Placeholder

variable {style : Style} {sql out : Text} {i : Nat} {replacements : Replacements}

-----------------------------------------------------------------------------------------
-- Zones of the source
-----------------------------------------------------------------------------------------

theorem zoneAt_succ {c : Char} (found : sql[i]? = some c)
    : zoneAt sql (i + 1) = (zoneAt sql i).after c := by
  simp [zoneAt, List.take_add_one, found]

/-- A placeholder starts outside quotes, and its mark leads nowhere else. -/
theorem zoneAt_placeholder (stands : isPlaceholderAt style sql i = true)
    : zoneAt sql i = .plain ∧ zoneAt sql (i + 1) = .plain := by
  cases style with
  | positional =>
      simp only [isPlaceholderAt, Bool.and_eq_true, decide_eq_true_eq, beq_iff_eq] at stands
      obtain ⟨outside, mark⟩ := stands
      rw [zoneAt_succ mark, outside]
      exact ⟨rfl, rfl⟩
  | named =>
      simp only [isPlaceholderAt, Bool.and_eq_true, decide_eq_true_eq, beq_iff_eq] at stands
      obtain ⟨outside, ⟨mark, -⟩, -⟩ := stands
      rw [zoneAt_succ mark, outside]
      exact ⟨rfl, rfl⟩

/-- A name stands outside quotes up to its end, by induction on the position. -/
theorem zoneAt_covered (covered : isCoveredAt style sql i = true)
    : zoneAt sql i = .plain ∧ zoneAt sql (i + 1) = .plain := by
  induction i with
  | zero => simp [isCoveredAt_eq, goesOn] at covered
  | succ i ih =>
      rw [isCoveredAt_eq, goesOn, Bool.and_eq_true, Bool.and_eq_true, Bool.or_eq_true,
        Option.any_eq_true] at covered
      obtain ⟨⟨-, before⟩, c, found, word⟩ := covered
      have outside : zoneAt sql (i + 1) = .plain := by
        rcases before with stands | covered
        · exact (zoneAt_placeholder stands).2
        · exact (ih covered).2
      refine ⟨outside, ?_⟩
      rw [zoneAt_succ found, outside, Zone.after, isQuote_wordChar word]
      rfl

-----------------------------------------------------------------------------------------
-- Zones of the output
-----------------------------------------------------------------------------------------

/-- A copied position becomes its character. -/
theorem textAt_copied (copied : replacements.isCopiedAt sql i = true)
    : replacements.textAt sql i = sql[i]?.toList := by
  rw [Replacements.isCopiedAt] at copied
  rw [Replacements.textAt]
  split
  · rfl
  · next style found =>
      simp only [found, Option.all_some, Bool.not_eq_true', Bool.or_eq_false_iff] at copied
      simp [Placeholder.textAt, keptAt, copied.1, copied.2]

/-- Any other position becomes a sealed text, and stands outside quotes to its end. -/
theorem sealed_textAt (replaced : replacements.isCopiedAt sql i = false)
    : Sealed (replacements.textAt sql i)
      ∧ zoneAt sql i = .plain
      ∧ zoneAt sql (i + 1) = .plain := by
  rw [Replacements.isCopiedAt] at replaced
  rw [Replacements.textAt]
  split
  · next none => simp [none] at replaced
  · next style found =>
      simp only [found, Option.all_some, Bool.not_eq_false', Bool.or_eq_true] at replaced
      rw [Placeholder.textAt]
      split
      · next stands =>
          refine ⟨?_, zoneAt_placeholder stands⟩
          cases replacements.valueAt sql i with
          | none => exact .nil
          | some value => exact sealed_ofValue value
      · next unmarked =>
          have covered := replaced.resolve_left unmarked
          rw [keptAt, if_pos covered]
          exact ⟨.nil, zoneAt_covered covered⟩

/-- The output of the first positions leads to the zone behind them, by induction on their number.
-/
theorem foldl_textAt {n : Nat} (within : n ≤ sql.length)
    : ((List.range n).flatMap (replacements.textAt sql)).foldl Zone.after .plain
      = zoneAt sql n := by
  induction n with
  | zero => simp [zoneAt]
  | succ n ih =>
      have before := ih (by omega)
      rw [List.range_succ, List.flatMap_append, List.foldl_append, before,
        List.flatMap_singleton]
      cases copied : replacements.isCopiedAt sql n with
      | true =>
          have found : sql[n]? = some sql[n] := List.getElem?_eq_getElem (by omega)
          rw [textAt_copied copied, found, zoneAt_succ found]
          rfl
      | false =>
          obtain ⟨sealed, outside, further⟩ := sealed_textAt copied
          rw [outside, further, sealed.closed]

/-- No question mark that is filled is left outside quotes, by induction on the positions. -/
theorem unmarked_textAt {values : List Json} {n : Nat} (within : n ≤ sql.length)
    : '?' ∉ bareFrom .plain
        ((List.range n).flatMap ((Replacements.positional values).textAt sql)) := by
  induction n with
  | zero => exact List.not_mem_nil
  | succ n ih =>
      have before := ih (by omega)
      rw [List.range_succ, List.flatMap_append, bareFrom_append, foldl_textAt (by omega),
        List.flatMap_singleton, List.mem_append]
      refine not_or.mpr ⟨before, ?_⟩
      cases copied : (Replacements.positional values).isCopiedAt sql n with
      | true =>
          have found : sql[n]? = some sql[n] := List.getElem?_eq_getElem (by omega)
          rw [textAt_copied copied, found]
          -- a bare question mark would be a placeholder, which is not copied
          simp only [Replacements.isCopiedAt, Replacements.style?, Option.all_some,
            Bool.not_eq_true', Bool.or_eq_false_iff, isPlaceholderAt, found] at copied
          by_cases outside : zoneAt sql n = .plain
          · have noMark : sql[n] ≠ '?' := by simpa [outside] using copied.1
            simpa [bareFrom, outside] using noMark.symm
          · simp [bareFrom, outside]
      | false =>
          obtain ⟨sealed, outside, -⟩ := sealed_textAt copied
          rw [outside]
          exact sealed.unmarked .positional

-----------------------------------------------------------------------------------------
-- Binding
-----------------------------------------------------------------------------------------

/-- A text is the sequence of its characters by position, by induction on the text. -/
theorem flatMap_getElem? (s : Text) : (List.range s.length).flatMap (s[·]?.toList) = s := by
  induction s with
  | nil => rfl
  | cons c s ih => simpa [List.range_succ_eq_map, List.flatMap_map] using ih

/-- A text that is bound is what its positions become. -/
theorem eq_of_bind (bound : bind sql replacements = .ok out)
    : out = (List.range sql.length).flatMap (replacements.textAt sql) := by
  have filled {style : Style} {value : Nat → Option Json}
      (substituted : substitute style sql value = .ok out)
      : out = (List.range sql.length).flatMap (Placeholder.textAt style sql value) := by
    rw [substitute, fillAt] at substituted
    split at substituted
    · cases substituted
    · exact (Except.ok.inj substituted).symm
  cases replacements with
  | none =>
      rw [bind, Except.ok.injEq] at bound
      rw [← bound]
      exact (flatMap_getElem? sql).symm
  | named values =>
      rw [bind_named] at bound
      exact filled bound
  | positional values =>
      rw [bind_positional] at bound
      exact filled bound

/-- The output starts with what the first positions become. -/
theorem exists_split (f : Nat → Text) {n m : Nat} (within : n ≤ m)
    : ∃ rest, (List.range m).flatMap f = (List.range n).flatMap f ++ rest := by
  obtain ⟨k, rfl⟩ := Nat.exists_eq_add_of_le within
  rw [List.range_add, List.flatMap_append]
  exact ⟨_, rfl⟩

/-- A copied character is found where its position lands, in the zone in which it stood. -/
theorem copied_lands (bound : bind sql replacements = .ok out) (within : i < sql.length)
    (copied : replacements.isCopiedAt sql i = true)
    : out[replacements.landing sql i]? = sql[i]?
      ∧ zoneAt out (replacements.landing sql i) = zoneAt sql i := by
  obtain ⟨rest, split⟩ := exists_split (replacements.textAt sql) (Nat.succ_le_of_lt within)
  have found : sql[i]? = some sql[i] := List.getElem?_eq_getElem within
  rw [← eq_of_bind bound, List.range_succ, List.flatMap_append, List.flatMap_singleton,
    textAt_copied copied, found, List.append_assoc] at split
  rw [split, Replacements.landing, zoneAt_behind, foldl_textAt (by omega)]
  simp [found]

/-- Every literal is read from outside quotes to outside quotes without meeting a mark there, and
the scan copies all of it. So what binding copies keeps its zone, wherever it moves to, and what it
fills question marks with holds none: binding the output once more gives it back, whatever values
there are.
-/
theorem bound_literals_stay_sealed
    : (∀ value : Json,
        Sealed (Literal.ofValue value)
        ∧ ∀ (style : Style) (previous : Option Char),
            ∃ last, ∀ rest,
              pieces style (.outside previous) (Literal.ofValue value ++ rest)
              = (Literal.ofValue value).map .copied ++ pieces style (.outside last) rest)
      ∧ (∀ (sql out : Text) (replacements : Replacements),
          bind sql replacements = .ok out
          → out = (List.range sql.length).flatMap (replacements.textAt sql)
            ∧ ∀ i < sql.length,
                replacements.isCopiedAt sql i = true
                → out[replacements.landing sql i]? = sql[i]?
                  ∧ zoneAt out (replacements.landing sql i) = zoneAt sql i)
      ∧ ∀ (sql out : Text) (values others : List Json),
          bind sql (.positional values) = .ok out → bind out (.positional others) = .ok out := by
  refine ⟨fun value => ?_, fun sql out replacements bound => ?_,
    fun sql out values others bound => ?_⟩
  · have sealed := sealed_ofValue value
    exact ⟨sealed, sealed.pieces⟩
  · exact ⟨eq_of_bind bound, fun i within copied => copied_lands bound within copied⟩
  · refine bind_unmarked ?_ others
    rw [eq_of_bind bound]
    exact unmarked_textAt le_rfl

/-- Question marks next to quotes, and within quotes of each kind. -/
def hostileSql : Text :=
  "select `?`, ?'' where note = '\\'?' and \"?\" in (?)"

/-- Texts with quotes, backslashes and marks. -/
def hostileValues : List Json :=
  [.text "it's ?", .array [.text "\\", .array [], .null, .array [.text "' = :a"]]]

theorem hostile_literals_stay_sealed
    : ∃ out,
        bind hostileSql (.positional hostileValues) = .ok out
        ∧ (∀ i < hostileSql.length,
            (Replacements.positional hostileValues).isCopiedAt hostileSql i = true
            → out[(Replacements.positional hostileValues).landing hostileSql i]? = hostileSql[i]?
              ∧ zoneAt out ((Replacements.positional hostileValues).landing hostileSql i)
                = zoneAt hostileSql i)
        ∧ bind out (.positional []) = .ok out := by
  have bound
      : bind hostileSql (.positional hostileValues)
        = .ok
            ("select `?`, 'it\\'s ?''' where note = '\\'?' and \"?\" in ".toList
              ++ "('\\\\', , NULL, '\\' = :a')".toList) := rfl
  obtain ⟨-, kept, stable⟩ := bound_literals_stay_sealed
  exact ⟨_, bound, (kept _ _ _ bound).2, stable _ _ _ [] bound⟩

end Placeholder

end SqlAssembly
