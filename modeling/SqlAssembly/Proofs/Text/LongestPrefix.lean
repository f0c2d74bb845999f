import SqlAssembly.Text.Truncation

/-! What truncation keeps of a text: the longest prefix that ends with a character and fits into the
limit. A character has at most four bytes, so its start is at most three steps back.
-/

namespace SqlAssembly.Text

variable {s head rest other : Text} {c : Char} {limit position : Nat}

-----------------------------------------------------------------------------------------
-- Boundaries
-----------------------------------------------------------------------------------------

theorem byteSize_append (s t : Text) : byteSize (s ++ t) = byteSize s + byteSize t := by
  induction s with
  | nil => simp [byteSize]
  | cons c s ih => simp [byteSize, ih, Nat.add_assoc]

theorem bytes_append (s t : Text) : bytes (s ++ t) = bytes s ++ bytes t :=
  List.flatMap_append

theorem length_bytes (s : Text) : (bytes s).length = byteSize s := by
  induction s with
  | nil => rfl
  | cons c s ih => rw [bytes_cons, List.length_append, String.length_utf8EncodeChar, ih, byteSize]

/-- A character ends at a boundary: either the text ends there, or the first byte of the next
character follows.
-/
theorem isBoundary_byteSize (head rest : Text)
    : isBoundary (head ++ rest) (byteSize head) = true := by
  simp only [isBoundary, Bool.or_eq_true, beq_iff_eq]
  cases rest with
  | nil => exact .inl (.inr (by rw [List.append_nil]))
  | cons c rest =>
      have encoded : 0 < (String.utf8EncodeChar c).length := by
        rw [String.length_utf8EncodeChar]
        exact c.utf8Size_pos
      have first : (String.utf8EncodeChar c)[0].IsUTF8FirstByte :=
        UInt8.isUTF8FirstByte_getElem_utf8EncodeChar.mpr rfl
      right
      rw [bytes_append, List.getElem?_append_right (Nat.le_of_eq (length_bytes head)), length_bytes,
        Nat.sub_self, bytes_cons, List.getElem?_append_left encoded,
        List.getElem?_eq_getElem encoded, Option.any_some]
      exact decide_eq_true first

/-- The boundaries are where characters end. -/
theorem isBoundary_iff
    : isBoundary s position = true ↔ ∃ head rest, s = head ++ rest ∧ byteSize head = position := by
  constructor
  · exact append_of_isBoundary
  · rintro ⟨head, rest, rfl, rfl⟩
    exact isBoundary_byteSize head rest

/-- A position within a text lies within one of its characters, by induction on the text. -/
theorem exists_around (within : position < byteSize s)
    : ∃ head c rest,
        s = head ++ c :: rest
        ∧ byteSize head ≤ position
        ∧ position < byteSize head + c.utf8Size := by
  induction s generalizing position with
  | nil => exact absurd within (Nat.not_lt_zero position)
  | cons c s ih =>
      rcases Nat.lt_or_ge position c.utf8Size with inside | behind
      · exact ⟨[], c, s, rfl, Nat.zero_le _, by simpa [byteSize] using inside⟩
      · rw [byteSize] at within
        have later : position - c.utf8Size < byteSize s := by omega
        obtain ⟨head, d, rest, rfl, above, below⟩ := ih later
        refine ⟨c :: head, d, rest, rfl, ?_, ?_⟩
        · rw [byteSize]
          omega
        · rw [byteSize]
          omega

-----------------------------------------------------------------------------------------
-- Stepping back
-----------------------------------------------------------------------------------------

theorem lastBoundary_le (s : Text) (position : Nat) : lastBoundary s position ≤ position := by
  induction position with
  | zero => exact Nat.le_refl 0
  | succ position ih =>
      rw [lastBoundary]
      split
      · exact Nat.le_refl _
      · omega

/-- No boundary up to the position is passed, by induction on the position. -/
theorem le_lastBoundary {boundary : Nat} (found : isBoundary s boundary = true)
    (upTo : boundary ≤ position)
    : boundary ≤ lastBoundary s position := by
  induction position with
  | zero => exact upTo
  | succ position ih =>
      rw [lastBoundary]
      split
      · exact upTo
      · next missing =>
          have different : boundary ≠ position + 1 := by
            rintro rfl
            exact missing found
          exact ih (by omega)

/-- How stepping back from a position within a text goes. -/
structure StepsBack (s : Text) (position : Nat) : Prop where
  /-- It stops at a boundary. -/
  stops : isBoundary s (lastBoundary s position) = true
  /-- There is none among the positions that it passes. -/
  passes : ∀ passed, lastBoundary s position < passed → passed ≤ position
    → isBoundary s passed = false
  /-- It takes three steps at most. -/
  few : ∃ steps ≤ 3, lastBoundary s position + steps = position

/-- The character around the position starts at most three bytes before it. -/
theorem StepsBack.of_within (within : position < byteSize s) : StepsBack s position where
  stops := isBoundary_lastBoundary s position
  passes passed behind upTo := by
    rw [Bool.eq_false_iff]
    intro found
    have reached := le_lastBoundary found upTo
    omega
  few := by
    obtain ⟨head, c, rest, rfl, above, below⟩ := exists_around within
    have reached := le_lastBoundary (isBoundary_byteSize head (c :: rest)) above
    have atMost := lastBoundary_le (head ++ c :: rest) position
    have width := c.utf8Size_le_four
    exact ⟨position - lastBoundary (head ++ c :: rest) position, by omega, by omega⟩

-----------------------------------------------------------------------------------------
-- What is kept
-----------------------------------------------------------------------------------------

/-- The text is cut behind its longest prefix within a limit. -/
structure LongestPrefix (limit : Nat) (s kept : Text) : Prop where
  /-- Its bytes are the first ones of the text. -/
  starts : bytes kept = (bytes s).take (byteSize kept)
  /-- It ends at a boundary. -/
  ends : isBoundary s (byteSize kept) = true
  /-- It fits. -/
  fits : byteSize kept ≤ limit
  /-- No boundary within the limit lies behind its end. -/
  longest : ∀ position ≤ limit, isBoundary s position = true → position ≤ byteSize kept
  /-- What else starts the text and fits is a part of it. -/
  extends_others : ∀ other, other <+: s → byteSize other ≤ limit → other <+: kept

/-- Of two prefixes of a text the one of fewer bytes starts the other. -/
theorem prefix_of_byteSize_le {kept : Text} (starts : other <+: s) (kept_starts : kept <+: s)
    (fewer : byteSize other ≤ byteSize kept)
    : other <+: kept := by
  rcases List.prefix_or_prefix_of_prefix starts kept_starts with shorter | ⟨more, rfl⟩
  · exact shorter
  · rw [byteSize_append] at fewer
    cases more with
    | nil => exact ⟨[], by simp⟩
    | cons c more =>
        have positive := c.utf8Size_pos
        rw [byteSize] at fewer
        omega

/-- A prefix that ends where stepping back from the limit leads is the longest one. -/
theorem LongestPrefix.of_longest {kept : Text} (split : s = kept ++ rest)
    (fits : byteSize kept ≤ limit)
    (longest : ∀ position ≤ limit, isBoundary s position = true → position ≤ byteSize kept)
    : LongestPrefix limit s kept where
  starts := by rw [split, bytes_append, ← length_bytes, List.take_left]
  ends := by
    rw [split]
    exact isBoundary_byteSize kept rest
  fits := fits
  longest := longest
  extends_others other starts within := by
    obtain ⟨more, rfl⟩ := starts
    have below := longest (byteSize other) within (isBoundary_byteSize other more)
    exact prefix_of_byteSize_le ⟨more, rfl⟩ ⟨rest, split.symm⟩ below

/-- Beyond the limit a text is cut at the boundary before it. -/
theorem takeBytes_cut (beyond : limit < byteSize s)
    : ∃ rest, cutAt? (lastBoundary s limit) s = some (takeBytes limit s, rest) := by
  have cut := cutAt?_lastBoundary s limit
  refine ⟨((cutAt? (lastBoundary s limit) s).get cut).2, ?_⟩
  rw [takeBytes, if_neg (by omega)]
  exact (Option.some_get cut).symm

/-- A text is truncated to its longest prefix within the limit. Beyond the limit the boundary where
that prefix ends is found in at most three steps back, and the text can be cut there. Three points
follow the prefix exactly if there is a limit that the text does not keep.
-/
theorem truncation_keeps_longest_prefix (s : Text) (limit : Nat)
    : LongestPrefix limit s (takeBytes limit s)
      ∧ (limit < byteSize s →
          StepsBack s limit
          ∧ ∃ rest, cutAt? (lastBoundary s limit) s = some (takeBytes limit s, rest))
      ∧ truncate none s = s
      ∧ (byteSize s ≤ limit → truncate (some limit) s = s)
      ∧ (limit < byteSize s →
          truncate (some limit) s = takeBytes limit s ++ "...".toList) := by
  refine ⟨?_, fun beyond => ⟨.of_within beyond, takeBytes_cut beyond⟩, rfl, ?_, ?_⟩
  · by_cases within : byteSize s ≤ limit
    · rw [takeBytes, if_pos within]
      refine .of_longest (List.append_nil s).symm within fun position _ boundary => ?_
      obtain ⟨head, rest, rfl, rfl⟩ := isBoundary_iff.mp boundary
      rw [byteSize_append]
      omega
    · obtain ⟨rest, cut⟩ := takeBytes_cut (Nat.lt_of_not_le within)
      obtain ⟨split, size⟩ := append_of_cutAt? cut
      refine .of_longest split ?_ fun position upTo boundary => ?_
      · rw [size]
        exact lastBoundary_le s limit
      · rw [size]
        exact le_lastBoundary boundary upTo
  · intro within
    rw [truncate, if_pos within]
  · intro beyond
    rw [truncate, if_neg (by omega)]

/-- A limit inside the second of two characters. -/
example : takeBytes 2 "aé" = "a".toList ∧ truncate (some 2) "aé" = "a...".toList := by
  decide

end SqlAssembly.Text
