import SqlAssembly.Text.Basic

/-! Lengths are counted in UTF-8 bytes, and a cut never divides a character. Truncation steps back
from the limit to the start of a character, keeps what stands before it and marks that something is
missing.
-/

namespace SqlAssembly.Text

-----------------------------------------------------------------------------------------
-- Bytes
-----------------------------------------------------------------------------------------

/-- The number of bytes of a text in UTF-8. -/
def byteSize : Text → Nat
  | [] => 0
  | c :: s => c.utf8Size + byteSize s

/-- The bytes of a text in UTF-8. -/
def bytes (s : Text) : List UInt8 :=
  s.flatMap String.utf8EncodeChar

/-- A position is a boundary at either end of the text, and where the first byte of a character
stands.
-/
def isBoundary (s : Text) (position : Nat) : Bool :=
  position == 0
    || position == byteSize s
    || (bytes s)[position]?.any fun byte => decide byte.IsUTF8FirstByte

/-- The boundary to which stepping back from a position leads. -/
def lastBoundary (s : Text) : Nat → Nat
  | 0 => 0
  | position + 1 => if isBoundary s (position + 1) then position + 1 else lastBoundary s position

/-- (cutAt? bytes s) is what stands before and behind the first bytes of s, if a character ends
where they do.
-/
def cutAt? : Nat → Text → Option (Text × Text)
  | 0, s => some ([], s)
  | _ + 1, [] => none
  | bytes + 1, c :: s =>
      if c.utf8Size ≤ bytes + 1 then
        (cutAt? (bytes + 1 - c.utf8Size) s).map fun (head, rest) => (c :: head, rest)
      else none

-----------------------------------------------------------------------------------------
-- Cuts at boundaries
-----------------------------------------------------------------------------------------

variable {s rest : Text} {position : Nat}

theorem bytes_cons (c : Char) (s : Text) : bytes (c :: s) = String.utf8EncodeChar c ++ bytes s :=
  rfl

/-- A cut gives back the text, and the number of bytes before it, by induction on the text. -/
theorem append_of_cutAt? {bytes : Nat} {head : Text} (cut : cutAt? bytes s = some (head, rest))
    : s = head ++ rest ∧ byteSize head = bytes := by
  fun_induction cutAt? bytes s generalizing head with
  | case1 s =>
      cases cut
      exact ⟨rfl, rfl⟩
  | case2 => cases cut
  | case3 bytes c s fits ih =>
      obtain ⟨⟨tail, rest⟩, found, same⟩ := Option.map_eq_some_iff.mp cut
      cases same
      obtain ⟨rfl, size⟩ := ih found
      refine ⟨rfl, ?_⟩
      rw [byteSize, size]
      omega
  | case4 => cases cut

/-- A text can be cut behind any of its characters, by induction on those before the cut. -/
theorem cutAt?_byteSize (head rest : Text)
    : cutAt? (byteSize head) (head ++ rest) = some (head, rest) := by
  induction head with
  | nil =>
      rw [byteSize, List.nil_append]
      cases rest <;> rfl
  | cons c head ih =>
      have positive : 0 < c.utf8Size := c.utf8Size_pos
      obtain ⟨bytes, total⟩ : ∃ bytes, byteSize (c :: head) = bytes + 1 :=
        ⟨byteSize (c :: head) - 1, by rw [byteSize]; omega⟩
      have left : bytes + 1 - c.utf8Size = byteSize head := by
        rw [← total, byteSize]
        omega
      have fits : c.utf8Size ≤ bytes + 1 := by
        rw [← total, byteSize]
        omega
      rw [total, List.cons_append, cutAt?, if_pos fits, left, ih]
      rfl

/-- Characters end at the boundaries, by induction on the text. Inside its first character there is
no first byte, and behind it the boundaries are those of what follows.
-/
theorem append_of_isBoundary (boundary : isBoundary s position = true)
    : ∃ head rest, s = head ++ rest ∧ byteSize head = position := by
  induction s generalizing position with
  | nil =>
      have start : position = 0 := by simpa [isBoundary, byteSize, bytes] using boundary
      exact ⟨[], [], rfl, start.symm⟩
  | cons c s ih =>
      have encoded := String.length_utf8EncodeChar c
      have positive := c.utf8Size_pos
      simp only [isBoundary, byteSize, bytes_cons, Bool.or_eq_true, beq_iff_eq] at boundary
      rcases Nat.lt_or_ge position c.utf8Size with inside | behind
      · have start : position = 0 := by
          rcases boundary with (start | ending) | first
          · exact start
          · omega
          · rw [List.getElem?_append_left (by omega), List.getElem?_eq_getElem (by omega)] at first
            exact UInt8.isUTF8FirstByte_getElem_utf8EncodeChar.mp (of_decide_eq_true first)
        exact ⟨[], c :: s, rfl, start.symm⟩
      · obtain ⟨later, rfl⟩ := Nat.exists_eq_add_of_le behind
        have further : isBoundary s later = true := by
          simp only [isBoundary, Bool.or_eq_true, beq_iff_eq]
          rcases boundary with (start | ending) | first
          · omega
          · exact .inl (.inr (by omega))
          · rw [List.getElem?_append_right (by omega), encoded, Nat.add_sub_cancel_left] at first
            exact .inr first
        obtain ⟨head, rest, rfl, rfl⟩ := ih further
        exact ⟨c :: head, rest, rfl, rfl⟩

/-- Stepping back ends at a boundary, by induction on the position. -/
theorem isBoundary_lastBoundary (s : Text) (position : Nat)
    : isBoundary s (lastBoundary s position) = true := by
  induction position with
  | zero => rfl
  | succ position ih =>
      rw [lastBoundary]
      split
      · next found => exact found
      · exact ih

/-- So the text can be cut there. -/
theorem cutAt?_lastBoundary (s : Text) (position : Nat)
    : (cutAt? (lastBoundary s position) s).isSome = true := by
  obtain ⟨head, rest, split, size⟩ := append_of_isBoundary (isBoundary_lastBoundary s position)
  rw [← size, split, cutAt?_byteSize]
  rfl

-----------------------------------------------------------------------------------------
-- Truncation
-----------------------------------------------------------------------------------------

/-- (takeBytes limit s) is s while it is within the limit, else what stands before the boundary to
which stepping back from the limit leads.
-/
def takeBytes (limit : Nat) (s : Text) : Text :=
  if byteSize s ≤ limit then s
  else ((cutAt? (lastBoundary s limit) s).get (cutAt?_lastBoundary s limit)).1

/-- The text itself while it is within the limit, else what is taken of it within the limit and
three points.
-/
def truncate (limit : Option Nat) (s : Text) : Text :=
  match limit with
  | none => s
  | some bytes => if byteSize s ≤ bytes then s else takeBytes bytes s ++ "...".toList

end SqlAssembly.Text
