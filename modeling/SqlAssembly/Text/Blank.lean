import SqlAssembly.Text.Basic

/-! Blank characters are those with the Unicode property White_Space. Trimming removes them at
both ends, and the words of a text are its maximal runs without them.
-/

namespace SqlAssembly.Text

/-- The code point ranges of the Unicode property White_Space. -/
def blankRanges : List (Nat × Nat) :=
  [(0x9, 0xD), (0x20, 0x20), (0x85, 0x85), (0xA0, 0xA0), (0x1680, 0x1680), (0x2000, 0x200A),
   (0x2028, 0x2029), (0x202F, 0x202F), (0x205F, 0x205F), (0x3000, 0x3000)]

/-- (within ranges n) tells whether n lies in one of the closed ranges. -/
def within (ranges : List (Nat × Nat)) (n : Nat) : Bool :=
  ranges.any fun (low, high) => decide (low ≤ n) && decide (n ≤ high)

/-- A blank character has the property White_Space. -/
def isBlank (c : Char) : Bool :=
  within blankRanges c.toNat

/-- The text without the blanks at its start. -/
def trimStart (s : Text) : Text :=
  s.dropWhile isBlank

/-- The text without the blanks at its end. -/
def trimEnd (s : Text) : Text :=
  (s.reverse.dropWhile isBlank).reverse

/-- The text without the blanks at its start and at its end. -/
def trim (s : Text) : Text :=
  trimEnd (trimStart s)

/-- A text is blank when trimming leaves nothing. -/
def isBlankText (s : Text) : Bool :=
  (trim s).isEmpty

/-- The words of a text are its maximal runs of characters that are not blank. -/
def words : Text → List Text
  | [] => []
  | c :: rest =>
      if isBlank c then words rest
      else if rest.head?.all isBlank then [c] :: words rest
      else
        match words rest with
        | word :: others => (c :: word) :: others
        | [] => [[c]]

/-- The parts that are not blank, trimmed, with one space between neighbours. -/
def joinParts (parts : List Text) : Text :=
  join " " ((parts.map trim).filter (!·.isEmpty))

end SqlAssembly.Text
