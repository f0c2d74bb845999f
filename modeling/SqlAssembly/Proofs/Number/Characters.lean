import SqlAssembly.Number.Basic

/-! The characters that numbers are written with. What holds of each of them holds of every number's
text, so that texts around a number need not look into it.
-/

namespace SqlAssembly.Number

/-- Numbers are written with digits, a point, signs and an exponent mark. -/
def isNumberChar (c : Char) : Bool :=
  c.isDigit || c == '.' || c == '-' || c == '+' || c == 'e'

/-- The text consists of such characters. -/
def Numeric (s : Text) : Prop :=
  ∀ c ∈ s, isNumberChar c = true

namespace Numeric

variable {s t : Text}

theorem nil : Numeric [] :=
  fun _ member => absurd member List.not_mem_nil

theorem append (first : Numeric s) (second : Numeric t) : Numeric (s ++ t) :=
  List.forall_mem_append.mpr ⟨first, second⟩

theorem cons {c : Char} (head : isNumberChar c = true) (tail : Numeric s) : Numeric (c :: s) :=
  List.forall_mem_cons.mpr ⟨head, tail⟩

theorem of_subset (numeric : Numeric t) (within : s ⊆ t) : Numeric s :=
  fun c member => numeric c (within member)

/-- A written word of such characters, checked character by character. -/
theorem of_all (all : s.all isNumberChar = true) : Numeric s :=
  List.all_eq_true.mp all

theorem ofNat (n : Nat) : Numeric (Text.ofNat n) := by
  intro c member
  have digit : c.isDigit = true := Nat.isDigit_of_mem_toDigits (by decide) (by decide) member
  simp [isNumberChar, digit]

theorem zeros (n : Nat) : Numeric (List.replicate n '0') := by
  intro c member
  rw [List.eq_of_mem_replicate member]
  rfl

theorem exponentText (e : Int) : Numeric (Number.exponentText realStyle e) := by
  rw [Number.exponentText]
  refine (of_all rfl).append ?_
  split
  · exact (ofNat _).cons rfl
  · exact (of_all rfl).append (ofNat _)

theorem decimalText (x : Decimal) : Numeric (Number.decimalText realStyle x) := by
  have digits := ofNat x.digits
  have front (n : Nat) := digits.of_subset (List.take_subset n _)
  have back (n : Nat) := digits.of_subset (List.drop_subset n _)
  rw [Number.decimalText]
  split
  · refine ((front 1).append ?_).append (exponentText _)
    split
    · exact nil
    · exact (back 1).cons rfl
  · split
    · exact ((of_all rfl).append (zeros _)).append digits
    · split
      · exact (digits.append (zeros _)).append (of_all rfl)
      · exact (front _).append ((back _).cons rfl)

/-- Every number is written with number characters, by cases on its kind. -/
theorem text (n : Number) : Numeric n.text := by
  cases n with
  | natural n => exact ofNat n
  | negative n => exact (ofNat n).cons rfl
  | real x =>
      rw [Number.text, Number.realText]
      refine append ?_ ?_
      · split
        · exact of_all rfl
        · exact nil
      · split
        · exact of_all rfl
        · exact decimalText _

end Numeric

end SqlAssembly.Number
