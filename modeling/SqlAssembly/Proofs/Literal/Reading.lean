import SqlAssembly.Literal
import SqlAssembly.Proofs.Number.Characters

/-! Reading SQL as far as its string literals: inside single quotes a backslash takes the next
character literally and an unprotected quote closes. A quoted value is read as one literal.
-/

namespace SqlAssembly.Reading

-----------------------------------------------------------------------------------------
-- The reader
-----------------------------------------------------------------------------------------

/-- What SQL consists of: characters outside literals, and literals by the text they stand for. -/
inductive Part where
  | code (c : Char)
  | literal (text : Text)
deriving DecidableEq

/-- Where a reader stands: outside literals, in a literal of which some text was read, or there
behind a backslash.
-/
inductive Place where
  | outside
  | inside (read : Text)
  | afterBackslash (read : Text)

/-- The parts that are left from a place on, unless the text ends in a literal. -/
def partsFrom : Place → Text → Option (List Part)
  | .outside, [] => some []
  | .inside _, [] => none
  | .afterBackslash _, [] => none
  | .outside, c :: rest =>
      if c = Text.singleQuote then partsFrom (.inside []) rest
      else (partsFrom .outside rest).map (.code c :: ·)
  | .inside read, c :: rest =>
      if c = Text.backslash then partsFrom (.afterBackslash read) rest
      else if c = Text.singleQuote then (partsFrom .outside rest).map (.literal read :: ·)
      else partsFrom (.inside (read ++ [c])) rest
  | .afterBackslash read, c :: rest => partsFrom (.inside (read ++ [c])) rest

/-- The parts of a text, unless it ends in a literal. -/
def parts (sql : Text) : Option (List Part) :=
  partsFrom .outside sql

/-- The text is read as these parts, whatever follows it. -/
def Reads (sql : Text) (read : List Part) : Prop :=
  ∀ rest, parts (sql ++ rest) = (parts rest).map (read ++ ·)

namespace Reads

variable {sql more : Text} {read next : List Part}

theorem nil : Reads [] [] := by
  intro rest
  simp

theorem append (first : Reads sql read) (second : Reads more next)
    : Reads (sql ++ more) (read ++ next) := by
  intro rest
  rw [List.append_assoc, first, second, Option.map_map]
  congr 1
  funext tail
  exact (List.append_assoc read next tail).symm

/-- Texts that are joined with a separator, by induction on them. -/
theorem join {α : Type} {separator : Text} {between : List Part} (reads : Reads separator between)
    {item : α → Text} {read : α → List Part} (items : List α)
    (each : ∀ x ∈ items, Reads (item x) (read x))
    : Reads (Text.join separator (items.map item)) (between.intercalate (items.map read)) := by
  induction items with
  | nil => exact nil
  | cons x items ih =>
      have head := each x List.mem_cons_self
      cases items with
      | nil => simpa [Text.join] using head
      | cons y items =>
          have tail := ih fun z member => each z (List.mem_cons_of_mem x member)
          simp only [Text.join, List.map_cons, List.intercalate_cons_cons] at tail ⊢
          exact (head.append reads).append tail

theorem parts_eq (reads : Reads sql read) : parts sql = some read := by
  have whole := reads []
  rw [List.append_nil] at whole
  simpa [parts, partsFrom] using whole

/-- A text is read in one way. -/
theorem unique (first : Reads sql read) (second : Reads sql next) : read = next :=
  Option.some.inj (first.parts_eq.symm.trans second.parts_eq)

/-- Code is read character by character, by induction on the text. -/
theorem code (unquoted : ∀ c ∈ sql, c ≠ Text.singleQuote) : Reads sql (sql.map .code) := by
  intro rest
  induction sql with
  | nil => simp
  | cons c sql ih =>
      have head : c ≠ Text.singleQuote := unquoted c List.mem_cons_self
      have tail := ih fun d member => unquoted d (List.mem_cons_of_mem c member)
      rw [parts] at tail
      rw [List.cons_append, parts, partsFrom, if_neg head, tail, Option.map_map]
      rfl

/-- An escaped text up to the closing quote is read as itself, by induction on the text. -/
theorem escaped (s before rest : Text)
    : partsFrom (.inside before) (Literal.escapeText s ++ Text.singleQuote :: rest)
      = (parts rest).map (.literal (before ++ s) :: ·) := by
  induction s generalizing before with
  | nil => simp [Literal.escapeText, partsFrom, parts, Text.singleQuote, Text.backslash]
  | cons c s ih =>
      have later := ih (before ++ [c])
      rw [List.append_assoc, List.singleton_append] at later
      rw [Literal.escapeText, List.flatMap_cons, ← Literal.escapeText, List.append_assoc,
        Literal.escapeChar, ← later]
      split
      · simp [partsFrom]
      · next bare =>
          obtain ⟨noBackslash, noQuote⟩ := not_or.mp bare
          simp [partsFrom, noBackslash, noQuote]

/-- A text that is escaped and put between quotes is read as one literal. -/
theorem inQuotes (s : Text) : Reads (Text.inQuotes (Literal.escapeText s)) [.literal s] := by
  intro rest
  have body := escaped s [] rest
  rw [Text.inQuotes, List.cons_append, List.cons_append, parts, partsFrom, if_pos rfl,
    List.append_assoc, List.singleton_append, body]
  rfl

end Reads

-----------------------------------------------------------------------------------------
-- Texts without quotes
-----------------------------------------------------------------------------------------

/-- The character is no kind of quote and no backslash. -/
def isInert (c : Char) : Bool :=
  !(c == Text.singleQuote || c == Text.doubleQuote || c == Text.backtick || c == Text.backslash)

/-- A text without quotes and backslashes. -/
def Inert (s : Text) : Prop :=
  ∀ c ∈ s, isInert c = true

namespace Inert

open Number (Numeric)

variable {s t : Text}

theorem nil : Inert [] :=
  fun _ member => absurd member List.not_mem_nil

theorem append (first : Inert s) (second : Inert t) : Inert (s ++ t) := by
  intro c member
  exact (List.mem_append.mp member).elim (first c) (second c)

theorem of_subset (inert : Inert t) (within : s ⊆ t) : Inert s :=
  fun c member => inert c (within member)

theorem ne_singleQuote (inert : Inert s) {c : Char} (member : c ∈ s) : c ≠ Text.singleQuote := by
  rintro rfl
  exact absurd (inert _ member) (by decide)

theorem reads (inert : Inert s) : Reads s (s.map .code) :=
  Reads.code fun _ => inert.ne_singleQuote

/-- There is nothing to escape, by induction on the text. -/
theorem escapeText (inert : Inert s) : Literal.escapeText s = s := by
  induction s with
  | nil => rfl
  | cons c s ih =>
      have head := inert c List.mem_cons_self
      have tail := ih (inert.of_subset (List.subset_cons_self c s))
      rw [Literal.escapeText] at tail
      have bare : ¬(c = Text.backslash ∨ c = Text.singleQuote) := by
        rintro (rfl | rfl) <;> exact absurd head (by decide)
      rw [Literal.escapeText, List.flatMap_cons, tail, Literal.escapeChar, if_neg bare]
      rfl

theorem cons {c : Char} (head : isInert c = true) (tail : Inert s) : Inert (c :: s) := by
  intro d member
  rcases List.mem_cons.mp member with rfl | later
  · exact head
  · exact tail d later

/-- A written word without quotes, checked character by character. -/
theorem of_all {s : Text} (all : s.all isInert = true) : Inert s :=
  List.all_eq_true.mp all

/-- No number character is a quote or a backslash. -/
theorem numeric (chars : Numeric s) : Inert s := by
  intro c member
  rw [isInert, Bool.not_eq_true', Bool.eq_false_iff]
  intro quote
  have digits := chars c member
  simp only [Bool.or_eq_true, beq_iff_eq] at quote
  rcases quote with ((rfl | rfl) | rfl) | rfl <;> revert digits <;> decide

theorem ofNat (n : Nat) : Inert (Text.ofNat n) :=
  numeric (.ofNat n)

theorem number (n : Number) : Inert n.text :=
  numeric (.text n)

theorem boolText (b : Bool) : Inert (Json.boolText b) := by
  cases b <;> exact of_all rfl

end Inert

-----------------------------------------------------------------------------------------
-- Values
-----------------------------------------------------------------------------------------

/-- The text that a value stands for in a literal: a text is itself, any other value is its compact
text.
-/
def valueText : Json → Text
  | .text s => s
  | value => value.compact

/-- What stands between the quotes of a value is its text, escaped. -/
theorem escape_eq {value : Json} (notNull : value.isNull = false)
    : Literal.escape value = Literal.escapeText (valueText value) := by
  cases value with
  | null => simp [Json.isNull] at notNull
  | bool b => simp [Literal.escape, valueText, Json.compact, (Inert.boolText b).escapeText]
  | number n => simp [Literal.escape, valueText, Json.compact, (Inert.number n).escapeText]
  | text | array | object => rfl

theorem quote_eq {value : Json} (notNull : value.isNull = false)
    : Literal.quote value = Text.inQuotes (Literal.escapeText (valueText value)) := by
  rw [Literal.quote, escape_eq notNull]

/-- A quoted value is read as the one literal of its text. -/
theorem Reads.quote {value : Json} (notNull : value.isNull = false)
    : Reads (Literal.quote value) [.literal (valueText value)] := by
  rw [quote_eq notNull]
  exact Reads.inQuotes (valueText value)

end SqlAssembly.Reading
