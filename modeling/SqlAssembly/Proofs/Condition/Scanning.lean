import SqlAssembly.Proofs.Condition.Grammar
import SqlAssembly.Proofs.Literal.Confinement
import SqlAssembly.Proofs.Statement.Values

/-! How rendered text falls into tokens. A text is scanned as its own tokens whatever follows it, or
whatever follows it that is no word character.
-/

namespace SqlAssembly.Grammar

open Reading (Part Reads Inert valueText)

-----------------------------------------------------------------------------------------
-- Tokens of texts in a row
-----------------------------------------------------------------------------------------

/-- No word goes on here. -/
def Breaks : List Part → Prop
  | .code c :: _ => Text.isWordChar c = false
  | _ => True

/-- In front of whatever is allowed, the text is scanned as these tokens. -/
def ScansBefore (allowed : List Part → Prop) (sql : Text) (tokens : List Token) : Prop :=
  ∃ parts,
    Reads sql parts
    ∧ ∀ rest, allowed rest → tokensFrom [] (parts ++ rest) = tokens ++ tokensFrom [] rest

/-- The text is scanned as these tokens when no word goes on behind it. -/
abbrev Scans : Text → List Token → Prop :=
  ScansBefore Breaks

/-- The text is scanned as these tokens, whatever is behind it. -/
abbrev ScansClosed : Text → List Token → Prop :=
  ScansBefore fun _ => True

/-- A word ends where no word goes on. -/
theorem tokensFrom_breaks (word : Text) {rest : List Part} (breaks : Breaks rest)
    : tokensFrom word rest = wordToken word ++ tokensFrom [] rest := by
  cases rest with
  | nil => simp [tokensFrom, wordToken]
  | cons part rest =>
      cases part with
      | literal s => rfl
      | code c =>
          have bare : ¬Text.isWordChar c = true := by simpa [Breaks] using breaks
          rw [tokensFrom, tokensFrom, if_neg bare, if_neg bare]
          split <;> rfl

/-- The characters of a word are collected, by induction on them. -/
theorem tokensFrom_word {s : Text} (word : s.all Text.isWordChar = true) (before : Text)
    (rest : List Part)
    : tokensFrom before (s.map .code ++ rest) = tokensFrom (before ++ s) rest := by
  induction s generalizing before with
  | nil => simp
  | cons c s ih =>
      rw [List.all_cons, Bool.and_eq_true] at word
      rw [List.map_cons, List.cons_append, tokensFrom, if_pos word.1, ih word.2,
        List.append_assoc, List.singleton_append]

/-- The text starts with a character of the code that goes on with no word. -/
def startsBare (sql : Text) : Bool :=
  sql.head?.any fun c => !(Text.isWordChar c || c == Text.singleQuote)

theorem breaks_of_startsBare {sql : Text} {parts : List Part} (reads : Reads sql parts)
    (bare : startsBare sql = true) (rest : List Part)
    : Breaks (parts ++ rest) := by
  cases sql with
  | nil => simp [startsBare] at bare
  | cons c sql =>
      simp only [startsBare, List.head?_cons, Option.any_some, Bool.not_eq_true',
        Bool.or_eq_false_iff, beq_eq_false_iff_ne] at bare
      obtain ⟨tail, rfl⟩ := reads.head_code bare.2
      exact bare.1

namespace ScansBefore

variable {allowed follow : List Part → Prop} {sql more : Text} {tokens next : List Token}

/-- At the end of the text no word goes on. -/
theorem tokens?_eq (scans : Scans sql tokens) : tokens? sql = some tokens := by
  obtain ⟨parts, reads, scanned⟩ := scans
  have ended := scanned [] trivial
  rw [tokens?, reads.parts_eq, Option.map_some]
  simpa [tokensFrom, wordToken] using ended

theorem closed (scans : ScansClosed sql tokens) : ScansBefore allowed sql tokens := by
  obtain ⟨parts, reads, scanned⟩ := scans
  exact ⟨parts, reads, fun rest _ => scanned rest trivial⟩

/-- A text without quotes that ends no word is closed. -/
theorem fixed (inert : sql.all Reading.isInert = true)
    (scanned
      : ∀ rest : List Part, tokensFrom [] (sql.map .code ++ rest) = tokens ++ tokensFrom [] rest)
    : ScansClosed sql tokens :=
  ⟨_, Inert.reads (.of_all inert), fun rest _ => scanned rest⟩

/-- A closed text may be followed by anything. -/
theorem closed_append (first : ScansClosed sql tokens) (second : ScansBefore follow more next)
    : ScansBefore follow (sql ++ more) (tokens ++ next) := by
  obtain ⟨parts, reads, scanned⟩ := first
  obtain ⟨moreParts, moreReads, moreScanned⟩ := second
  refine ⟨parts ++ moreParts, reads.append moreReads, fun rest fits => ?_⟩
  rw [List.append_assoc, scanned _ trivial, moreScanned rest fits, List.append_assoc]

/-- Any text may be followed by one that goes on with no word. -/
theorem append (first : Scans sql tokens) (second : ScansBefore follow more next)
    (bare : startsBare more = true)
    : ScansBefore follow (sql ++ more) (tokens ++ next) := by
  obtain ⟨parts, reads, scanned⟩ := first
  obtain ⟨moreParts, moreReads, moreScanned⟩ := second
  refine ⟨parts ++ moreParts, reads.append moreReads, fun rest fits => ?_⟩
  have breaks := breaks_of_startsBare moreReads bare rest
  rw [List.append_assoc, scanned _ breaks, moreScanned rest fits, List.append_assoc]

theorem word {s : Text} (word : s.all Text.isWordChar = true) (nonempty : s ≠ [])
    (inert : Inert s)
    : Scans s [.word s] := by
  refine ⟨s.map .code, inert.reads, fun rest breaks => ?_⟩
  rw [tokensFrom_word word, List.nil_append, tokensFrom_breaks s breaks, wordToken]
  simp [nonempty]

theorem quote {value : Json} (given : value.isNull = false)
    : ScansClosed (Literal.quote value) [.literal (valueText value)] :=
  ⟨_, Reads.quote given, fun _ _ => rfl⟩

/-- A list of texts joined with a separator, by induction on the list. -/
theorem join {α : Type} {separator : Text} {between : List Token}
    (scans : ScansClosed separator between)
    (bare : ∀ more, startsBare (separator ++ more) = true)
    {item : α → Text} {tokens : α → List Token} (items : List α)
    (each : ∀ x ∈ items, Scans (item x) (tokens x))
    : Scans (Text.join separator (items.map item)) (between.intercalate (items.map tokens)) := by
  induction items with
  | nil => exact ⟨[], .nil, fun _ _ => rfl⟩
  | cons x items ih =>
      have head := each x List.mem_cons_self
      cases items with
      | nil => simpa [Text.join] using head
      | cons y items =>
          have tail := ih fun z member => each z (List.mem_cons_of_mem x member)
          have joined := head.append (closed_append scans tail) (bare _)
          rw [Text.join, List.map_cons, List.map_cons, List.intercalate_cons_cons,
            List.append_assoc] at *
          exact joined

end ScansBefore

-----------------------------------------------------------------------------------------
-- Conditions
-----------------------------------------------------------------------------------------

section Fields

variable {s : Text}

theorem wordChars_of_isField (field : isField s = true) : s.all Text.isWordChar = true := by
  simp only [isField, Bool.and_eq_true] at field
  exact field.1.1

theorem nonempty_of_isField (field : isField s = true) : s ≠ [] := by
  rintro rfl
  simp [isField] at field

/-- There are no quotes in a word. -/
theorem inert_of_wordChars (word : s.all Text.isWordChar = true) : Inert s := by
  intro c member
  have wordChar := List.all_eq_true.mp word c member
  rw [Reading.isInert, Bool.not_eq_true', Bool.eq_false_iff]
  intro quote
  simp only [Bool.or_eq_true, beq_iff_eq] at quote
  rcases quote with ((rfl | rfl) | rfl) | rfl <;> revert wordChar <;> decide

/-- A field is scanned as one word. -/
theorem scans_field (field : isField s = true) : Scans s [.word s] := by
  have word := wordChars_of_isField field
  exact .word word (nonempty_of_isField field) (inert_of_wordChars word)

end Fields

/-- The tokens of the values in a list. -/
def itemTokens (values : List Json) : List Token :=
  [Token.symbol ','].intercalate (values.map fun v => [.literal (valueText v)])

/-- The tokens of a condition on a field. -/
def conditionTokens (field : Text) : Condition → List Token
  | .literal _ => []
  | .scalar value => [.word field, .symbol '=', .literal (valueText value)]
  | .list [] => [.word "1", .symbol '=', .word "0"]
  | .list values =>
      [.word field, .word inKeyword, .symbol '('] ++ (itemTokens values ++ [.symbol ')'])

/-- The predicate of a condition is scanned as the condition's tokens, whatever its values are. -/
theorem scans_condition {field : Text} {condition : Condition} (named : isField field = true)
    (plain : condition.Plain)
    : Scans (condition.predicate field) (conditionTokens field condition) := by
  cases condition with
  | literal sql => exact absurd plain id
  | scalar value =>
      have equals : ScansClosed " = ".toList [.symbol '='] := .fixed rfl fun _ => rfl
      have compared : Scans _ _ := equals.closed_append (ScansBefore.quote plain).closed
      have whole := (scans_field named).append compared rfl
      change Scans (field ++ " = ".toList ++ Literal.quote value) _
      rw [List.append_assoc]
      exact whole
  | list values =>
      cases values with
      | nil =>
          refine ⟨_, Inert.reads (.of_all rfl), fun rest breaks => ?_⟩
          have ends := tokensFrom_breaks "0" breaks
          exact congrArg ([Token.word "1", .symbol '='] ++ ·) ends
      | cons first rest =>
          have opening : ScansClosed " in (".toList [.word inKeyword, .symbol '('] :=
            .fixed rfl fun _ => rfl
          have comma : ScansClosed ",".toList [.symbol ','] := .fixed rfl fun _ => rfl
          have closing : ScansClosed ")".toList [.symbol ')'] := .fixed rfl fun _ => rfl
          have items := ScansBefore.join comma (fun _ => rfl) (first :: rest)
            fun v member => (ScansBefore.quote (plain v member)).closed
          have listed : Scans _ _ := items.append closing.closed rfl
          have whole := (scans_field named).append (opening.closed_append listed) rfl
          rw [Condition.predicate_list, List.append_assoc, List.append_assoc]
          exact whole

end SqlAssembly.Grammar
