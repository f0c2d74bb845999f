import Mathlib.Data.List.Chain
import SqlAssembly.Proofs.Literal.Reading
import SqlAssembly.Text.Blank

/-! Texts in which values occur only inside literals. Such a text is compared with its frame, the
text with other values in the same places, and texts of this kind may be put together.
-/

namespace SqlAssembly.Reading

-----------------------------------------------------------------------------------------
-- Literals and what is around them
-----------------------------------------------------------------------------------------

/-- The texts of the literals, in order. -/
def literals (read : List Part) : List Text :=
  read.filterMap fun
    | .code _ => none
    | .literal text => some text

/-- The text outside the literals, with a gap for each literal. -/
def outline (read : List Part) : List (Option Char) :=
  read.map fun
    | .code c => some c
    | .literal _ => none

/-- What may follow the closing quote of a literal, if anything does. -/
def isDelimiter (c : Char) : Bool :=
  c == ' ' || c == ',' || c == ')'

/-- The second part may stand behind the first. -/
def mayFollow : Part → Part → Prop
  | .code _, _ => True
  | .literal _, .code c => isDelimiter c = true
  | .literal _, .literal _ => False

/-- Nothing but delimiters stands behind the literals. -/
def Delimited (read : List Part) : Prop :=
  read.IsChain mayFollow

/-- The text holds the values in its literals and nowhere else: outside them it is like the frame.
-/
def Confines (sql frame : Text) (values : List Json) : Prop :=
  ∃ read framed,
    Reads sql read
    ∧ Reads frame framed
    ∧ literals read = values.map valueText
    ∧ outline read = outline framed
    ∧ Delimited read

@[simp]
theorem literals_append (first second : List Part)
    : literals (first ++ second) = literals first ++ literals second :=
  List.filterMap_append ..

@[simp]
theorem outline_append (first second : List Part)
    : outline (first ++ second) = outline first ++ outline second :=
  List.map_append ..

theorem literals_code (s : Text) : literals (s.map .code) = [] := by
  rw [literals, List.filterMap_map, List.filterMap_eq_nil_iff]
  exact fun _ _ => rfl

/-- Code is delimited, by induction on the text. -/
theorem Delimited.code (s : Text) : Delimited (s.map .code) := by
  induction s with
  | nil => exact .nil
  | cons c s ih =>
      cases s with
      | nil => exact .singleton _
      | cons d s => exact .cons_cons trivial ih

namespace Reads

variable {sql : Text} {read : List Part} {c : Char}

/-- What starts outside quotes is read as code first. -/
theorem head_code (reads : Reads (c :: sql) read) (unquoted : c ≠ Text.singleQuote)
    : ∃ rest, read = .code c :: rest := by
  have whole := reads.parts_eq
  rw [parts, partsFrom, if_neg unquoted, Option.map_eq_some_iff] at whole
  obtain ⟨rest, _, same⟩ := whole
  exact ⟨rest, same.symm⟩

/-- Nothing is left without parts but the empty text outside literals, by induction on the text. -/
theorem partsFrom_eq_nil {place : Place} {s : Text} (none : partsFrom place s = some [])
    : s = [] := by
  induction s generalizing place with
  | nil => rfl
  | cons c s ih =>
      exfalso
      cases place with
      | outside =>
          rw [partsFrom] at none
          split at none
          · simp [ih none, partsFrom] at none
          · simp at none
      | inside before =>
          rw [partsFrom] at none
          split at none
          · simp [ih none, partsFrom] at none
          · split at none
            · simp at none
            · simp [ih none, partsFrom] at none
      | afterBackslash before =>
          rw [partsFrom] at none
          simp [ih none, partsFrom] at none

theorem nil_iff (reads : Reads sql read) : sql = [] ↔ read = [] := by
  constructor
  · rintro rfl
    exact reads.unique .nil
  · rintro rfl
    exact partsFrom_eq_nil reads.parts_eq

end Reads

-----------------------------------------------------------------------------------------
-- Putting texts together
-----------------------------------------------------------------------------------------

namespace Confines

variable {sql frame more moreFrame : Text} {values moreValues : List Json}

theorem code {s : Text} (inert : Inert s) : Confines s s [] :=
  ⟨s.map .code, s.map .code, inert.reads, inert.reads, literals_code s, rfl, .code s⟩

theorem quote {value other : Json} (given : value.isNull = false)
    (otherGiven : other.isNull = false)
    : Confines (Literal.quote value) (Literal.quote other) [value] :=
  ⟨_, _, Reads.quote given, Reads.quote otherGiven, rfl, rfl, .singleton _⟩

/-- A text and its frame are empty together, and then there are no values. -/
theorem nil_iff (confines : Confines sql frame values)
    : (sql = [] ↔ frame = []) ∧ (sql = [] → values = []) := by
  obtain ⟨read, framed, reads, frames, held, same, _⟩ := confines
  have lengths : read.length = framed.length := by
    simpa [outline] using congrArg List.length same
  constructor
  · rw [reads.nil_iff, frames.nil_iff, ← List.length_eq_zero_iff, ← List.length_eq_zero_iff,
      lengths]
  · intro empty
    rw [reads.nil_iff.mp empty] at held
    exact List.map_eq_nil_iff.mp held.symm

/-- A text may be followed by a delimiter. -/
theorem append (first : Confines sql frame values) (second : Confines more moreFrame moreValues)
    (delimited : more.head?.all isDelimiter = true)
    : Confines (sql ++ more) (frame ++ moreFrame) (values ++ moreValues) := by
  obtain ⟨read, framed, reads, frames, held, same, apart⟩ := first
  obtain ⟨next, nextFramed, nextReads, nextFrames, nextHeld, nextSame, nextApart⟩ := second
  refine ⟨
    read ++ next,
    framed ++ nextFramed,
    reads.append nextReads,
    frames.append nextFrames,
    by rw [literals_append, held, nextHeld, List.map_append],
    by rw [outline_append, same, nextSame, outline_append],
    List.isChain_append.mpr ⟨apart, nextApart, ?_⟩
  ⟩
  intro last _ head starts
  cases last with
  | code c => trivial
  | literal text =>
      cases more with
      | nil => simp [nextReads.nil_iff.mp rfl] at starts
      | cons c more =>
          have delimiter : isDelimiter c = true := delimited
          have unquoted : c ≠ Text.singleQuote := by
            rintro rfl
            exact absurd delimiter (by decide)
          obtain ⟨rest, rfl⟩ := nextReads.head_code unquoted
          rw [← Option.some.inj starts]
          exact delimiter

theorem code_append {s : Text} (inert : Inert s) (confines : Confines sql frame values)
    : Confines (s ++ sql) (s ++ frame) values := by
  obtain ⟨read, framed, reads, frames, held, same, apart⟩ := confines
  refine ⟨
    s.map Part.code ++ read,
    s.map Part.code ++ framed,
    inert.reads.append reads,
    inert.reads.append frames,
    by rw [literals_append, literals_code, List.nil_append, held],
    by rw [outline_append, same, outline_append],
    List.isChain_append.mpr ⟨Delimited.code s, apart, ?_⟩
  ⟩
  intro last ends head _
  obtain ⟨c, _, rfl⟩ := List.mem_map.mp (List.mem_of_getLast? ends)
  trivial

/-- The items of a list may be joined with a delimiter, by induction on the list. -/
theorem join {α : Type} (separator : Text) (inert : Inert separator)
    (delimits : separator.head?.any isDelimiter = true) {item itemFrame : α → Text}
    {held : α → List Json} (items : List α)
    (each : ∀ x ∈ items, Confines (item x) (itemFrame x) (held x))
    : Confines (Text.join separator (items.map item)) (Text.join separator (items.map itemFrame))
        (items.flatMap held) := by
  induction items with
  | nil => exact code .nil
  | cons x items ih =>
      have head := each x List.mem_cons_self
      cases items with
      | nil => simpa [Text.join] using head
      | cons y items =>
          have tail := ih fun z member => each z (List.mem_cons_of_mem x member)
          have starts (s : Text) : (separator ++ s).head?.all isDelimiter = true := by
            cases separator with
            | nil => simp at delimits
            | cons c separator => simpa using delimits
          have joined := head.append (code_append inert tail) (starts _)
          simpa only [Text.join, List.map_cons, List.intercalate_cons_cons, List.append_assoc,
            List.flatMap_cons] using joined

end Confines

-----------------------------------------------------------------------------------------
-- Trimming
-----------------------------------------------------------------------------------------

/-- The text ends with a character that is not blank. -/
def Ends (s : Text) : Prop :=
  s.getLast?.any (fun c => !Text.isBlank c) = true

namespace Ends

variable {s t : Text}

theorem append (ends : Ends t) : Ends (s ++ t) := by
  rw [Ends, List.getLast?_append]
  rw [Ends] at ends
  cases last : t.getLast? with
  | none => simp [last] at ends
  | some c => simpa [last] using ends

theorem cons {c : Char} (ends : Ends t) : Ends (c :: t) :=
  append (s := [c]) ends

/-- A text without its first character ends as it did, unless nothing is left. -/
theorem of_cons {c : Char} (ends : Ends (c :: s)) (more : s ≠ []) : Ends s := by
  cases s with
  | nil => exact absurd rfl more
  | cons d s => exact ends

theorem quote (value : Json) : Ends (Literal.quote value) :=
  append (t := [Text.singleQuote]) rfl

/-- A list of such texts, joined, ends as they do, by induction on the list. -/
theorem join {α : Type} (separator : Text) {item : α → Text} {items : List α}
    (nonempty : items ≠ []) (each : ∀ x ∈ items, Ends (item x))
    : Ends (Text.join separator (items.map item)) := by
  induction items with
  | nil => exact absurd rfl nonempty
  | cons x items ih =>
      cases items with
      | nil => simpa [Text.join] using each x List.mem_cons_self
      | cons y items =>
          have tail := ih (by simp) fun z member => each z (List.mem_cons_of_mem x member)
          rw [List.map_cons, List.map_cons, Text.join, List.intercalate_cons_cons]
          exact append tail

end Ends

/-- Nothing is cut off the start of a text that does not start with a blank. -/
theorem trimStart_eq {s : Text} (starts : s.head?.any (fun c => !Text.isBlank c) = true)
    : Text.trimStart s = s := by
  cases s with
  | nil => rfl
  | cons c s => exact List.dropWhile_cons_of_neg (by simpa using starts)

/-- Trimming leaves a text as it is that neither starts nor ends with a blank. -/
theorem trim_eq {s : Text} (starts : s.head?.any (fun c => !Text.isBlank c) = true) (ends : Ends s)
    : Text.trim s = s := by
  have atEnd : Text.trimEnd s = s := by
    rw [Ends, ← List.head?_reverse] at ends
    rw [Text.trimEnd]
    cases reversed : s.reverse with
    | nil => simpa using reversed.symm
    | cons c rest =>
        rw [reversed] at ends
        have bare : Text.isBlank c = false := by simpa using ends
        rw [List.dropWhile_cons_of_neg (by simp [bare]), ← reversed, List.reverse_reverse]
  rw [Text.trim, trimStart_eq starts, atEnd]

/-- A trimmed text is a part of the text. -/
theorem trim_subset (s : Text) : Text.trim s ⊆ s := by
  intro c member
  rw [Text.trim, Text.trimEnd, List.mem_reverse] at member
  have inner := (List.dropWhile_suffix _).subset member
  rw [List.mem_reverse] at inner
  exact (List.dropWhile_suffix _).subset inner

theorem Inert.trim {s : Text} (inert : Inert s) : Inert (Text.trim s) :=
  inert.of_subset (trim_subset s)

/-- A trimmed text that is not empty ends with a character that is not blank. -/
theorem Ends.trim {s : Text} (nonempty : Text.trim s ≠ []) : Ends (Text.trim s) := by
  rw [Text.trim, Text.trimEnd] at nonempty ⊢
  rw [Ends, List.getLast?_reverse]
  cases found : (Text.trimStart s).reverse.dropWhile Text.isBlank with
  | nil => simp [found] at nonempty
  | cons c rest =>
      have bare := List.head?_dropWhile_not Text.isBlank (Text.trimStart s).reverse
      rw [found] at bare
      simpa using bare

-----------------------------------------------------------------------------------------
-- Parts of a statement
-----------------------------------------------------------------------------------------

/-- The parts of a statement, once trimmed, hold the values one after the other. -/
inductive ConfinesEach : List Text → List Text → List Json → Prop
  | nil : ConfinesEach [] [] []
  | cons {sql frame sqls frames values others}
    (head : Confines (Text.trim sql) (Text.trim frame) values)
    (tail : ConfinesEach sqls frames others)
    : ConfinesEach (sql :: sqls) (frame :: frames) (values ++ others)

/-- A part without values, and the parts behind it. -/
theorem ConfinesEach.code {s : Text} {sqls frames : List Text} {values : List Json}
    (inert : Inert s) (tail : ConfinesEach sqls frames values)
    : ConfinesEach (s :: sqls) (s :: frames) values :=
  .cons (.code inert.trim) tail

/-- The parts that are not blank, each with its frame and its values, by induction on the parts. -/
theorem ConfinesEach.items {sqls frames : List Text} {values : List Json}
    (each : ConfinesEach sqls frames values)
    : ∃ items : List (Text × Text × List Json),
        (∀ x ∈ items, Confines x.1 x.2.1 x.2.2)
        ∧ (sqls.map Text.trim).filter (!·.isEmpty) = items.map (·.1)
        ∧ (frames.map Text.trim).filter (!·.isEmpty) = items.map (·.2.1)
        ∧ values = items.flatMap (·.2.2) := by
  induction each with
  | nil => exact ⟨[], by simp, rfl, rfl, rfl⟩
  | @cons sql frame sqls frames values others head tail ih =>
      obtain ⟨items, confined, kept, framed, held⟩ := ih
      obtain ⟨together, without⟩ := head.nil_iff
      by_cases blank : Text.trim sql = []
      · refine ⟨items, confined, ?_, ?_, ?_⟩
        · simpa [blank] using kept
        · simpa [together.mp blank] using framed
        · rw [without blank, held, List.nil_append]
      · have frameKept : Text.trim frame ≠ [] := fun empty => blank (together.mpr empty)
        refine ⟨(Text.trim sql, Text.trim frame, values) :: items, ?_, ?_, ?_, ?_⟩
        · intro x member
          rcases List.mem_cons.mp member with rfl | later
          · exact head
          · exact confined x later
        · simpa [blank] using kept
        · simpa [frameKept] using framed
        · rw [held, List.flatMap_cons]

/-- A statement holds the values of its parts. -/
theorem ConfinesEach.joinParts {sqls frames : List Text} {values : List Json}
    (each : ConfinesEach sqls frames values)
    : Confines (Text.joinParts sqls) (Text.joinParts frames) values := by
  obtain ⟨items, confined, kept, framed, rfl⟩ := each.items
  rw [Text.joinParts, Text.joinParts, kept, framed]
  exact Confines.join " ".toList (Inert.of_all rfl) rfl items confined

end SqlAssembly.Reading
