import SqlAssembly.Proofs.Literal.Confinement
import SqlAssembly.Text.Keyword

/-! Texts behind a keyword. A keyword put in front of a text is recognised there, so that putting it
in front once more does nothing but trim.
-/

namespace SqlAssembly.Text

open Reading (Ends)

variable {s t keyword : Text}

-----------------------------------------------------------------------------------------
-- Trimming
-----------------------------------------------------------------------------------------

/-- A trimmed text that is not empty starts with a character that is not blank. -/
theorem trim_starts (nonempty : trim s ≠ []) : (trim s).head?.any (fun c => !isBlank c) = true := by
  have bare := List.head?_dropWhile_not isBlank s
  rw [trim, trimEnd] at nonempty ⊢
  rw [← trimStart] at bare
  cases started : trimStart s with
  | nil => simp [started] at nonempty
  | cons c rest =>
      rw [started] at bare
      have solid : isBlank c = false := by simpa using bare
      have kept : rest.reverse ++ [c] = (c :: rest).reverse := (List.reverse_cons).symm
      rw [← kept, List.dropWhile_append]
      split <;> simp [solid]

/-- Trimming once is enough. -/
@[simp]
theorem trim_trim (s : Text) : trim (trim s) = trim s := by
  by_cases empty : trim s = []
  · rw [empty]
    rfl
  · exact Reading.trim_eq (trim_starts empty) (Ends.trim empty)

/-- Blanks are cut off behind a text that ends solid, but not into it. -/
theorem trimEnd_append (ends : Ends s) (t : Text) : trimEnd (s ++ t) = s ++ trimEnd t := by
  rw [trimEnd, trimEnd, List.reverse_append, List.dropWhile_append]
  split
  · next blank =>
      rw [Ends, ← List.head?_reverse] at ends
      rw [List.isEmpty_iff.mp blank]
      cases reversed : s.reverse with
      | nil => simp [reversed] at ends
      | cons c rest =>
          have solid : isBlank c = false := by simpa [reversed] using ends
          rw [List.dropWhile_cons_of_neg (by simp [solid]), ← reversed]
          simp
  · simp

theorem trim_append (starts : s.head?.any (fun c => !isBlank c) = true) (ends : Ends s) (t : Text)
    : trim (s ++ t) = s ++ trimEnd t := by
  have starts' : (s ++ t).head?.any (fun c => !isBlank c) = true := by
    cases s with
    | nil => simp at starts
    | cons c rest => exact starts
  rw [trim, Reading.trimStart_eq starts', trimEnd_append ends]

/-- Behind a text that ends solid nothing is cut off. -/
theorem trimEnd_eq (ends : Ends s) : trimEnd s = s := by
  have whole := trimEnd_append ends []
  rwa [List.append_nil, show trimEnd [] = [] from rfl, List.append_nil] at whole

/-- In front of a solid text only the blanks at the start are cut off. -/
theorem trim_append_solid (starts : t.head?.any (fun c => !isBlank c) = true) (ends : Ends t)
    (s : Text)
    : trim (s ++ t) = trimStart s ++ t := by
  have front : trimStart (s ++ t) = trimStart s ++ t := by
    have bare := Reading.trimStart_eq starts
    rw [trimStart] at bare
    rw [trimStart, trimStart, List.dropWhile_append, bare]
    split
    · next blank => rw [List.isEmpty_iff.mp blank, List.nil_append]
    · rfl
  rw [trim, front, trimEnd_eq ends.append]

/-- What is left of a text without the blanks at its end is empty or starts as the text does. -/
theorem head?_trimEnd (s : Text) : trimEnd s = [] ∨ (trimEnd s).head? = s.head? := by
  have front : trimEnd s <+: s := by
    rw [trimEnd, ← List.reverse_suffix, List.reverse_reverse]
    exact List.dropWhile_suffix isBlank
  obtain ⟨rest, whole⟩ := front
  cases kept : trimEnd s with
  | nil => exact .inl rfl
  | cons c tail =>
      rw [kept] at whole
      exact .inr (by rw [← whole]; rfl)

/-- Two lists that are not empty are joined with a separator between them, by induction on the
first.
-/
theorem join_append {separator : Text} {first second : List Text} (nonempty : first ≠ [])
    (more : second ≠ [])
    : join separator (first ++ second)
      = join separator first ++ separator ++ join separator second := by
  induction first with
  | nil => exact absurd rfl nonempty
  | cons text first ih =>
      cases first with
      | nil =>
          obtain ⟨next, second, rfl⟩ := List.exists_cons_of_ne_nil more
          simp [join]
      | cons next first =>
          have tail := ih (List.cons_ne_nil next first)
          simp only [join, List.cons_append, List.intercalate_cons_cons, List.append_assoc]
            at tail ⊢
          rw [tail]

/-- A last text is joined behind a separator. -/
theorem join_concat {separator : Text} {texts : List Text} (nonempty : texts ≠ []) (last : Text)
    : join separator (texts ++ [last]) = join separator texts ++ separator ++ last := by
  rw [join_append nonempty (List.cons_ne_nil last []), join, join, List.intercalate_singleton]

/-- Parts that are alike once they are trimmed make the same line. -/
theorem joinParts_congr {parts others : List Text} (same : parts.map trim = others.map trim)
    : joinParts parts = joinParts others := by
  rw [joinParts, joinParts, same]

/-- A part that is nothing leaves no trace. -/
theorem joinParts_nothing (before after : List Text)
    : joinParts (before ++ [] :: after) = joinParts (before ++ after) := by
  have blank : trim [] = [] := rfl
  simp [joinParts, blank]

/-- Parts that are trimmed already are only joined, without those that are nothing. -/
theorem joinParts_eq {parts : List Text} (trimmed : ∀ part ∈ parts, trim part = part)
    : joinParts parts = join " " (parts.filter (!·.isEmpty)) := by
  rw [joinParts, List.map_congr_left trimmed, List.map_id']

/-- Parts that are trimmed already, and not to nothing, are only joined. -/
theorem joinParts_trimmed {parts : List Text}
    (trimmed : ∀ part ∈ parts, trim part = part ∧ part ≠ [])
    : joinParts parts = join " " parts := by
  rw [joinParts_eq fun part member => (trimmed part member).1, List.filter_eq_self.mpr]
  intro part member
  simpa using (trimmed part member).2

/-- A last part stands behind a space, if any part stands before it, and a blank one is left out. -/
theorem joinParts_append_last {parts : List Text} (filled : ∃ part ∈ parts, trim part ≠ [])
    (last : Text)
    : joinParts (parts ++ [last])
      = if trim last = [] then joinParts parts else joinParts parts ++ ' ' :: trim last := by
  rw [joinParts, joinParts, List.map_append, List.filter_append, List.map_singleton]
  split
  · next blank => simp [blank]
  · next solid =>
      obtain ⟨part, member, solidPart⟩ := filled
      have some : (parts.map trim).filter (!·.isEmpty) ≠ [] := by
        refine List.ne_nil_of_mem (List.mem_filter.mpr ⟨List.mem_map_of_mem member, ?_⟩)
        simpa using solidPart
      have kept : [trim last].filter (!·.isEmpty) = [trim last] := by simpa using solid
      rw [kept, join_concat some, List.append_assoc]
      rfl

-----------------------------------------------------------------------------------------
-- Keywords
-----------------------------------------------------------------------------------------

/-- The text is one or more words with one space between neighbours. -/
def IsKeyword (keyword : Text) : Prop :=
  keyword ≠ [] ∧ join " " (words keyword) = keyword

/-- A character sequence that can be a word: not empty, and without blanks. -/
def IsWord (word : Text) : Prop :=
  word ≠ [] ∧ ∀ c ∈ word, isBlank c = false

/-- The words of a text are such, by induction on the text. -/
theorem isWord_of_mem_words {word : Text} (member : word ∈ words s) : IsWord word := by
  fun_induction words s generalizing word with
  | case1 => simp at member
  | case2 c rest blank ih => exact ih member
  | case3 c rest solid ends ih =>
      rcases List.mem_cons.mp member with rfl | later
      · exact ⟨by simp, by simpa using solid⟩
      · exact ih later
  | case4 c rest solid _ first others found ih =>
      have head := ih (found ▸ List.mem_cons_self)
      rcases List.mem_cons.mp member with rfl | later
      · refine ⟨by simp, fun d within => ?_⟩
        rcases List.mem_cons.mp within with rfl | inner
        · simpa using solid
        · exact head.2 d inner
      · exact ih (found ▸ List.mem_cons_of_mem _ later)
  | case5 c rest solid _ _ ih =>
      rw [List.mem_singleton.mp member]
      exact ⟨by simp, by simpa using solid⟩

theorem IsWord.starts {word : Text} (solid : IsWord word) (rest : Text)
    : (word ++ rest).head?.any (fun c => !isBlank c) = true := by
  cases word with
  | nil => exact absurd rfl solid.1
  | cons c word => simpa using solid.2 c List.mem_cons_self

theorem IsWord.ends {word : Text} (solid : IsWord word) : Ends word := by
  rw [Ends, List.getLast?_eq_some_getLast solid.1]
  simpa using solid.2 _ (List.getLast_mem solid.1)

/-- A word is found in front of whatever follows it however its letters are written, by induction
on the word.
-/
theorem dropWord?_append_of_same {word written : Text}
    (same : written.map Char.toLower = word.map Char.toLower) (rest : Text)
    : dropWord? word (written ++ rest) = some rest := by
  induction word generalizing written with
  | nil =>
      rw [List.map_eq_nil_iff.mp same]
      rfl
  | cons w word ih =>
      cases written with
      | nil => exact absurd same.symm (List.cons_ne_nil _ _)
      | cons c written =>
          obtain ⟨letter, tail⟩ := List.cons.inj same
          rw [List.cons_append, dropWord?, if_pos letter.symm, ih tail]

theorem dropWord?_append (word rest : Text) : dropWord? word (word ++ rest) = some rest :=
  dropWord?_append_of_same rfl rest

/-- Blanks are dropped in front of a character that is none. -/
theorem dropBlanks?_append {blanks : Text} (apart : blanks ≠ [])
    (blank : ∀ c ∈ blanks, isBlank c = true)
    (starts : s.head?.any (fun c => !isBlank c) = true)
    : dropBlanks? (blanks ++ s) = some s := by
  cases blanks with
  | nil => exact absurd rfl apart
  | cons c blanks =>
      have later : ∀ d ∈ blanks, isBlank d = true := fun d member =>
        blank d (List.mem_cons_of_mem c member)
      rw [List.cons_append, dropBlanks?, if_pos (blank c List.mem_cons_self), trimStart,
        List.dropWhile_append_of_pos later, ← trimStart, Reading.trimStart_eq starts]

/-- Words behind single spaces are found in front of whatever follows them, by induction on the
words.
-/
theorem dropSpacedWords?_append {others : List Text} (solid : ∀ word ∈ others, IsWord word)
    (rest : Text)
    : dropSpacedWords? others (others.flatMap (' ' :: ·) ++ rest) = some rest := by
  induction others with
  | nil => rfl
  | cons word others ih =>
      have starts := (solid word List.mem_cons_self).starts (others.flatMap (' ' :: ·) ++ rest)
      have tail := ih fun other member => solid other (List.mem_cons_of_mem word member)
      have space : ∀ c ∈ [' '], isBlank c = true :=
        List.all_eq_true.mp (show [' '].all isBlank = true from rfl)
      have blank := dropBlanks?_append (List.cons_ne_nil _ _) space starts
      rw [List.singleton_append] at blank
      rw [List.flatMap_cons, List.cons_append, List.cons_append, List.append_assoc,
        dropSpacedWords?, blank]
      simp only [Option.bind_eq_bind, Option.bind_some, dropWord?_append, tail]

theorem join_cons (word : Text) (others : List Text)
    : join " " (word :: others) = word ++ others.flatMap (' ' :: ·) := by
  induction others generalizing word with
  | nil => simp [join]
  | cons other others ih =>
      rw [join, List.intercalate_cons_cons, ← join, ih, List.flatMap_cons, List.append_assoc]
      rfl

namespace IsKeyword

/-- A keyword is its first word with the others behind it. -/
theorem words_cons (isKeyword : IsKeyword keyword)
    : ∃ word others,
        words keyword = word :: others ∧ keyword = word ++ others.flatMap (' ' :: ·) := by
  obtain ⟨nonempty, joined⟩ := isKeyword
  cases split : words keyword with
  | nil =>
      rw [split] at joined
      exact absurd joined.symm nonempty
  | cons word others =>
      rw [split, join_cons] at joined
      exact ⟨word, others, rfl, joined.symm⟩

theorem starts (isKeyword : IsKeyword keyword)
    : keyword.head?.any (fun c => !isBlank c) = true := by
  obtain ⟨word, others, split, spelled⟩ := isKeyword.words_cons
  rw [spelled]
  exact (isWord_of_mem_words (split ▸ List.mem_cons_self)).starts _

theorem ends (isKeyword : IsKeyword keyword) : Ends keyword := by
  obtain ⟨word, others, split, -⟩ := isKeyword.words_cons
  have each : ∀ x ∈ word :: others, Ends (id x) := fun word member =>
    (isWord_of_mem_words (split ▸ member)).ends
  have joined := Ends.join " " (List.cons_ne_nil word others) each
  rwa [List.map_id, ← split, isKeyword.2] at joined

/-- A keyword is found in front of whatever follows it. -/
theorem dropKeyword?_append (isKeyword : IsKeyword keyword) (rest : Text)
    : dropKeyword? keyword (keyword ++ rest) = some rest := by
  obtain ⟨word, others, split, spelled⟩ := isKeyword.words_cons
  have found := dropWord?_append word (others.flatMap (' ' :: ·) ++ rest)
  rw [← List.append_assoc, ← spelled] at found
  have solid : ∀ other ∈ others, IsWord other :=
    fun other member => isWord_of_mem_words (split ▸ List.mem_cons_of_mem word member)
  simp only [dropKeyword?, split, found, Option.bind_some, dropSpacedWords?_append solid]

/-- A text starts with a keyword that a word boundary follows. -/
theorem startsWithKeyword_append (isKeyword : IsKeyword keyword) {rest : Text}
    (boundary : atBoundary rest = true)
    : startsWithKeyword (keyword ++ rest) keyword = true := by
  rw [startsWithKeyword, isKeyword.dropKeyword?_append, Option.any_some, boundary]

/-- The empty text does not start with a keyword. -/
theorem startsWithKeyword_nil (isKeyword : IsKeyword keyword)
    : startsWithKeyword [] keyword = false := by
  obtain ⟨word, others, split, -⟩ := isKeyword.words_cons
  obtain ⟨nonempty, -⟩ := isWord_of_mem_words (s := keyword) (split ▸ List.mem_cons_self)
  rw [startsWithKeyword, dropKeyword?, split]
  cases word with
  | nil => exact absurd rfl nonempty
  | cons c word => rfl

end IsKeyword

-----------------------------------------------------------------------------------------
-- What is recognised
-----------------------------------------------------------------------------------------

/-- The text starts with the words in order, letters compared without ASCII case, with blanks
between neighbours and a word boundary behind the last.
-/
inductive Spells : List Text → Text → Prop
  | last {word written rest} (same : written.map Char.toLower = word.map Char.toLower)
    (ends : atBoundary rest = true)
    : Spells [word] (written ++ rest)
  | cons {word other others written blanks rest}
    (same : written.map Char.toLower = word.map Char.toLower) (apart : blanks ≠ [])
    (blank : ∀ c ∈ blanks, isBlank c = true) (tail : Spells (other :: others) rest)
    : Spells (word :: other :: others) (written ++ (blanks ++ rest))

/-- What a word was dropped from starts with it, by induction on the word. -/
theorem dropWord?_eq_some {word rest : Text} (found : dropWord? word s = some rest)
    : ∃ written, s = written ++ rest ∧ written.map Char.toLower = word.map Char.toLower := by
  fun_induction dropWord? word s with
  | case1 s =>
      cases found
      exact ⟨[], rfl, rfl⟩
  | case2 => cases found
  | case3 w word c s same ih =>
      obtain ⟨written, rfl, lower⟩ := ih found
      exact ⟨c :: written, rfl, by rw [List.map_cons, List.map_cons, lower, same]⟩
  | case4 => cases found

theorem dropBlanks?_eq_some {rest : Text} (found : dropBlanks? s = some rest)
    : ∃ blanks, s = blanks ++ rest ∧ blanks ≠ [] ∧ ∀ c ∈ blanks, isBlank c = true := by
  cases s with
  | nil => cases found
  | cons c s =>
      rw [dropBlanks?] at found
      split at found
      · next blank =>
          cases found
          refine ⟨c :: s.takeWhile isBlank, ?_, List.cons_ne_nil _ _, ?_⟩
          · exact congrArg (c :: ·) List.takeWhile_append_dropWhile.symm
          · intro d member
            rcases List.mem_cons.mp member with rfl | later
            · exact blank
            · exact List.all_eq_true.mp List.all_takeWhile d later
      · cases found

/-- Words that are dropped behind a word stand there, by induction on them. -/
theorem Spells.of_dropSpacedWords? {word written rest : Text} {others : List Text}
    (same : written.map Char.toLower = word.map Char.toLower)
    (found : dropSpacedWords? others s = some rest) (ends : atBoundary rest = true)
    : Spells (word :: others) (written ++ s) := by
  induction others generalizing word written s with
  | nil =>
      cases found
      exact .last same ends
  | cons other others ih =>
      simp only [dropSpacedWords?, Option.bind_eq_bind, Option.bind_eq_some_iff] at found
      obtain ⟨afterBlanks, blanksFound, afterWord, wordFound, othersFound⟩ := found
      obtain ⟨blanks, rfl, apart, blank⟩ := dropBlanks?_eq_some blanksFound
      obtain ⟨next, rfl, lower⟩ := dropWord?_eq_some wordFound
      exact .cons same apart blank (ih lower othersFound)

/-- A text that is found to start with a keyword spells the keyword's words. -/
theorem Spells.of_startsWithKeyword (nonempty : words keyword ≠ [])
    (found : startsWithKeyword s keyword = true)
    : Spells (words keyword) s := by
  obtain ⟨rest, dropped, ends⟩ := (Option.any_eq_true _ _).mp found
  obtain ⟨word, others, split⟩ := List.exists_cons_of_ne_nil nonempty
  rw [dropKeyword?, split] at dropped
  obtain ⟨afterWord, wordFound, othersFound⟩ := Option.bind_eq_some_iff.mp dropped
  obtain ⟨written, rfl, lower⟩ := dropWord?_eq_some wordFound
  rw [split]
  exact .of_dropSpacedWords? lower othersFound ends

-----------------------------------------------------------------------------------------
-- Texts that carry a keyword
-----------------------------------------------------------------------------------------

/-- The text is empty, or it starts with the keyword once it is trimmed. -/
def Carries (keyword text : Text) : Prop :=
  text = [] ∨ startsWithKeyword (trim text) keyword = true

/-- A text behind a space is at a word boundary, also without the blanks at its end. -/
theorem atBoundary_trimEnd (s : Text) : atBoundary (trimEnd (' ' :: s)) = true := by
  rcases head?_trimEnd (' ' :: s) with none | same
  · rw [none]
    rfl
  · rw [atBoundary, same]
    rfl

/-- A text that opens with the keyword and a space carries the keyword. -/
theorem Carries.of_opening {opening : Text} (isKeyword : IsKeyword keyword)
    (opens : opening = keyword ++ [' ']) (s : Text)
    : Carries keyword (opening ++ s) := by
  refine .inr ?_
  rw [opens, List.append_assoc, trim_append isKeyword.starts isKeyword.ends]
  exact isKeyword.startsWithKeyword_append (atBoundary_trimEnd s)

theorem Carries.of_keyword (isKeyword : IsKeyword keyword) : Carries keyword keyword := by
  have whole : startsWithKeyword (keyword ++ []) keyword = true :=
    isKeyword.startsWithKeyword_append rfl
  rw [List.append_nil] at whole
  exact .inr (by rwa [Reading.trim_eq isKeyword.starts isKeyword.ends])

/-- Putting a keyword in front leaves a text that carries it. -/
theorem Carries.of_withKeyword (isKeyword : IsKeyword keyword) (s : Text)
    : Carries keyword (withKeyword s keyword) := by
  rw [withKeyword]
  split
  · exact .inl rfl
  · split
    · next found => exact .inr (by rwa [trim_trim])
    · rw [List.append_cons]
      exact .of_opening isKeyword rfl _

/-- A text that carries a keyword is not blank, unless it is empty. -/
theorem Carries.trim_eq_nil_iff (isKeyword : IsKeyword keyword) (carries : Carries keyword t)
    : trim t = [] ↔ t = [] := by
  constructor
  · intro blank
    rcases carries with empty | found
    · exact empty
    · rw [blank, isKeyword.startsWithKeyword_nil] at found
      exact absurd found (by decide)
  · rintro rfl
    rfl

/-- Nothing but a blank text is left empty when a keyword is put in front. -/
theorem withKeyword_eq_nil_iff : withKeyword s keyword = [] ↔ trim s = [] := by
  rw [withKeyword]
  split
  · next blank => simpa using blank
  · next filled =>
      have kept : trim s ≠ [] := by simpa using filled
      split <;> simp [kept]

/-- What is given a keyword is trimmed. -/
theorem trim_withKeyword (isKeyword : IsKeyword keyword) (s : Text)
    : trim (withKeyword s keyword) = withKeyword s keyword := by
  rw [withKeyword]
  split
  · rfl
  · next filled =>
      have ends : Ends (trim s) := Ends.trim (by simpa using filled)
      split
      · exact trim_trim s
      · refine Reading.trim_eq ?_ ends.cons.append
        have starts := isKeyword.starts
        rw [List.head?_append]
        cases keyword with
        | nil => simp at starts
        | cons c keyword => exact starts

/-- A text that carries a keyword does not get it again. -/
theorem Carries.withKeyword_eq (carries : Carries keyword t) : withKeyword t keyword = trim t := by
  rw [withKeyword]
  split
  · next blank => exact (List.isEmpty_iff.mp blank).symm
  · next filled =>
      rcases carries with rfl | found
      · exact absurd rfl filled
      · rw [if_pos found]

end SqlAssembly.Text
