import SqlAssembly.Clause.Condition
import SqlAssembly.Proofs.Text.Keyword
import SqlAssembly.Text.Truncation
import Mathlib.Data.List.TakeWhile

/-! What it takes for a text to start with a keyword, in words and in bytes. A trimmed text starts
with its own words, so that a field in front of an operator text is found there again.
-/

namespace SqlAssembly

namespace Text

open Reading (Ends)

variable {s t rest word written keyword : Text} {others : List Text}

-----------------------------------------------------------------------------------------
-- Letters without case
-----------------------------------------------------------------------------------------

/-- Taking an uppercase letter to lowercase adds 32 to its code point, which is 65 to 90. -/
theorem toNat_toLower {c : Char} (upper : c.isUpper = true)
    : 65 ≤ c.toNat ∧ c.toNat ≤ 90 ∧ c.toLower.toNat = c.toNat + 32 := by
  have range : 'A'.val ≤ c.val ∧ c.val ≤ 'Z'.val := of_decide_eq_true upper
  have low : 65 ≤ c.val.toNat := range.1
  have high : c.val.toNat ≤ 90 := range.2
  have step : (32 : UInt32).toNat = 32 := rfl
  have sum : (c.val + 32).toNat = c.val.toNat + 32 := by
    rw [UInt32.toNat_add]
    exact Nat.mod_eq_of_lt (by omega)
  exact ⟨low, high, (congrArg Char.toNat (dif_pos range)).trans sum⟩

theorem toLower_eq_self {c : Char} (other : c.isUpper = false) : c.toLower = c :=
  dif_neg (of_decide_eq_false other)

/-- Case does not turn a letter into a blank. -/
theorem isBlank_toLower (c : Char) : isBlank c.toLower = isBlank c := by
  cases upper : c.isUpper with
  | false => rw [toLower_eq_self upper]
  | true =>
      obtain ⟨low, high, lower⟩ := toNat_toLower upper
      have bare {n : Nat} (above : 65 ≤ n) (below : n ≤ 122) : within blankRanges n = false := by
        simp only [within, blankRanges, List.any_cons, List.any_nil, Bool.or_eq_false_iff,
          Bool.and_eq_false_iff, decide_eq_false_iff_not, and_true]
        omega
      rw [isBlank, isBlank, bare (by omega) (by omega), bare low (by omega)]

/-- A letter takes one byte in either case. -/
theorem utf8Size_toLower (c : Char) : c.toLower.utf8Size = c.utf8Size := by
  cases upper : c.isUpper with
  | false => rw [toLower_eq_self upper]
  | true =>
      obtain ⟨low, high, lower⟩ := toNat_toLower upper
      have single {d : Char} (ascii : d.toNat ≤ 127) : d.utf8Size = 1 :=
        Char.utf8Size_eq_one_iff.mpr ascii
      rw [single (by omega), single (by omega)]

/-- Texts that differ in case only take the same number of bytes, by induction on both. -/
theorem byteSize_congr (same : s.map Char.toLower = t.map Char.toLower)
    : byteSize s = byteSize t := by
  induction s generalizing t with
  | nil =>
      rw [List.map_eq_nil_iff.mp same.symm]
  | cons c s ih =>
      cases t with
      | nil => exact absurd same (List.cons_ne_nil _ _)
      | cons d t =>
          obtain ⟨letter, tail⟩ := List.cons.inj same
          rw [byteSize, byteSize, ih tail, ← utf8Size_toLower c, letter, utf8Size_toLower]

/-- However a word is written, the text starts with a character that is not blank. -/
theorem IsWord.starts_of_same (solid : IsWord word)
    (same : written.map Char.toLower = word.map Char.toLower) (rest : Text)
    : (written ++ rest).head?.any (fun c => !isBlank c) = true := by
  cases word with
  | nil => exact absurd rfl solid.1
  | cons w word =>
      cases written with
      | nil => exact absurd same.symm (List.cons_ne_nil _ _)
      | cons c written =>
          have letter : c.toLower = w.toLower := (List.cons.inj same).1
          have bare : isBlank c = false := by
            rw [← isBlank_toLower, letter, isBlank_toLower]
            exact solid.2 w List.mem_cons_self
          simpa using bare

-----------------------------------------------------------------------------------------
-- Texts of given words
-----------------------------------------------------------------------------------------

/-- A word in front of a blank or of nothing is the first word, by induction on the word. -/
theorem words_append (solid : IsWord word) (apart : s.head?.all isBlank = true)
    : words (word ++ s) = word :: words s := by
  obtain ⟨nonempty, bare⟩ := solid
  induction word with
  | nil => exact absurd rfl nonempty
  | cons c word ih =>
      have first : isBlank c = false := bare c List.mem_cons_self
      cases word with
      | nil => simp [words, first, apart]
      | cons d word =>
          have next : isBlank d = false :=
            bare d (List.mem_cons_of_mem c List.mem_cons_self)
          have tail := ih (List.cons_ne_nil d word) fun e member =>
            bare e (List.mem_cons_of_mem c member)
          rw [List.cons_append, words, if_neg (by simp [first]), if_neg (by simp [next]), tail]

/-- Words behind single spaces are the words of that text, by induction on them. -/
theorem words_flatMap (solid : ∀ word ∈ others, IsWord word)
    : words (others.flatMap (' ' :: ·)) = others := by
  induction others with
  | nil => rfl
  | cons word others ih =>
      have tail := ih fun other member => solid other (List.mem_cons_of_mem word member)
      have apart : (others.flatMap (' ' :: ·)).head?.all isBlank = true := by
        cases others <;> rfl
      rw [List.flatMap_cons, List.cons_append, words, if_pos (by decide),
        words_append (solid word List.mem_cons_self) apart, tail]

/-- The words of joined words are those words. -/
theorem words_join (solid : ∀ word ∈ others, IsWord word) : words (join " " others) = others := by
  cases others with
  | nil => rfl
  | cons word others =>
      have apart : (others.flatMap (' ' :: ·)).head?.all isBlank = true := by
        cases others <;> rfl
      rw [join_cons, words_append (solid word List.mem_cons_self) apart,
        words_flatMap fun other member => solid other (List.mem_cons_of_mem word member)]

/-- Joined words make a keyword. -/
theorem IsKeyword.of_words (nonempty : others ≠ []) (solid : ∀ word ∈ others, IsWord word)
    : IsKeyword (join " " others) := by
  have split := words_join solid
  refine ⟨fun empty => nonempty ?_, by rw [split]⟩
  rw [← split, empty]
  rfl

-----------------------------------------------------------------------------------------
-- Exactly the keyword
-----------------------------------------------------------------------------------------

namespace Spells

/-- A text that spells words starts with a character that is not blank. -/
theorem starts (spelled : Spells (word :: others) s) (solid : IsWord word)
    : s.head?.any (fun c => !isBlank c) = true := by
  cases spelled with
  | last same ends => exact solid.starts_of_same same _
  | cons same apart blank tail => exact solid.starts_of_same same _

/-- The words of a spelled text are dropped one after the other, by induction on them. -/
theorem dropSpacedWords?_eq (spelled : Spells (word :: others) s)
    (solid : ∀ other ∈ word :: others, IsWord other)
    : ∃ rest, (dropWord? word s).bind (dropSpacedWords? others) = some rest
        ∧ atBoundary rest = true := by
  induction others generalizing word s with
  | nil =>
      cases spelled with
      | last same ends =>
          refine ⟨_, ?_, ends⟩
          rw [dropWord?_append_of_same same]
          rfl
  | cons other others ih =>
      cases spelled with
      | cons same apart blank tail =>
          have later : ∀ next ∈ other :: others, IsWord next := fun next member =>
            solid next (List.mem_cons_of_mem word member)
          obtain ⟨rest, dropped, ends⟩ := ih tail later
          refine ⟨rest, ?_, ends⟩
          have bare := dropBlanks?_append apart blank (tail.starts (later other List.mem_cons_self))
          rw [dropWord?_append_of_same same, Option.bind_some, dropSpacedWords?, bare]
          exact dropped

/-- A text that spells the words of a keyword is found to start with it. -/
theorem startsWithKeyword (spelled : Spells (words keyword) s)
    : Text.startsWithKeyword s keyword = true := by
  cases split : words keyword with
  | nil =>
      rw [split] at spelled
      cases spelled
  | cons word others =>
      rw [split] at spelled
      have solid : ∀ other ∈ word :: others, IsWord other := fun other member =>
        isWord_of_mem_words (split ▸ member)
      obtain ⟨rest, dropped, ends⟩ := spelled.dropSpacedWords?_eq solid
      rw [Text.startsWithKeyword, dropKeyword?, split]
      simp only [dropped, Option.any_some, ends]

/-- A text that spells words still does so with one letter more in front of it and of the first
word.
-/
theorem cons_letter (spelled : Spells (word :: others) s) (c : Char)
    : Spells ((c :: word) :: others) (c :: s) := by
  have longer {written : Text} (same : written.map Char.toLower = word.map Char.toLower)
      : (c :: written).map Char.toLower = (c :: word).map Char.toLower :=
    congrArg (c.toLower :: ·) same
  cases spelled with
  | last same ends => exact .last (longer same) ends
  | cons same apart blank tail => exact .cons (longer same) apart blank tail

/-- A letter in front of a blank is a word of its own. The blanks between it and the next word are
those that trimming what follows the letter cuts off.
-/
theorem cons_word {b : Char} (spelled : Spells (word :: others) (trimStart (b :: s) ++ rest))
    (blank : isBlank b = true) (c : Char)
    : Spells ([c] :: word :: others) (c :: (b :: s ++ rest)) := by
  have cut : (b :: s).takeWhile isBlank ++ trimStart (b :: s) = b :: s :=
    List.takeWhile_append_dropWhile
  have apart : (b :: s).takeWhile isBlank ≠ [] := by simp [blank]
  have blanks : ∀ d ∈ (b :: s).takeWhile isBlank, isBlank d = true :=
    List.all_eq_true.mp List.all_takeWhile
  have letter : [c].map Char.toLower = [c].map Char.toLower := rfl
  rw [← cut, List.append_assoc]
  exact .cons letter apart blanks spelled

/-- A text that ends solid spells its own words behind the blanks at its start, whatever follows
at a word boundary, by induction on its characters.
-/
theorem own_words {s : Text} (ends : Ends s) (boundary : atBoundary rest = true)
    : Spells (words s) (trimStart s ++ rest) := by
  fun_induction words s with
  | case1 => simp [Ends] at ends
  | case2 c s blank ih =>
      have more : s ≠ [] := by
        rintro rfl
        simp [Ends, blank] at ends
      rw [trimStart, List.dropWhile_cons_of_pos blank, ← trimStart]
      exact ih (Ends.of_cons ends more)
  | case3 c s solid apart ih =>
      rw [trimStart, List.dropWhile_cons_of_neg solid, List.cons_append]
      cases s with
      | nil =>
          have letter : [c].map Char.toLower = [c].map Char.toLower := rfl
          exact .last letter boundary
      | cons b s =>
          have tail := ih (Ends.of_cons ends (List.cons_ne_nil b s))
          cases split : words (b :: s) with
          | nil =>
              rw [split] at tail
              cases tail
          | cons first others =>
              rw [split] at tail
              exact tail.cons_word (by simpa using apart) c
  | case4 c s solid joined first others found ih =>
      have more : s ≠ [] := by
        rintro rfl
        cases found
      have starts : s.head?.any (fun c => !isBlank c) = true := by
        cases s with
        | nil => exact absurd rfl more
        | cons d s => simpa using joined
      have whole := ih (Ends.of_cons ends more)
      rw [Reading.trimStart_eq starts, found] at whole
      rw [trimStart, List.dropWhile_cons_of_neg solid, List.cons_append]
      exact whole.cons_letter c
  | case5 c s solid joined none ih =>
      have more : s ≠ [] := by
        rintro rfl
        exact joined rfl
      have whole := ih (Ends.of_cons ends more)
      rw [none] at whole
      cases whole

end Spells

/-- A text starts with the words of a keyword exactly if it spells them. -/
theorem startsWithKeyword_iff (nonempty : words keyword ≠ [])
    : startsWithKeyword s keyword = true ↔ Spells (words keyword) s :=
  ⟨.of_startsWithKeyword nonempty, Spells.startsWithKeyword⟩

-----------------------------------------------------------------------------------------
-- Cuts between bytes
-----------------------------------------------------------------------------------------

/-- To drop a word is to cut the text behind as many bytes and to compare what stands before the
cut.
-/
theorem dropWord?_eq_some_iff
    : dropWord? word s = some rest
      ↔ ∃ head, cutAt? (byteSize word) s = some (head, rest)
          ∧ head.map Char.toLower = word.map Char.toLower := by
  constructor
  · intro dropped
    obtain ⟨head, rfl, same⟩ := dropWord?_eq_some dropped
    refine ⟨head, ?_, same⟩
    rw [← byteSize_congr same]
    exact cutAt?_byteSize head rest
  · rintro ⟨head, cut, same⟩
    obtain ⟨rfl, -⟩ := append_of_cutAt? cut
    exact dropWord?_append_of_same same rest

-----------------------------------------------------------------------------------------
-- Keywords put in front
-----------------------------------------------------------------------------------------

/-- Trimming leaves nothing of a text exactly if all its characters are blank. -/
theorem trim_eq_nil_iff : trim s = [] ↔ ∀ c ∈ s, isBlank c = true := by
  rw [trim, trimEnd, List.reverse_eq_nil_iff, List.dropWhile_eq_nil_iff]
  constructor
  · intro blank c member
    rw [← List.takeWhile_append_dropWhile (p := isBlank) (l := s)] at member
    rcases List.mem_append.mp member with front | back
    · exact List.all_eq_true.mp List.all_takeWhile c front
    · exact blank c (List.mem_reverse.mpr back)
  · intro blank c member
    exact blank c ((List.dropWhile_suffix isBlank).subset (List.mem_reverse.mp member))

/-- What putting a keyword in front of a text gives. -/
structure Prefixing (keyword s : Text) : Prop where
  /-- Nothing comes of a blank text, and of no other. -/
  empty_iff : withKeyword s keyword = [] ↔ ∀ c ∈ s, isBlank c = true
  /-- A text that starts with the keyword is trimmed. -/
  kept : trim s ≠ [] → startsWithKeyword (trim s) keyword = true → withKeyword s keyword = trim s
  /-- Any other text gets the keyword and a space. -/
  put : trim s ≠ [] → startsWithKeyword (trim s) keyword = false
    → withKeyword s keyword = keyword ++ ' ' :: trim s
  /-- What comes of a text starts with the keyword. -/
  recognised : withKeyword s keyword ≠ []
    → startsWithKeyword (withKeyword s keyword) keyword = true
  /-- Putting the keyword in front again changes nothing. -/
  idempotent : withKeyword (withKeyword s keyword) keyword = withKeyword s keyword

theorem Prefixing.of_isKeyword (isKeyword : IsKeyword keyword) (s : Text)
    : Prefixing keyword s where
  empty_iff := withKeyword_eq_nil_iff.trans trim_eq_nil_iff
  kept filled found := by
    rw [withKeyword, if_neg (by simpa using filled), if_pos found]
  put filled missing := by
    rw [withKeyword, if_neg (by simpa using filled), if_neg (by simp [missing])]
  recognised filled := by
    rcases Carries.of_withKeyword isKeyword s with empty | found
    · exact absurd empty filled
    · rwa [trim_withKeyword isKeyword] at found
  idempotent := by
    rw [(Carries.of_withKeyword isKeyword s).withKeyword_eq, trim_withKeyword isKeyword]

-----------------------------------------------------------------------------------------
-- Fields in front of an operator text
-----------------------------------------------------------------------------------------

/-- A trimmed text that is not empty has no blank at either end. -/
theorem solid_of_trimmed (filled : s ≠ []) (trimmed : trim s = s)
    : s.head?.any (fun c => !isBlank c) = true ∧ Ends s := by
  have kept : trim s ≠ [] := by rwa [trimmed]
  have starts := trim_starts kept
  have ends : Ends (trim s) := .trim kept
  rw [trimmed] at starts ends
  exact ⟨starts, ends⟩

/-- A field is found at the start of a text if a word boundary follows it there. -/
theorem startsWithKeyword_field {field : Text} (named : field ≠ []) (trimmed : trim field = field)
    (boundary : atBoundary rest = true)
    : startsWithKeyword (field ++ rest) field = true := by
  obtain ⟨starts, ends⟩ := solid_of_trimmed named trimmed
  have spelled := Spells.own_words ends boundary
  rw [Reading.trimStart_eq starts] at spelled
  exact spelled.startsWithKeyword

/-- What an operator text on a field is written as. -/
structure OperatorText (field sql : Text) : Prop where
  /-- It starts with the field. -/
  starts : startsWithKeyword ((Condition.literal sql).predicate field) field = true
  /-- Taken for an operator text on the field once more, it is trimmed. -/
  again : (Condition.literal ((Condition.literal sql).predicate field)).predicate field
    = trim ((Condition.literal sql).predicate field)

theorem OperatorText.of_trimmed {field : Text} (named : field ≠ []) (trimmed : trim field = field)
    (sql : Text)
    : OperatorText field sql := by
  by_cases found : startsWithKeyword (trim sql) field = true
  · have whole : (Condition.literal sql).predicate field = trim sql := by
      rw [Condition.predicate, if_pos found]
    refine ⟨by rwa [whole], ?_⟩
    rw [whole, Condition.predicate, trim_trim, if_pos found]
  · have whole : (Condition.literal sql).predicate field = field ++ ' ' :: trim sql := by
      rw [Condition.predicate, if_neg found]
    obtain ⟨starts, ends⟩ := solid_of_trimmed named trimmed
    refine ⟨?_, ?_⟩
    · rw [whole]
      exact startsWithKeyword_field named trimmed rfl
    · have again := startsWithKeyword_field named trimmed (atBoundary_trimEnd (trim sql))
      rw [whole, Condition.predicate, trim_append starts ends, if_pos again]

-----------------------------------------------------------------------------------------
-- Recognition of keywords
-----------------------------------------------------------------------------------------

/-- How a text is tested for a keyword of the given words. -/
structure Recognition (keyWords : List Text) (s : Text) : Prop where
  /-- It starts with the keyword exactly if it spells the words. -/
  exact_words : startsWithKeyword s (join " " keyWords) = true ↔ Spells keyWords s
  /-- A word is dropped by one cut behind as many bytes as the word has. -/
  dropped_iff : ∀ word text rest : Text, dropWord? word text = some rest
    ↔ ∃ head, cutAt? (byteSize word) text = some (head, rest)
        ∧ head.map Char.toLower = word.map Char.toLower
  /-- A cut is between two characters. -/
  cut_iff : ∀ (bytes : Nat) (text head rest : Text), cutAt? bytes text = some (head, rest)
    ↔ text = head ++ rest ∧ byteSize head = bytes

/-- A text is found to start with a keyword exactly if it spells the keyword's words without regard
to ASCII case, with blanks between them and a word boundary behind, and it is never cut inside a
character. Putting the keyword in front of a text that is not blank makes it start with the keyword,
and once is enough. An operator text on a trimmed field is written behind the field, and is that
operator text again but for the blanks around it.
-/
theorem keywords_recognised {keyWords : List Text} (nonempty : keyWords ≠ [])
    (solid : ∀ word ∈ keyWords, IsWord word) {field : Text} (named : field ≠ [])
    (trimmed : trim field = field) (s sql : Text)
    : Recognition keyWords s ∧ Prefixing (join " " keyWords) s ∧ OperatorText field sql := by
  have isKeyword : IsKeyword (join " " keyWords) := .of_words nonempty solid
  have split : words (join " " keyWords) = keyWords := words_join solid
  refine ⟨?_, .of_isKeyword isKeyword s, .of_trimmed named trimmed sql⟩
  refine ⟨?_, fun _ _ _ => dropWord?_eq_some_iff, ?_⟩
  · rw [startsWithKeyword_iff (by rwa [split]), split]
  · intro bytes text head rest
    refine ⟨append_of_cutAt?, ?_⟩
    rintro ⟨rfl, rfl⟩
    exact cutAt?_byteSize head rest

/-- The two words of a grouping, written in mixed case and apart by an em space, and a field with
letters of two bytes.
-/
theorem grouping_recognised
    : Spells ["group".toList, "by".toList] "GROUP\u2003By größe".toList
      ∧ withKeyword " größe\n" "group by" = "group by größe".toList
      ∧ startsWithKeyword ((Condition.literal " > 5").predicate "größe") "größe" = true := by
  have split : words "group by" = ["group".toList, "by".toList] := by decide
  have solid : ∀ word ∈ ["group".toList, "by".toList], IsWord word := fun word member =>
    isWord_of_mem_words (split ▸ member)
  have trimmed : trim "größe" = "größe".toList := by decide
  have sound := keywords_recognised (by decide) solid (by decide) trimmed
  obtain ⟨tested, -, written⟩ := sound "GROUP\u2003By größe" " > 5"
  obtain ⟨-, put, -⟩ := sound " größe\n" " > 5"
  exact ⟨tested.exact_words.mp (by decide), put.put (by decide) (by decide), written.starts⟩

end Text

end SqlAssembly
