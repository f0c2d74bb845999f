import SqlAssembly.Clause.Condition
import SqlAssembly.Proofs.Condition.Connectives
import SqlAssembly.Proofs.Condition.Lexemes

/-! A raw group beside alternatives. The alternatives are put in parentheses and the raw predicate
is not, so they are asked only together with the last of the disjuncts of the raw predicate.
-/

namespace SqlAssembly.Predicate

open Grammar (Operator)

-----------------------------------------------------------------------------------------
-- Reading texts
-----------------------------------------------------------------------------------------

/-- The text is a predicate: these formulas, joined with or outside of parentheses. -/
structure Reads (sql : Text) (lexemes : List Lexeme) (disjuncts : List Formula) : Prop where
  scans : Scans sql lexemes
  allowed : lexemes.any Lexeme.isRefused = false
  predicate : isQuery lexemes = false
  links : Links .or (fuelFor lexemes) lexemes disjuncts

theorem disjuncts?_eq_some_iff {sql : Text} {fs : List Formula}
    : disjuncts? sql = some fs ↔ ∃ lexemes, Reads sql lexemes fs := by
  constructor
  · intro reads
    obtain ⟨lexemes, scans, reads⟩ := Option.bind_eq_some_iff.mp reads
    obtain ⟨scans, allowed⟩ := lexemes?_eq_some_iff.mp scans
    split at reads
    · cases reads
    · next predicate =>
        obtain ⟨chunks, cuts, reads⟩ := Option.bind_eq_some_iff.mp reads
        exact ⟨lexemes, scans, allowed, Bool.eq_false_iff.mpr predicate, chunks, cuts,
          mapM_eq_some_iff.mp reads⟩
  · rintro ⟨lexemes, scans, allowed, predicate, chunks, cuts, reads⟩
    have scanned := lexemes?_eq_some_iff.mpr ⟨scans, allowed⟩
    have mapped := mapM_eq_some_iff.mpr reads
    simpa [disjuncts?, scanned, predicate, cuts] using mapped

theorem parse_eq_some_iff {sql : Text} {f : Formula}
    : parse sql = some f
      ↔ ∃ lexemes fs, Reads sql lexemes fs ∧ Formula.chain? .or fs = some f := by
  simp only [parse, Option.bind_eq_some_iff, disjuncts?_eq_some_iff]
  grind

theorem fuelFor_mono {lexemes more : List Lexeme} (longer : lexemes.length ≤ more.length)
    : fuelFor lexemes ≤ fuelFor more :=
  Nat.mul_le_mul_left 3 (Nat.succ_le_succ longer)

namespace Reads

variable {s t : Text} {lexemes rest : List Lexeme} {fs gs : List Formula}

theorem trim (reads : Reads s lexemes fs) : Reads (Text.trim s) lexemes fs :=
  { reads with scans := reads.scans.trim }

/-- A blank text is no predicate. -/
theorem not_blank (reads : Reads s lexemes fs) : Text.isBlankText s = false := by
  obtain ⟨ended, run, scanned, rfl⟩ := reads.trim.scans
  rw [Text.isBlankText, ← Bool.not_eq_true, List.isEmpty_iff]
  intro blank
  rw [blank] at scanned
  cases scanned
  exact reads.links.lexemes_ne_nil rfl

theorem append_or (first : Reads s lexemes fs) (second : Reads t rest gs)
    : Reads (s ++ " or ".toList ++ t) (lexemes ++ .word Operator.or.keyword :: rest)
      (fs ++ gs) where
  scans := by
    have word : Scans "or" [.word Operator.or.keyword] := ⟨[], "or", rfl, rfl⟩
    have behind := word.append_blank (c := ' ') rfl second.scans
    simpa using first.scans.append_blank (c := ' ') rfl behind
  allowed := by
    have word : Lexeme.isRefused (.word Operator.or.keyword) = false := rfl
    simp only [List.any_append, List.any_cons, first.allowed, second.allowed, word, Bool.or_false]
  predicate := by
    rw [isQuery_append first.links.lexemes_ne_nil]
    exact first.predicate
  links := by
    have front : lexemes.length ≤ (lexemes ++ .word Operator.or.keyword :: rest).length := by simp
    have back : rest.length ≤ (lexemes ++ .word Operator.or.keyword :: rest).length := by
      simp only [List.length_append, List.length_cons]
      omega
    exact (first.links.mono (fuelFor_mono front)).append (second.links.mono (fuelFor_mono back))

/-- Terms with the word or between them are their disjunction, by induction on them. -/
theorem join {terms : List Text} {alternatives : List Formula}
    (parsed : List.Forall₂ (fun term q => parse term = some q) terms alternatives)
    (nonempty : alternatives ≠ [])
    : ∃ lexemes fs,
        Reads (Text.join " or " terms) lexemes fs
        ∧ ∀ row, Formula.AnyHolds fs row ↔ Formula.AnyHolds alternatives row := by
  induction parsed with
  | nil => contradiction
  | @cons term q terms alternatives first rest ih =>
      obtain ⟨lexemes, fs, reads, chained⟩ := parse_eq_some_iff.mp first
      cases rest with
      | nil =>
          refine ⟨lexemes, fs, by simpa [Text.join] using reads, fun row => ?_⟩
          rw [← Formula.holds_disjunction chained, Formula.anyHolds_singleton]
      | @cons term' q' terms alternatives second rest =>
          obtain ⟨more, gs, readsRest, holds⟩ := ih (List.cons_ne_nil _ _)
          have joined := reads.append_or readsRest
          rw [Text.join, ← List.intercalate_cons_cons] at joined
          refine ⟨_, fs ++ gs, joined, fun row => ?_⟩
          rw [Formula.anyHolds_append, holds, ← Formula.holds_disjunction chained]
          simp [Formula.AnyHolds]

/-- What stands in parentheses behind the word and is asked with the last disjunct before it. -/
theorem and_group {early : List Formula} {last q : Formula}
    (first : Reads s lexemes (early ++ [last])) (second : Reads t rest gs)
    (chained : Formula.chain? .or gs = some q)
    : ∃ f,
        Reads (s ++ " and (".toList ++ t ++ ")".toList)
          (lexemes ++ .word Operator.and.keyword :: group rest) (early ++ [f])
        ∧ ∀ row, f.Holds row ↔ last.Holds row ∧ q.Holds row := by
  have word : Scans "and" [.word Operator.and.keyword] := ⟨[], "and", rfl, rfl⟩
  have behind := word.append_blank (c := ' ') rfl second.scans.opening.closing
  have scans := first.scans.append_blank (c := ' ') rfl behind
  have refused : ∀ lexeme ∈ [Lexeme.word Operator.and.keyword, .opening, .closing],
      lexeme.isRefused = false := by decide
  obtain ⟨n, size⟩ : ∃ n, n = (lexemes ++ .word Operator.and.keyword :: group rest).length :=
    ⟨_, rfl⟩
  have longer : n = lexemes.length + rest.length + 3 := by
    simp only [size, group, List.length_append, List.length_cons, List.length_nil]
    omega
  have links : Links .or (3 * n + 2 + 1) lexemes (early ++ [last]) :=
    first.links.mono (by rw [fuelFor]; omega)
  obtain ⟨f, links, holds⟩ :=
    links.and_group (by rw [fuelFor]; omega) second.links second.predicate chained
  refine ⟨f, ⟨by simpa [group] using scans, ?_, ?_, ?_⟩, holds⟩
  · simp [group, first.allowed, second.allowed, refused]
  · rw [isQuery_append first.links.lexemes_ne_nil]
    exact first.predicate
  · rw [fuelFor, ← size]
    exact links

end Reads

end SqlAssembly.Predicate

namespace SqlAssembly

open Predicate (Formula Lexeme Reads Truth disjuncts? parse)

-----------------------------------------------------------------------------------------
-- Criteria
-----------------------------------------------------------------------------------------

/-- The raw predicate stands in front of the parentheses, without the blanks around it. -/
theorem Criteria.predicate_beside {criteria : Criteria} {sql : Text}
    (raw : criteria.all = some (.raw sql)) (filled : Text.isBlankText sql = false)
    (given : groupPredicates criteria.any ≠ [])
    : criteria.predicate
      = Text.trim sql ++ " and (".toList ++ Text.join " or " (groupPredicates criteria.any)
        ++ ")".toList := by
  have all : groupPredicates criteria.all = [Text.trim sql] := by
    simp [groupPredicates, raw, Group.predicates, filled]
  obtain ⟨term, terms, any⟩ := List.exists_cons_of_ne_nil given
  have alone : Text.join " and ".toList [Text.trim sql] = Text.trim sql := by simp [Text.join]
  rw [predicate, all, any]
  change Text.join " and ".toList [Text.trim sql] ++ _ ++ _ ++ _ = _
  rw [alone]

/-- Of the disjuncts of a raw predicate only the last is asked together with the alternatives
beside it. So the criteria keep their meaning, the raw predicate and one of the alternatives, at
exactly those rows where no earlier disjunct holds without an alternative.
-/
theorem raw_group_beside_alternatives {criteria : Criteria} {sql : Text} {p : Formula}
    {alternatives : List Formula} (raw : criteria.all = some (.raw sql))
    (parsed : parse sql = some p)
    (terms :
      List.Forall₂ (fun term q => parse term = some q) (Criteria.groupPredicates criteria.any)
        alternatives)
    (given : alternatives ≠ [])
    : ∃ early last f,
        disjuncts? sql = some (early ++ [last])
        ∧ parse criteria.predicate = some f
        ∧ ∀ row,
            (p.Holds row ↔ Formula.AnyHolds early row ∨ last.Holds row)
            ∧ (f.Holds row
                ↔ Formula.AnyHolds early row
                  ∨ last.Holds row ∧ Formula.AnyHolds alternatives row)
            ∧ ((f.Holds row ↔ p.Holds row ∧ Formula.AnyHolds alternatives row)
                ↔ (Formula.AnyHolds early row → Formula.AnyHolds alternatives row)) := by
  obtain ⟨lexemes, fs, reads, chained⟩ := Predicate.parse_eq_some_iff.mp parsed
  obtain ⟨early, last, rfl⟩ : ∃ early last, fs = early ++ [last] :=
    ⟨_, _, (List.dropLast_append_getLast reads.links.ne_nil).symm⟩
  obtain ⟨_, _, readsAny, holdsAny⟩ := Reads.join terms given
  obtain ⟨q, chainedAny⟩ := Formula.chain?_isSome .or readsAny.links.ne_nil
  obtain ⟨both, readsBoth, holdsBoth⟩ := reads.trim.and_group readsAny chainedAny
  obtain ⟨f, chainedBoth⟩ := Formula.chain?_isSome .or readsBoth.links.ne_nil
  have termsGiven : Criteria.groupPredicates criteria.any ≠ [] := by
    intro none
    rw [none, List.forall₂_nil_left_iff] at terms
    exact given terms
  rw [← Criteria.predicate_beside raw reads.not_blank termsGiven] at readsBoth
  refine ⟨early, last, f, Predicate.disjuncts?_eq_some_iff.mpr ⟨_, reads⟩,
    Predicate.parse_eq_some_iff.mpr ⟨_, _, readsBoth, chainedBoth⟩, fun row => ?_⟩
  have holdsP : p.Holds row ↔ Formula.AnyHolds early row ∨ last.Holds row := by
    rw [Formula.holds_disjunction chained, Formula.anyHolds_append, Formula.anyHolds_singleton]
  have holdsF : f.Holds row
      ↔ Formula.AnyHolds early row ∨ last.Holds row ∧ Formula.AnyHolds alternatives row := by
    rw [Formula.holds_disjunction chainedBoth, Formula.anyHolds_append,
      Formula.anyHolds_singleton, holdsBoth, Formula.holds_disjunction chainedAny, holdsAny]
  refine ⟨holdsP, holdsF, ?_⟩
  rw [holdsP, holdsF]
  constructor
  · intro same holdsEarly
    exact (same.mp (Or.inl holdsEarly)).2
  · intro kept
    constructor
    · rintro (holdsEarly | ⟨holdsLast, holdsAny⟩)
      · exact ⟨Or.inl holdsEarly, kept holdsEarly⟩
      · exact ⟨Or.inr holdsLast, holdsAny⟩
    · rintro ⟨holdsEarly | holdsLast, holdsAny⟩
      · exact Or.inl holdsEarly
      · exact Or.inr ⟨holdsLast, holdsAny⟩

/-- A field that is compared with a text. -/
def fieldEquals (field value : Text) : Formula :=
  .comparison [.word field, .operator "=", .quoted Text.singleQuote value]

/-- A row of texts, as far as fields are compared with texts. -/
def textRow (row : Text → Text) : List Lexeme → Truth
  | [.word field, .operator symbol, .quoted _ value] =>
      if symbol ≠ "=" then .unknown else if row field = value then .yes else .no
  | _ => .unknown

/-- A raw predicate with two disjuncts beside one alternative. -/
def disjunctsBeside : Criteria :=
  (Criteria.empty.andRaw "a = '1' or b = '2'").or "c" (.scalar (.text "3"))

theorem two_disjuncts_beside_alternative
    : (parse "a = '1' or b = '2'"
          = some (.joined .or (fieldEquals "a" "1") (fieldEquals "b" "2"))
        ∧ List.Forall₂ (fun term q => parse term = some q)
          (Criteria.groupPredicates disjunctsBeside.any) [fieldEquals "c" "3"])
      ∧ ∃ early last f,
          disjuncts? "a = '1' or b = '2'" = some (early ++ [last])
          ∧ parse disjunctsBeside.predicate = some f
          ∧ ∀ row,
              f.Holds row
              ↔ Formula.AnyHolds early row
                ∨ last.Holds row ∧ (fieldEquals "c" "3").Holds row := by
  have parsed : parse "a = '1' or b = '2'"
      = some (.joined .or (fieldEquals "a" "1") (fieldEquals "b" "2")) := by
    decide +kernel
  have terms : List.Forall₂ (fun term q => parse term = some q)
      (Criteria.groupPredicates disjunctsBeside.any) [fieldEquals "c" "3"] :=
    .cons (by decide +kernel) .nil
  obtain ⟨early, last, f, disjuncts, both, holds⟩ :=
    raw_group_beside_alternatives rfl parsed terms (List.cons_ne_nil _ _)
  refine ⟨⟨parsed, terms⟩, early, last, f, disjuncts, both, fun row => ?_⟩
  simpa using (holds row).2.1

/-- A row that the first disjunct holds of is taken without the alternative. -/
theorem disjunct_escapes_alternative
    : ∃ p q f row,
        parse "a = '1' or b = '2'" = some p
        ∧ parse "c = '3'" = some q
        ∧ parse disjunctsBeside.predicate = some f
        ∧ ¬(f.Holds row ↔ p.Holds row ∧ q.Holds row) :=
  ⟨.joined .or (fieldEquals "a" "1") (fieldEquals "b" "2"),
    fieldEquals "c" "3",
    .joined .or (fieldEquals "a" "1") (.joined .and (fieldEquals "b" "2") (fieldEquals "c" "3")),
    textRow fun _ => "1",
    by decide +kernel, by decide +kernel, by decide +kernel,
    fun same => absurd (same.mp (by decide +kernel)).2 (by decide +kernel)⟩

end SqlAssembly
