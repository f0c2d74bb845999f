import SqlAssembly.Proofs.Condition.Predicates

/-! Reading what is joined with connectives. Links of a chain are read one by one, and what stands
in parentheses is one link of any chain.
-/

namespace SqlAssembly.Predicate

open Grammar (Operator isKeyword)

-----------------------------------------------------------------------------------------
-- Cutting
-----------------------------------------------------------------------------------------

section Cutting

variable {op : Operator} {openers inner : List Opener} {lexeme : Lexeme}
  {lexemes next rest : List Lexeme} {chunks later : List (List Lexeme)}

theorem cut_cons_eq_some_iff
    : cut op openers (lexeme :: rest) = some chunks
      ↔ ∃ inner later,
          nest openers lexeme = some inner
          ∧ cut op inner rest = some later
          ∧ extend op openers lexeme later = chunks := by
  simp [cut, Option.bind_eq_some_iff]

theorem cut_nil_eq_some_iff : cut op openers [] = some chunks ↔ openers = [] ∧ chunks = [[]] := by
  simp [cut, eq_comm]

theorem extend_parting (parts : openers = [] ∧ lexeme.isConnective op = true)
    (nonempty : later ≠ [])
    : extend op openers lexeme later = [] :: later := by
  cases later with
  | nil => contradiction
  | cons chunk chunks => rw [extend, if_pos parts]

theorem extend_cons (kept : ¬(openers = [] ∧ lexeme.isConnective op = true)) (chunk : List Lexeme)
    : extend op openers lexeme (chunk :: chunks) = (lexeme :: chunk) :: chunks := by
  rw [extend, if_neg kept]

theorem cut_ne_nil (cuts : cut op openers lexemes = some chunks) : chunks ≠ [] := by
  cases lexemes with
  | nil =>
      obtain ⟨-, rfl⟩ := cut_nil_eq_some_iff.mp cuts
      exact List.cons_ne_nil _ _
  | cons lexeme rest =>
      obtain ⟨inner, chunks, -, -, rfl⟩ := cut_cons_eq_some_iff.mp cuts
      cases chunks with
      | nil => exact List.cons_ne_nil _ _
      | cons chunk chunks =>
          rw [extend]
          split <;> exact List.cons_ne_nil _ _

/-- The last chunk of one run of lexemes goes on with the first of the next, by induction on the
first.
-/
theorem cut_append {early : List (List Lexeme)} {last : List Lexeme}
    (cuts : cut op openers lexemes = some (early ++ [last]))
    (behind : cut op [] rest = some (next :: later))
    : cut op openers (lexemes ++ rest) = some (early ++ (last ++ next) :: later) := by
  induction lexemes generalizing openers early last with
  | nil =>
      obtain ⟨rfl, alone⟩ := cut_nil_eq_some_iff.mp cuts
      have alone : early ++ [last] = [] ++ [[]] := alone
      obtain ⟨rfl, same⟩ := List.append_inj' alone rfl
      cases same
      exact behind
  | cons lexeme lexemes ih =>
      obtain ⟨inner, chunks, nests, cuts, extended⟩ := cut_cons_eq_some_iff.mp cuts
      obtain ⟨early', last', rfl⟩ : ∃ early' last', chunks = early' ++ [last'] :=
        ⟨_, _, (List.dropLast_append_getLast (cut_ne_nil cuts)).symm⟩
      refine cut_cons_eq_some_iff.mpr ⟨inner, _, nests, ih cuts, ?_⟩
      by_cases parts : openers = [] ∧ lexeme.isConnective op = true
      · rw [extend_parting parts (by simp)] at extended ⊢
        have parted : ([] :: early') ++ [last'] = early ++ [last] := extended
        obtain ⟨rfl, same⟩ := List.append_inj' parted rfl
        cases same
        rfl
      · rcases early' with _ | ⟨chunk, early'⟩
        · rw [List.nil_append, extend_cons parts] at extended ⊢
          have longer : [] ++ [lexeme :: last'] = early ++ [last] := extended
          obtain ⟨rfl, same⟩ := List.append_inj' longer rfl
          cases same
          rfl
        · rw [List.cons_append, extend_cons parts] at extended ⊢
          have behind : ((lexeme :: chunk) :: early') ++ [last'] = early ++ [last] := extended
          obtain ⟨rfl, same⟩ := List.append_inj' behind rfl
          cases same
          rfl

/-- A connective opens and closes nothing. -/
theorem nest_connective (connective : lexeme.isConnective op = true)
    : nest [] lexeme = some [] := by
  cases lexeme with
  | word w =>
      have keyword : w.map Char.toLower = op.keyword := by
        simpa [Lexeme.isConnective, isKeyword] using connective
      have other : isKeyword "case" w = false ∧ isKeyword "between" w = false := by
        rw [isKeyword, isKeyword, keyword]
        cases op <;> decide
      rw [nest, other.1, other.2]
      rfl
  | operator s => cases connective
  | quoted quote s => cases connective
  | opening => cases connective
  | closing => cases connective

/-- A connective parts what is before it from what is behind it. -/
theorem cut_connective (connective : lexeme.isConnective op = true)
    (cuts : cut op openers lexemes = some chunks) (behind : cut op [] rest = some later)
    : cut op openers (lexemes ++ lexeme :: rest) = some (chunks ++ later) := by
  have parted : cut op [] (lexeme :: rest) = some ([] :: later) :=
    cut_cons_eq_some_iff.mpr
      ⟨[], later, nest_connective connective, behind,
        extend_parting ⟨rfl, connective⟩ (cut_ne_nil behind)⟩
  obtain ⟨early, last, rfl⟩ : ∃ early last, chunks = early ++ [last] :=
    ⟨_, _, (List.dropLast_append_getLast (cut_ne_nil cuts)).symm⟩
  simpa using cut_append cuts parted

theorem afterWord_append (w : Text) (openers : List Opener)
    : afterWord w (openers ++ [.parenthesis])
      = (afterWord w openers).map (· ++ [.parenthesis]) := by
  rcases openers with _ | ⟨_ | _ | _, outer⟩
  · rfl
  · rfl
  · rw [List.cons_append, afterWord, afterWord]
    split <;> rfl
  · rw [List.cons_append, afterWord, afterWord]
    split
    · rfl
    · split <;> rfl

/-- What is open further out is no matter. -/
theorem nest_append (nests : nest openers lexeme = some inner)
    : nest (openers ++ [.parenthesis]) lexeme = some (inner ++ [.parenthesis]) := by
  cases lexeme with
  | word w =>
      have word : nest (openers ++ [.parenthesis]) (.word w)
          = (nest openers (.word w)).map (· ++ [.parenthesis]) := by
        rw [nest, nest, afterWord_append]
        split
        · rfl
        · split <;> rfl
      rw [word, nests]
      rfl
  | operator s | quoted quote s | opening =>
      cases nests
      rfl
  | closing =>
      rcases openers with _ | ⟨_ | _ | _, outer⟩ <;> cases nests
      rfl

/-- What is balanced stays in one piece inside of parentheses, by induction on it. -/
theorem cut_enclosed (balanced : cut op openers lexemes = some chunks) (other : Operator)
    : cut other (openers ++ [.parenthesis]) (lexemes ++ [.closing])
      = some [lexemes ++ [.closing]] := by
  induction lexemes generalizing openers chunks with
  | nil =>
      obtain ⟨rfl, -⟩ := cut_nil_eq_some_iff.mp balanced
      rfl
  | cons lexeme lexemes ih =>
      obtain ⟨inner, later, nests, cuts, -⟩ := cut_cons_eq_some_iff.mp balanced
      exact cut_cons_eq_some_iff.mpr
        ⟨_, _, nest_append nests, ih cuts, extend_cons (by simp) _⟩

/-- What stands in parentheses. -/
def group (lexemes : List Lexeme) : List Lexeme :=
  .opening :: (lexemes ++ [.closing])

theorem cut_group (balanced : cut op [] lexemes = some chunks) (other : Operator)
    : cut other [] (group lexemes) = some [group lexemes] :=
  cut_cons_eq_some_iff.mpr
    ⟨[.parenthesis], _, rfl, cut_enclosed balanced other,
      extend_cons (by simp [Lexeme.isConnective]) _⟩

end Cutting

-----------------------------------------------------------------------------------------
-- Chains
-----------------------------------------------------------------------------------------

namespace Formula

variable {f : Formula} {fs : List Formula} {row : List Lexeme → Truth}

theorem chain?_isSome (op : Operator) (nonempty : fs ≠ []) : ∃ f, chain? op fs = some f := by
  induction fs with
  | nil => contradiction
  | cons f fs ih =>
      cases fs with
      | nil => exact ⟨f, rfl⟩
      | cons g fs =>
          obtain ⟨tail, chained⟩ := ih (List.cons_ne_nil _ _)
          exact ⟨.joined op f tail, by rw [chain?, chained]; rfl⟩

@[simp]
theorem anyHolds_singleton : AnyHolds [f] row ↔ f.Holds row := by
  simp [AnyHolds]

theorem anyHolds_append {gs : List Formula}
    : AnyHolds (fs ++ gs) row ↔ AnyHolds fs row ∨ AnyHolds gs row := by
  simp [AnyHolds, or_and_right, exists_or]

/-- A disjunction holds when one of its formulas does, by induction on them. -/
theorem holds_disjunction (chained : chain? .or fs = some f) : f.Holds row ↔ AnyHolds fs row := by
  induction fs generalizing f with
  | nil => cases chained
  | cons g fs ih =>
      cases fs with
      | nil =>
          cases chained
          exact anyHolds_singleton.symm
      | cons h fs =>
          obtain ⟨tail, later, rfl⟩ := Option.map_eq_some_iff.mp chained
          rw [AnyHolds, List.exists_mem_cons_iff, ← AnyHolds, ← ih later]
          exact Truth.or_eq_yes_iff

/-- A conjunction holds when all of its formulas do, by induction on them. -/
theorem holds_conjunction (chained : chain? .and fs = some f)
    : f.Holds row ↔ ∀ g ∈ fs, g.Holds row := by
  induction fs generalizing f with
  | nil => cases chained
  | cons g fs ih =>
      cases fs with
      | nil =>
          cases chained
          simp
      | cons h fs =>
          obtain ⟨tail, later, rfl⟩ := Option.map_eq_some_iff.mp chained
          rw [List.forall_mem_cons, ← ih later]
          exact Truth.and_eq_yes_iff

end Formula

-----------------------------------------------------------------------------------------
-- Links
-----------------------------------------------------------------------------------------

theorem mapM_eq_some_iff {α β : Type} {f : α → Option β} {xs : List α} {ys : List β}
    : xs.mapM f = some ys ↔ List.Forall₂ (fun x y => f x = some y) xs ys := by
  induction xs generalizing ys with
  | nil => simp [eq_comm]
  | cons x xs ih =>
      simp only [List.mapM_cons, Option.bind_eq_bind, Option.bind_eq_some_iff, ih,
        List.forall₂_cons_left_iff]
      grind

/-- The lexemes are read as a chain of the links. -/
def Links (op : Operator) (fuel : Nat) (lexemes : List Lexeme) (fs : List Formula) : Prop :=
  ∃ chunks,
    cut op [] lexemes = some chunks
    ∧ List.Forall₂ (fun chunk f => read fuel op.link chunk = some f) chunks fs

theorem read_chain_eq_some_iff {fuel : Nat} {op : Operator} {lexemes : List Lexeme} {f : Formula}
    : read (fuel + 1) (.chain op) lexemes = some f
      ↔ ∃ fs, Links op fuel lexemes fs ∧ Formula.chain? op fs = some f := by
  simp only [read, Option.bind_eq_some_iff, mapM_eq_some_iff, Links]
  grind

/-- More fuel reads nothing else, by induction on it. -/
theorem read_succ {fuel : Nat} {level : Grammar.Level} {lexemes : List Lexeme} {f : Formula}
    (reads : read fuel level lexemes = some f)
    : read (fuel + 1) level lexemes = some f := by
  induction fuel generalizing level lexemes f with
  | zero => cases reads
  | succ fuel ih =>
      cases level with
      | chain op =>
          obtain ⟨fs, ⟨chunks, cuts, links⟩, chained⟩ := read_chain_eq_some_iff.mp reads
          exact read_chain_eq_some_iff.mpr ⟨fs, ⟨chunks, cuts, links.imp fun _ _ => ih⟩, chained⟩
      | factor =>
          cases lexemes with
          | nil => cases reads
          | cons lexeme rest =>
              cases lexeme with
              | word w =>
                  rw [read] at reads ⊢
                  split at reads
                  · next negated =>
                      obtain ⟨g, inner, rfl⟩ := Option.map_eq_some_iff.mp reads
                      rw [if_pos negated, ih inner]
                      rfl
                  · next other => rwa [if_neg other]
              | opening =>
                  rw [read] at reads ⊢
                  split at reads
                  · split at reads
                    · next query => rwa [if_pos query]
                    · next predicate => rw [if_neg predicate, ih reads]
                  · exact reads
              | operator s | quoted quote s | closing => exact reads

theorem read_mono {fuel more : Nat} {level : Grammar.Level} {lexemes : List Lexeme} {f : Formula}
    (enough : fuel ≤ more) (reads : read fuel level lexemes = some f)
    : read more level lexemes = some f := by
  induction enough with
  | refl => exact reads
  | step _ ih => exact read_succ ih

/-- Nothing is no formula, by induction on the fuel. -/
theorem read_nil (fuel : Nat) (level : Grammar.Level) : read fuel level [] = none := by
  induction fuel generalizing level with
  | zero => rfl
  | succ fuel ih =>
      cases level with
      | factor => rfl
      | chain op => simp [read, cut, ih]

theorem isQuery_append {lexemes : List Lexeme} (nonempty : lexemes ≠ []) (more : List Lexeme)
    : isQuery (lexemes ++ more) = isQuery lexemes := by
  cases lexemes with
  | nil => contradiction
  | cons lexeme rest => cases lexeme <;> rfl

namespace Links

variable {op : Operator} {fuel more : Nat} {lexemes rest : List Lexeme} {fs gs : List Formula}

theorem mono (links : Links op fuel lexemes fs) (enough : fuel ≤ more)
    : Links op more lexemes fs := by
  obtain ⟨chunks, cuts, reads⟩ := links
  exact ⟨chunks, cuts, reads.imp fun _ _ => read_mono enough⟩

theorem ne_nil (links : Links op fuel lexemes fs) : fs ≠ [] := by
  obtain ⟨chunks, cuts, reads⟩ := links
  rintro rfl
  exact cut_ne_nil cuts (List.forall₂_nil_right_iff.mp reads)

theorem lexemes_ne_nil (links : Links op fuel lexemes fs) : lexemes ≠ [] := by
  rintro rfl
  obtain ⟨chunks, cuts, reads⟩ := links
  obtain ⟨-, rfl⟩ := cut_nil_eq_some_iff.mp cuts
  obtain ⟨f, _, reads, -⟩ := List.forall₂_cons_left_iff.mp reads
  rw [read_nil] at reads
  cases reads

/-- Chains with the connective between them are one chain. -/
theorem append (first : Links op fuel lexemes fs) (second : Links op fuel rest gs)
    : Links op fuel (lexemes ++ .word op.keyword :: rest) (fs ++ gs) := by
  obtain ⟨chunks, cuts, reads⟩ := first
  obtain ⟨later, behind, readsBehind⟩ := second
  have connective : Lexeme.isConnective op (.word op.keyword) = true :=
    Grammar.isKeyword_keyword op
  exact ⟨chunks ++ later, cut_connective connective cuts behind, List.rel_append reads readsBehind⟩

/-- A disjunction in parentheses is a factor. -/
theorem group {f : Formula} (links : Links .or fuel lexemes fs)
    (predicate : isQuery lexemes = false) (chained : Formula.chain? .or fs = some f)
    : Links .and (fuel + 2) (group lexemes) [f] := by
  have reads : read (fuel + 1) (.chain .or) lexemes = some f :=
    read_chain_eq_some_iff.mpr ⟨fs, links, chained⟩
  obtain ⟨chunks, cuts, -⟩ := links
  have enclosed : enclosed? (lexemes ++ [.closing]) = some lexemes := by simp [enclosed?, cuts]
  refine ⟨_, cut_group cuts .and, .cons ?_ .nil⟩
  rw [Operator.link, Predicate.group, read, enclosed]
  simp only [predicate, Bool.false_eq_true, if_false]
  exact reads

/-- The last link is what the last chunk is read as. -/
theorem eq_append {early : List Formula} {last : Formula}
    (links : Links op fuel lexemes (early ++ [last]))
    : ∃ outer chunk,
        cut op [] lexemes = some (outer ++ [chunk])
        ∧ List.Forall₂ (fun chunk f => read fuel op.link chunk = some f) outer early
        ∧ read fuel op.link chunk = some last := by
  obtain ⟨chunks, cuts, reads⟩ := links
  obtain ⟨outer, chunk, rfl⟩ : ∃ outer chunk, chunks = outer ++ [chunk] :=
    ⟨_, _, (List.dropLast_append_getLast (cut_ne_nil cuts)).symm⟩
  rw [← List.forall₂_reverse_iff, List.reverse_concat, List.reverse_concat, List.forall₂_cons,
    List.forall₂_reverse_iff] at reads
  exact ⟨outer, chunk, cuts, reads.2, reads.1⟩

/-- A disjunction in parentheses behind the word and is asked with the last link in front of it. -/
theorem and_group {early : List Formula} {last q : Formula}
    (first : Links .or (fuel + 1) lexemes (early ++ [last])) (enough : more + 2 ≤ fuel)
    (second : Links .or more rest gs) (predicate : isQuery rest = false)
    (chained : Formula.chain? .or gs = some q)
    : ∃ f,
        Links .or (fuel + 1) (lexemes ++ .word Operator.and.keyword :: Predicate.group rest)
          (early ++ [f])
        ∧ ∀ row, f.Holds row ↔ last.Holds row ∧ q.Holds row := by
  obtain ⟨outer, chunk, cuts, readsEarly, readsLast⟩ := first.eq_append
  obtain ⟨fs, links, chainedLast⟩ := read_chain_eq_some_iff.mp readsLast
  have both := links.append ((second.group predicate chained).mono enough)
  obtain ⟨f, chainedBoth⟩ := Formula.chain?_isSome .and both.ne_nil
  have readsBoth := read_chain_eq_some_iff.mpr ⟨_, both, chainedBoth⟩
  have whole : cut .or [] (.word Operator.and.keyword :: Predicate.group rest)
      = some [.word Operator.and.keyword :: Predicate.group rest] := by
    obtain ⟨chunks, balanced, -⟩ := second
    exact cut_cons_eq_some_iff.mpr
      ⟨[], _, @nest_connective .and _ (by decide), cut_group balanced .or,
        extend_cons (by decide) _⟩
  refine ⟨f, ⟨_, cut_append cuts whole, List.rel_append readsEarly (.cons readsBoth .nil)⟩, ?_⟩
  intro row
  rw [Formula.holds_conjunction chainedBoth, Formula.holds_conjunction chainedLast]
  simp [or_imp, forall_and]

end Links

end SqlAssembly.Predicate
