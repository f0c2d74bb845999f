import SqlAssembly.Proofs.Condition.Parsing

/-! What criteria ask of a row. Their predicate parses, and it holds of exactly the rows that
satisfy the criteria, whatever texts the values are.
-/

namespace SqlAssembly

open Grammar
open Reading (Reads valueText)

-----------------------------------------------------------------------------------------
-- What criteria ask
-----------------------------------------------------------------------------------------

/-- The field has the text of the value, or of one value in the list. What operator texts ask is
not judged.
-/
def Condition.Holds (row : Text → Text) (field : Text) : Condition → Prop
  | literal _ => False
  | scalar value => row field = valueText value
  | list values => ∃ value ∈ values, row field = valueText value

/-- The conditions of a group with their fields. A raw predicate has none. -/
def Group.terms : Option Group → List (Text × Condition)
  | some (.fields terms) => terms
  | _ => []

/-- Every condition of the first group holds, and one of the second if there are any. -/
def Criteria.Holds (row : Text → Text) (criteria : Criteria) : Prop :=
  (∀ term ∈ Group.terms criteria.all, term.2.Holds row term.1)
  ∧ (Group.terms criteria.any ≠ []
      → ∃ term ∈ Group.terms criteria.any, term.2.Holds row term.1)

/-- The predicates of conditions on their fields. -/
def termPredicates (terms : List (Text × Condition)) : List Text :=
  terms.map fun term => term.2.predicate term.1

/-- Plain conditions on fields with plain names. -/
def StructuredTerms (terms : List (Text × Condition)) : Prop :=
  ∀ term ∈ terms, isField term.1 = true ∧ term.2.Plain

/-- The group is absent or lists plain conditions by field. -/
def Group.Structured : Option Group → Prop
  | none => True
  | some (.raw _) => False
  | some (.fields terms) => StructuredTerms terms

instance (group : Option Group) : Decidable (Group.Structured group) :=
  match group with
  | none => isTrue trivial
  | some (.raw _) => isFalse id
  | some (.fields terms) =>
      inferInstanceAs (Decidable (∀ term ∈ terms, isField term.1 = true ∧ term.2.Plain))

/-- Neither group is raw. -/
structure Criteria.Structured (criteria : Criteria) : Prop where
  all : Group.Structured criteria.all
  any : Group.Structured criteria.any

theorem Group.Structured.terms {group : Option Group} (structured : Group.Structured group)
    : StructuredTerms (Group.terms group) := by
  rcases group with _ | sql | terms
  · exact fun _ member => absurd member List.not_mem_nil
  · exact absurd structured id
  · exact structured

theorem Group.Structured.predicates {group : Option Group} (structured : Group.Structured group)
    : Criteria.groupPredicates group
      = termPredicates (Group.terms group) := by
  rcases group with _ | sql | terms
  · rfl
  · exact absurd structured id
  · rfl

namespace Grammar

/-- The expression of a plain condition means what the condition asks. -/
theorem holds_conditionExpression (row : Text → Text) {field : Text} {condition : Condition}
    (plain : condition.Plain)
    : (conditionExpression field condition).holds row = true ↔ condition.Holds row field := by
  cases condition with
  | literal sql => exact absurd plain id
  | scalar value =>
      rw [conditionExpression, Expression.holds, beq_iff_eq, Condition.Holds]
  | list values =>
      cases values with
      | nil =>
          have nowhere : (conditionExpression field (.list [])).holds row = false := rfl
          simp [nowhere, Condition.Holds]
      | cons first values =>
          change List.contains ((first :: values).map valueText) (row field) = true ↔ _
          rw [List.contains_iff_mem, List.mem_map]
          exact exists_congr fun value => and_congr_right fun _ => eq_comm

-----------------------------------------------------------------------------------------
-- Texts that parse
-----------------------------------------------------------------------------------------

/-- Tokens that are understood as a disjunction are parsed, when the fuel suffices. -/
theorem parse_eq {sql : Text} {tokens : List Token} {need : Nat} {e : Expression}
    (scans : Scans sql tokens) (understood : Understood (.chain .or) need tokens e)
    (nonempty : 0 < tokens.length) (enough : need ≤ 3 * (tokens.length + 1))
    : parse sql = some e := by
  have whole := scans.tokens?_eq
  cases tokens with
  | nil => exact absurd nonempty (Nat.lt_irrefl 0)
  | cons token tokens =>
      have result := understood _ [] enough ⟨rfl, rfl⟩
      rw [List.append_nil] at result
      simp only [parse, whole, result]

/-- There are no tokens in the empty text. -/
theorem ne_nil_of_scans {sql : Text} {tokens : List Token} (scans : Scans sql tokens)
    (nonempty : 0 < tokens.length)
    : sql ≠ [] := by
  rintro rfl
  obtain ⟨parts, reads, scanned⟩ := scans
  have ended := scanned [] trivial
  rw [Reads.nil_iff reads |>.mp rfl] at ended
  have none : tokens = [] := by simpa [tokensFrom, wordToken] using ended
  simp [none] at nonempty

/-- Terms with their tokens and expressions. -/
def termLinks (terms : List (Text × Condition)) : List (List Token × Expression) :=
  terms.map fun term => (conditionTokens term.1 term.2, conditionExpression term.1 term.2)

section Links

variable {terms : List (Text × Condition)} (row : Text → Text)
  (structured : StructuredTerms terms)

include structured

theorem understood_termLinks : ∀ link ∈ termLinks terms, Understood .factor 1 link.1 link.2 := by
  intro link member
  obtain ⟨term, listed, rfl⟩ := List.mem_map.mp member
  exact understood_condition (structured term listed).1 (structured term listed).2

theorem length_le_termLinks (op : Operator)
    : terms.length ≤ (chainTokens op (termLinks terms)).length := by
  have each : ∀ link ∈ termLinks terms, link.1 ≠ [] := by
    intro link member
    obtain ⟨⟨field, condition⟩, listed, rfl⟩ := List.mem_map.mp member
    have plain := (structured _ listed).2
    rcases condition with sql | value | _ | values
    · exact absurd plain id
    · exact List.cons_ne_nil _ _
    · exact List.cons_ne_nil _ _
    · exact List.cons_ne_nil _ _
  simpa [termLinks] using length_le_chainTokens op each

theorem length_pos_termLinks (nonempty : terms ≠ []) (op : Operator)
    : 0 < (chainTokens op (termLinks terms)).length :=
  Nat.lt_of_lt_of_le (List.length_pos_iff.mpr nonempty) (length_le_termLinks structured op)

theorem scans_termLinks {op : Operator} {separator : Text}
    (scans : ScansClosed separator [.word op.keyword])
    (bare : ∀ more, startsBare (separator ++ more) = true)
    : Scans (Text.join separator (termPredicates terms))
        (chainTokens op (termLinks terms)) := by
  have joined := ScansBefore.join scans bare terms fun term member =>
    scans_condition (structured term member).1 (structured term member).2
  simpa [chainTokens, termLinks, termPredicates, Function.comp_def] using joined

theorem holds_all
    : (Expression.chain .and ((termLinks terms).map (·.2))).holds row = true
      ↔ ∀ term ∈ terms, term.2.Holds row term.1 := by
  simp only [Expression.holds_chain_and, termLinks, List.map_map, List.all_map, List.all_eq_true]
  exact forall₂_congr fun term member => holds_conditionExpression row (structured term member).2

theorem holds_any (nonempty : terms ≠ [])
    : (Expression.chain .or ((termLinks terms).map (·.2))).holds row = true
      ↔ ∃ term ∈ terms, term.2.Holds row term.1 := by
  rw [Expression.holds_chain_or row (by simpa [termLinks] using nonempty)]
  simp only [termLinks, List.map_map, List.any_map, List.any_eq_true]
  refine exists_congr fun term => and_congr_right fun member => ?_
  exact holds_conditionExpression row (structured term member).2

/-- A conjunction of terms, as text and as tokens. -/
theorem scans_all
    : Scans (Text.join " and " (termPredicates terms))
        (chainTokens .and (termLinks terms)) :=
  scans_termLinks structured (.fixed rfl fun _ => rfl) fun _ => rfl

/-- A disjunction of terms, as text and as tokens. -/
theorem scans_any
    : Scans (Text.join " or " (termPredicates terms))
        (chainTokens .or (termLinks terms)) :=
  scans_termLinks structured (.fixed rfl fun _ => rfl) fun _ => rfl

theorem understood_all (nonempty : terms ≠ [])
    : Understood (.chain .and) (1 + terms.length) (chainTokens .and (termLinks terms))
        (.chain .and ((termLinks terms).map (·.2))) := by
  have links : termLinks terms ≠ [] := by simpa [termLinks] using nonempty
  simpa [termLinks] using Understood.chain .and links (understood_termLinks structured)

theorem understood_any (nonempty : terms ≠ [])
    : Understood (.chain .or) (2 + terms.length) (chainTokens .or (termLinks terms))
        (.chain .or ((termLinks terms).map (·.2))) := by
  have links : termLinks terms ≠ [] := by simpa [termLinks] using nonempty
  have each : ∀ link ∈ termLinks terms, Understood (.chain .and) 2 link.1 link.2 :=
    fun link member => (understood_termLinks structured link member).single .and
  simpa [termLinks] using Understood.chain .or links each

/-- Terms of which all must hold parse to their conjunction. -/
theorem parse_all (nonempty : terms ≠ [])
    : parse (Text.join " and " (termPredicates terms))
      = some (.chain .and ((termLinks terms).map (·.2))) := by
  have count := List.length_pos_iff.mpr nonempty
  have size := length_le_termLinks structured .and
  have understood := (understood_all structured nonempty).single .or
  exact parse_eq (scans_all structured) understood (by omega) (by omega)

/-- Terms of which one must hold parse to their disjunction. -/
theorem parse_any (nonempty : terms ≠ [])
    : parse (Text.join " or " (termPredicates terms))
      = some (.chain .or ((termLinks terms).map (·.2))) := by
  have count := List.length_pos_iff.mpr nonempty
  have size := length_le_termLinks structured .or
  have understood := understood_any structured nonempty
  exact parse_eq (scans_any structured) understood (by omega) (by omega)

end Links

/-- Terms of which all must hold, with those of which one must hold as a last link. -/
def bothLinks (terms others : List (Text × Condition)) : List (List Token × Expression) :=
  termLinks terms
    ++ [(.symbol '(' :: (chainTokens .or (termLinks others) ++ [.symbol ')']),
          .chain .or ((termLinks others).map (·.2)))]

section Both

variable {terms others : List (Text × Condition)} (structured : StructuredTerms terms)
  (otherStructured : StructuredTerms others) (nonempty : terms ≠ []) (given : others ≠ [])

include structured otherStructured

include nonempty in
/-- The tokens of both groups are those of the conjunction with the last link. -/
theorem scans_both
    : Scans
        (Text.join " and " (termPredicates terms) ++ " and (".toList
          ++ Text.join " or " (termPredicates others) ++ ")".toList)
        (chainTokens .and (bothLinks terms others)) := by
  have opening : ScansClosed " and (".toList [.word Operator.and.keyword, .symbol '('] :=
    .fixed rfl fun _ => rfl
  have closing : ScansClosed ")".toList [.symbol ')'] := .fixed rfl fun _ => rfl
  have closed : Scans _ _ := (scans_any otherStructured).append closing.closed rfl
  have whole : Scans _ _ := (scans_all structured).append (opening.closed_append closed) rfl
  have links : termLinks terms ≠ [] := by simpa [termLinks] using nonempty
  rw [bothLinks, chainTokens_concat links, List.append_assoc, List.append_assoc]
  exact whole

include given in
/-- The disjunction is a factor for its parentheses, so every link is one. -/
theorem understood_both
    : Understood (.chain .and) (3 + others.length + (terms.length + 1))
        (chainTokens .and (bothLinks terms others))
        (.chain .and ((bothLinks terms others).map (·.2))) := by
  have each : ∀ link ∈ bothLinks terms others,
      Understood .factor (3 + others.length) link.1 link.2 := by
    intro link member
    rcases List.mem_append.mp member with listed | last
    · exact (understood_termLinks structured link listed).mono (by omega)
    · rw [List.mem_singleton.mp last]
      exact (understood_any otherStructured given).parenthesized.mono (by omega)
  have links : bothLinks terms others ≠ [] := by simp [bothLinks]
  simpa [bothLinks, termLinks] using Understood.chain .and links each

include nonempty given in
/-- Both groups parse to a conjunction whose last link is the disjunction. -/
theorem parse_both
    : parse
        (Text.join " and " (termPredicates terms) ++ " and (".toList
          ++ Text.join " or " (termPredicates others) ++ ")".toList)
      = some (.chain .and ((bothLinks terms others).map (·.2))) := by
  have links : termLinks terms ≠ [] := by simpa [termLinks] using nonempty
  have size := length_le_termLinks structured .and
  have otherSize := length_le_termLinks otherStructured .or
  have lengths
      : (chainTokens .and (bothLinks terms others)).length
        = (chainTokens .and (termLinks terms)).length
          + (chainTokens .or (termLinks others)).length + 3 := by
    simp only [bothLinks, chainTokens_concat links, List.length_append, List.length_cons,
      List.length_nil]
    omega
  have understood := (understood_both structured otherStructured given).single .or
  exact parse_eq (scans_both structured otherStructured nonempty) understood (by omega) (by omega)

include given in
theorem holds_both (row : Text → Text)
    : (Expression.chain .and ((bothLinks terms others).map (·.2))).holds row = true
      ↔ (∀ term ∈ terms, term.2.Holds row term.1) ∧ ∃ term ∈ others, term.2.Holds row term.1 := by
  rw [← holds_all row structured, ← holds_any row otherStructured given, bothLinks,
    List.map_append, Expression.holds_chain_and, Expression.holds_chain_and, List.all_append,
    Bool.and_eq_true]
  simp

end Both

end Grammar

-----------------------------------------------------------------------------------------
-- The predicate of criteria
-----------------------------------------------------------------------------------------

namespace Criteria

variable {criteria : Criteria}

/-- The predicate is empty exactly when there are no terms. -/
theorem predicate_eq_nil_iff (structured : criteria.Structured)
    : criteria.predicate = []
      ↔ Group.terms criteria.all = [] ∧ Group.terms criteria.any = [] := by
  have all := structured.all.terms
  have any := structured.any.terms
  rw [predicate, structured.all.predicates, structured.any.predicates]
  generalize Group.terms criteria.all = terms at all ⊢
  generalize Group.terms criteria.any = others at any ⊢
  rcases terms with _ | ⟨term, terms⟩ <;> rcases others with _ | ⟨other, others⟩
  · simp [termPredicates]
  · have filled := length_pos_termLinks any (List.cons_ne_nil other others) .or
    simpa [termPredicates] using ne_nil_of_scans (scans_any any) filled
  · have filled := length_pos_termLinks all (List.cons_ne_nil term terms) .and
    simpa [termPredicates] using ne_nil_of_scans (scans_all all) filled
  · simp [termPredicates]

/-- The predicate parses to an expression that asks what the criteria ask. -/
theorem predicate_parses (structured : criteria.Structured)
    : ∃ e, parse criteria.predicate = some e
        ∧ ∀ row, e.holds row = true ↔ criteria.Holds row := by
  have all := structured.all.terms
  have any := structured.any.terms
  rw [predicate, structured.all.predicates, structured.any.predicates]
  simp only [Criteria.Holds]
  generalize Group.terms criteria.all = terms at all ⊢
  generalize Group.terms criteria.any = others at any ⊢
  rcases terms with _ | ⟨term, terms⟩ <;> rcases others with _ | ⟨other, others⟩
  · exact ⟨.always, rfl, by simp [Expression.holds]⟩
  · refine ⟨_, parse_any any (List.cons_ne_nil _ _), fun row => ?_⟩
    simpa using holds_any row any (List.cons_ne_nil _ _)
  · refine ⟨_, parse_all all (List.cons_ne_nil _ _), fun row => ?_⟩
    simpa using holds_all row all
  · have given := List.cons_ne_nil other others
    refine ⟨_, parse_both all any (List.cons_ne_nil term terms) given, fun row => ?_⟩
    simpa using holds_both all any given row

end Criteria

/-- For criteria without raw groups the predicate parses, and what was parsed holds of exactly the
rows that satisfy the criteria. The where clause is empty when there are no terms, and otherwise it
is the predicate behind its keyword.
-/
theorem predicate_means_criteria (criteria : Criteria) (structured : criteria.Structured)
    : (∃ e, parse criteria.predicate = some e
        ∧ ∀ row, e.holds row = true ↔ criteria.Holds row)
      ∧ (Filter.clause (some (.structured criteria)) = []
          ↔ Group.terms criteria.all = [] ∧ Group.terms criteria.any = [])
      ∧ (Filter.clause (some (.structured criteria)) ≠ []
          → Filter.clause (some (.structured criteria))
            = "where ".toList ++ criteria.predicate) := by
  have clause
      : Filter.clause (some (.structured criteria))
        = if criteria.predicate.isEmpty then [] else "where ".toList ++ criteria.predicate := rfl
  rw [clause, ← Criteria.predicate_eq_nil_iff structured]
  by_cases empty : criteria.predicate = []
  · rw [if_pos (List.isEmpty_iff.mpr empty)]
    refine ⟨Criteria.predicate_parses structured, ?_, fun filled => absurd rfl filled⟩
    exact ⟨fun _ => empty, fun _ => rfl⟩
  · rw [if_neg (mt List.isEmpty_iff.mp empty)]
    refine ⟨Criteria.predicate_parses structured, ?_, fun _ => rfl⟩
    have keyword : "where ".toList ++ criteria.predicate ≠ [] :=
      List.append_ne_nil_of_left_ne_nil (by decide) _
    exact ⟨fun none => absurd none keyword, fun none => absurd none empty⟩

/-- Values that look like the end of a literal, an operator or a parenthesis. -/
def hostileCriteria : Criteria where
  all :=
    some (.fields
      [("name", .scalar (.text "x' or 1 = 1 or name = 'y")),
        ("id", .list [.text ") or (", .text "\'", .number (.natural 7)])])
  any := some (.fields [("kind", .scalar (.text "' and '")), ("parent", .list [])])

theorem hostile_predicate_means_criteria
    : hostileCriteria.Structured
      ∧ (∃ e, parse hostileCriteria.predicate = some e
          ∧ ∀ row, e.holds row = true ↔ hostileCriteria.Holds row)
      ∧ Filter.clause (some (.structured hostileCriteria))
        = "where ".toList ++ hostileCriteria.predicate := by
  have structured : hostileCriteria.Structured := ⟨by decide, by decide⟩
  obtain ⟨meaning, empty, filled⟩ := predicate_means_criteria hostileCriteria structured
  exact ⟨structured, meaning, filled fun none => absurd (empty.mp none).1 (List.cons_ne_nil _ _)⟩

end SqlAssembly
