import SqlAssembly.Proofs.Condition.Meaning
import SqlAssembly.Proofs.Statement.InsertDecoding

/-! The row that an upsert inserts when its lookup found none. It has the values to write,
overwritten by those that the criteria ask a field to equal, and so the lookup would find it.
-/

namespace SqlAssembly

open Reading (Ends valueText)

-----------------------------------------------------------------------------------------
-- What criteria ask
-----------------------------------------------------------------------------------------

/-- The value that the condition asks its field to equal. -/
def Condition.scalar? : Condition → Option Json
  | scalar value => some value
  | _ => none

namespace Criteria

/-- The value that the last term on the field asks it to equal, among those that must all hold. -/
def asked? (criteria : Criteria) (field : Text) : Option Json :=
  (Group.terms criteria.all).reverse.findSome? fun term =>
    if term.1 = field then term.2.scalar? else none

/-- The fields of the terms that must all hold and ask for a value, in order. -/
def askedFields (criteria : Criteria) : List Text :=
  (Group.terms criteria.all).filterMap fun term => term.2.scalar?.map fun _ => term.1

/-- Only the terms that must all hold and ask for a value. -/
def scalarsOnly (criteria : Criteria) : Criteria where
  all := some (.fields ((Group.terms criteria.all).filter fun term => term.2.scalar?.isSome))
  any := none

theorem scalars_eq (criteria : Criteria)
    : criteria.scalars
      = (Group.terms criteria.all).filterMap fun term => term.2.scalar?.map (term.1, ·) := by
  rcases criteria with ⟨_ | sql | terms, any⟩
  · rfl
  · rfl
  · refine List.filterMap_congr fun term _ => ?_
    obtain ⟨field, condition⟩ := term
    cases condition <;> rfl

theorem keys_scalars (criteria : Criteria)
    : Values.keys criteria.scalars = criteria.askedFields := by
  simp [scalars_eq, Values.keys, List.map_filterMap, askedFields, Function.comp_def]

/-- The last value asked for a field is found from behind, by induction on the terms from there. -/
theorem get?_scalars (criteria : Criteria) (field : Text)
    : Values.get? criteria.scalars.reverse field = criteria.asked? field := by
  rw [scalars_eq, ← List.filterMap_reverse, asked?]
  induction (Group.terms criteria.all).reverse with
  | nil => rfl
  | cons term terms ih =>
      rw [List.findSome?_cons, ← ih]
      cases asks : term.2.scalar? with
      | none => simp [asks]
      | some value =>
          simp only [List.filterMap_cons, asks, Option.map_some, Values.get?_cons]
          by_cases same : term.1 = field
          · simp [same]
          · simp [same, Ne.symm same]

theorem scalars_scalarsOnly (criteria : Criteria)
    : criteria.scalarsOnly.scalars = criteria.scalars := by
  rw [scalars_eq, scalars_eq, scalarsOnly, Group.terms, List.filterMap_filter]
  refine List.filterMap_congr fun term _ => ?_
  cases term.2.scalar? <;> rfl

/-- The criteria do nothing but ask fields to equal values that are not null, and no field to equal
two texts.
-/
structure Equalities (criteria : Criteria) : Prop where
  fields : ∀ sql, criteria.all ≠ some (.raw sql)
  given
    : ∀ term ∈ Group.terms criteria.all, ∃ value, term.2 = .scalar value ∧ value.isNull = false
  alone : criteria.any = none ∨ criteria.any = some (.fields [])
  agree
    : ∀ field value other,
        (field, value) ∈ criteria.scalars
        → (field, other) ∈ criteria.scalars
        → valueText value = valueText other

namespace Equalities

variable {criteria : Criteria}

/-- The terms are the equalities, by induction on them. -/
theorem terms_eq (equalities : criteria.Equalities)
    : Group.terms criteria.all
      = criteria.scalars.map fun entry => (entry.1, .scalar entry.2) := by
  have given := equalities.given
  rw [scalars_eq]
  generalize Group.terms criteria.all = terms at given
  induction terms with
  | nil => rfl
  | cons term terms ih =>
      obtain ⟨field, condition⟩ := term
      obtain ⟨value, same, -⟩ := given _ List.mem_cons_self
      obtain rfl : condition = .scalar value := same
      exact congrArg (_ :: ·) (ih fun t member => given t (List.mem_cons_of_mem _ member))

theorem notNull (equalities : criteria.Equalities) {field : Text} {value : Json}
    (asked : (field, value) ∈ criteria.scalars)
    : value.isNull = false := by
  have member : (field, Condition.scalar value) ∈ Group.terms criteria.all := by
    rw [equalities.terms_eq]
    exact List.mem_map_of_mem asked
  obtain ⟨other, same, notNull⟩ := equalities.given _ member
  cases same
  exact notNull

/-- The predicate is the conjunction of the equalities. -/
theorem predicate_eq (equalities : criteria.Equalities)
    : criteria.predicate
      = Text.join " and "
          (criteria.scalars.map fun entry =>
            entry.1 ++ " = ".toList ++ Literal.quote entry.2) := by
  have any : groupPredicates criteria.any = [] := by
    rcases equalities.alone with none | none <;> rw [none] <;> rfl
  have all : groupPredicates criteria.all = termPredicates (Group.terms criteria.all) := by
    rcases found : criteria.all with _ | sql | terms
    · rfl
    · exact absurd found (equalities.fields sql)
    · rfl
  have terms : groupPredicates criteria.all
      = criteria.scalars.map fun entry => entry.1 ++ " = ".toList ++ Literal.quote entry.2 := by
    rw [all, equalities.terms_eq, termPredicates, List.map_map]
    rfl
  rw [predicate, any, terms]
  cases criteria.scalars <;> rfl

/-- Equalities of plain identifiers are structured. -/
theorem structured (equalities : criteria.Equalities)
    (plain : ∀ field ∈ criteria.askedFields, Grammar.isField field = true)
    : criteria.Structured where
  all := by
    have each : StructuredTerms (Group.terms criteria.all) := by
      rw [equalities.terms_eq]
      intro term member
      obtain ⟨entry, asked, rfl⟩ := List.mem_map.mp member
      refine ⟨plain _ ?_, equalities.notNull asked⟩
      rw [← keys_scalars]
      exact List.mem_map_of_mem asked
    rcases found : criteria.all with _ | sql | terms
    · trivial
    · exact absurd found (equalities.fields sql)
    · rwa [found] at each
  any := by
    rcases equalities.alone with none | none <;> rw [none]
    · trivial
    · exact fun _ member => absurd member List.not_mem_nil

/-- The predicate is empty or ends with a literal. -/
theorem ends_predicate (equalities : criteria.Equalities)
    : criteria.predicate = [] ∨ Ends criteria.predicate := by
  rw [equalities.predicate_eq]
  cases scalars : criteria.scalars with
  | nil => exact .inl rfl
  | cons entry rest =>
      exact .inr (Ends.join " and ".toList (List.cons_ne_nil entry rest) fun e _ =>
        Ends.append (Ends.quote e.2))

end Equalities

end Criteria

-----------------------------------------------------------------------------------------
-- The lookup
-----------------------------------------------------------------------------------------

/-- The predicate that asks fields to equal what stands in cells. -/
def equalityText (terms : List (Text × Cell)) : Text :=
  Text.join " and " (terms.map fun term => term.1 ++ " = ".toList ++ term.2.text)

/-- The line of the lookup in a table for a predicate. -/
def lookupLine (table predicate : Text) : Text :=
  "select id from ".toList ++ (Text.trim table
    ++ ((if predicate.isEmpty then [] else " where ".toList ++ predicate)
      ++ " limit 0, 1".toList))

namespace UpdateOrInsert

variable {s : UpdateOrInsert}

/-- The lookup of a named table is one line for its predicate. -/
theorem lookup_toSql (named : Text.trim s.table ≠ [])
    (ends : s.criteria.predicate = [] ∨ Ends s.criteria.predicate)
    : s.lookup.toSql = .ok (lookupLine s.table s.criteria.predicate) := by
  have clause : (Clause.filter (some (.structured s.criteria))).assemble
      = if s.criteria.predicate.isEmpty then [] else "where ".toList ++ s.criteria.predicate := rfl
  have rendered : s.lookup.toSql = .ok (Text.joinParts
      ["select id", "from", Text.trim s.table,
        (Clause.filter (some (.structured s.criteria))).assemble, [], [], "limit 0, 1", []]) := by
    rw [lookup, Select.toSql, requireTable_ok named]
    rfl
  rw [rendered, clause]
  unfold lookupLine
  generalize s.criteria.predicate = predicate at ends
  have condition : Text.trim (if predicate.isEmpty then [] else "where ".toList ++ predicate)
      = if predicate.isEmpty then [] else "where ".toList ++ predicate := by
    split
    · rfl
    · next filled =>
        have last := ends.resolve_left (mt List.isEmpty_iff.mpr filled)
        exact Reading.trim_eq rfl last.append
  have table := Text.trim_trim s.table
  obtain ⟨c, name, named⟩ := List.exists_cons_of_ne_nil named
  rw [named] at table ⊢
  rw [Text.joinParts_eq]
  -- The parts that are nothing are left out, and without a predicate so is the condition.
  · cases predicate with
    | nil =>
        change Except.ok (Text.join " " ["select id", "from", c :: name, "limit 0, 1"]) = _
        rw [Text.join_cons]
        rfl
    | cons d predicate =>
        change Except.ok (Text.join " " ["select id", "from", c :: name,
          "where ".toList ++ d :: predicate, "limit 0, 1"]) = _
        rw [Text.join_cons]
        rfl
  · simp only [List.forall_mem_cons]
    exact ⟨rfl, rfl, table, condition, rfl, rfl, rfl, rfl, List.forall_mem_nil _⟩

-----------------------------------------------------------------------------------------
-- The inserted row
-----------------------------------------------------------------------------------------

/-- What is written under a column: the last value that the criteria ask for, or else the value to
write.
-/
def written? (s : UpdateOrInsert) (column : Text) : Option Json :=
  (s.criteria.asked? column).or (s.values.get? column)

theorem insertedValues_eq (s : UpdateOrInsert)
    : s.insertedValues = s.values.overwrite s.criteria.scalars :=
  rfl

theorem get?_insertedValues (s : UpdateOrInsert) (column : Text)
    : s.insertedValues.get? column = s.written? column := by
  rw [insertedValues_eq, Values.get?_overwrite]
  exact congrArg (Option.or · _) (s.criteria.get?_scalars column)

theorem keys_insertedValues (s : UpdateOrInsert)
    : s.insertedValues.keys
      = s.values.keys ++ (s.criteria.askedFields.removeAll s.values.keys).eraseDups := by
  rw [insertedValues_eq, Values.keys_overwrite, Criteria.keys_scalars]

theorem nodup_insertedValues (distinct : s.values.keys.Nodup) : s.insertedValues.keys.Nodup :=
  Values.nodup_keys_overwrite distinct s.criteria.scalars

theorem mem_insertedValues (distinct : s.values.keys.Nodup) {column : Text} {value : Json}
    : (column, value) ∈ s.insertedValues ↔ s.written? column = some value := by
  rw [Values.mem_iff_get? (nodup_insertedValues distinct), get?_insertedValues]

/-- For every term that asks a field for a value, the row has one of these values under the field.
-/
theorem mem_insertedValues_of_asked {field : Text} {value : Json}
    (asked : (field, value) ∈ s.criteria.scalars)
    : ∃ other, (field, other) ∈ s.criteria.scalars ∧ (field, other) ∈ s.insertedValues := by
  have some : (s.criteria.scalars.reverse.lookup field).isSome = true :=
    List.lookup_isSome_iff.mpr ⟨(field, value), List.mem_reverse.mpr asked, beq_self_eq_true field⟩
  obtain ⟨other, last⟩ := Option.isSome_iff_exists.mp some
  refine ⟨other, List.mem_reverse.mp (Values.mem_of_get? last), Values.mem_of_get? ?_⟩
  rw [insertedValues_eq, Values.get?_overwrite, last]
  rfl

theorem validate_eq_ok_iff
    : s.validate = .ok () ↔ Text.trim s.table ≠ [] ∧ s.values.nonNull ≠ [] := by
  by_cases blank : Text.trim s.table = []
  · simp [validate, requireTable_blank blank, blank, bind, Except.bind]
  · rw [validate, requireTable_ok blank]
    by_cases none : s.values.nonNull = [] <;> simp [none, blank, bind, Except.bind]

/-- The insert has a text when there is a table and some column is written a value. -/
theorem insert_renders_iff
    : (∃ line, s.insert.toSql .plain = .ok line)
      ↔ Text.trim s.table ≠ [] ∧ s.insertedValues.nonNull ≠ [] := by
  simp only [insert, Insert.toSql_eq_ok_iff]
  exact ⟨fun ⟨_, named, given, _⟩ => ⟨named, given⟩, fun ⟨named, given⟩ => ⟨_, named, given, rfl⟩⟩

/-- A column is written a value that is not null exactly when the row has such a value. -/
theorem insertedValues_nonNull_iff (distinct : s.values.keys.Nodup)
    : s.insertedValues.nonNull ≠ []
      ↔ ∃ column value, s.written? column = some value ∧ value.isNull = false := by
  have member {column : Text} {value : Json}
      : (column, value) ∈ s.insertedValues.nonNull
        ↔ s.written? column = some value ∧ value.isNull = false := by
    rw [Values.mem_nonNull, mem_insertedValues distinct]
  constructor
  · intro given
    obtain ⟨⟨column, value⟩, found⟩ := List.exists_mem_of_ne_nil _ given
    exact ⟨column, value, member.mp found⟩
  · rintro ⟨column, value, written⟩
    exact List.ne_nil_of_mem (member.mpr written)

/-- Equalities with values that are not null leave every column a value. -/
theorem renders_of_equalities (distinct : s.values.keys.Nodup)
    (equalities : s.criteria.Equalities) (valid : s.validate = .ok ())
    : ∃ line, s.insert.toSql .plain = .ok line := by
  obtain ⟨named, given⟩ := validate_eq_ok_iff.mp valid
  rw [insert_renders_iff, insertedValues_nonNull_iff distinct]
  refine ⟨named, ?_⟩
  obtain ⟨⟨column, value⟩, member⟩ := List.exists_mem_of_ne_nil _ given
  obtain ⟨among, notNull⟩ := Values.mem_nonNull.mp member
  cases asks : s.criteria.asked? column with
  | none =>
      refine ⟨column, value, ?_, notNull⟩
      rw [written?, asks, (Values.mem_iff_get? distinct).mp among]
      rfl
  | some other =>
      have asked : (column, other) ∈ s.criteria.scalars := by
        rw [← Criteria.get?_scalars] at asks
        exact List.mem_reverse.mp (Values.mem_of_get? asks)
      refine ⟨column, other, ?_, equalities.notNull asked⟩
      rw [written?, asks]
      rfl

end UpdateOrInsert

-----------------------------------------------------------------------------------------
-- The lookup finds the row
-----------------------------------------------------------------------------------------

/-- A row has the texts that the body writes. -/
def InsertBody.Describes (body : InsertBody) (row : Text → Text) : Prop :=
  ∀ cells ∈ body.rows, ∀ entry ∈ body.columns.zip cells, entry.2 = .literal (row entry.1)

theorem Values.zip_body (values : Values)
    : (values.map (·.1)).zip (values.map fun entry => Cell.literal (valueText entry.2))
      = values.map fun entry => (entry.1, .literal (valueText entry.2)) :=
  List.zip_map'

theorem Values.describes_body_iff {values : Values} {row : Text → Text}
    : values.body.Describes row ↔ ∀ entry ∈ values, row entry.1 = valueText entry.2 := by
  simp only [InsertBody.Describes, body, List.mem_singleton, forall_eq, zip_body,
    List.forall_mem_map, Cell.literal.injEq]
  exact forall₂_congr fun _ _ => eq_comm

/-- Under distinct keys there is such a row. -/
theorem Values.exists_described {values : Values} (distinct : values.keys.Nodup)
    : ∃ row, values.body.Describes row := by
  refine ⟨fun column => ((values.get? column).map valueText).getD [], ?_⟩
  rw [describes_body_iff]
  intro entry member
  simp [(mem_iff_get? distinct).mp member]

namespace UpdateOrInsert

open Grammar (isField)
open InsertBody (IsName read?)

variable {s : UpdateOrInsert} {line : Text}

/-- For every term its text is among those that are inserted. -/
theorem inserted_of_asked (equalities : s.criteria.Equalities) {field : Text} {value : Json}
    (asked : (field, value) ∈ s.criteria.scalars)
    : ∃ other, (field, other) ∈ s.insertedValues.nonNull ∧ valueText other = valueText value := by
  obtain ⟨other, also, inserted⟩ := mem_insertedValues_of_asked asked
  exact ⟨other, Values.mem_nonNull.mpr ⟨inserted, equalities.notNull also⟩,
    equalities.agree field other value also asked⟩

/-- The terms of the lookup stand among the columns and literals of the insert. -/
theorem lookup_within_insert (distinct : s.values.keys.Nodup)
    (equalities : s.criteria.Equalities) (rendered : s.insert.toSql .plain = .ok line)
    : ∃ columns cells terms,
        line = insertLine s.table (InsertBody.text ⟨columns, [cells]⟩)
        ∧ columns.Nodup
        ∧ s.lookup.toSql = .ok (lookupLine s.table (equalityText terms))
        ∧ ∀ term ∈ terms, term ∈ columns.zip cells := by
  obtain ⟨named, -, line_eq⟩ := Insert.toSql_eq_ok_iff.mp rendered
  have predicate : s.criteria.predicate
      = equalityText (s.criteria.scalars.map fun entry =>
          (entry.1, .literal (valueText entry.2))) := by
    rw [equalities.predicate_eq, equalityText, List.map_map]
    refine congrArg (Text.join " and ") (List.map_congr_left fun entry member => ?_)
    exact congrArg (entry.1 ++ " = ".toList ++ ·)
      (Reading.quote_eq (equalities.notNull member))
  have lookup := lookup_toSql named equalities.ends_predicate
  rw [predicate] at lookup
  refine ⟨_, _, _, line_eq, Values.nodup_keys_nonNull (nodup_insertedValues distinct), lookup,
    fun term member => ?_⟩
  obtain ⟨⟨field, value⟩, asked, rfl⟩ := List.mem_map.mp member
  obtain ⟨other, inserted, same⟩ := inserted_of_asked equalities asked
  rw [Values.zip_body, ← same]
  exact List.mem_map_of_mem inserted

/-- A plain identifier has no commas, parentheses or quotes. -/
theorem isName_of_isField {field : Text} (plain : isField field = true) : IsName field := by
  intro c member
  have wordChar := List.all_eq_true.mp (Grammar.wordChars_of_isField plain) c member
  rw [InsertBody.isNameChar, Bool.not_eq_true', Bool.eq_false_iff]
  intro special
  simp only [Bool.or_eq_true, beq_iff_eq] at special
  rcases special with ((((rfl | rfl) | rfl) | rfl) | rfl) | rfl <;> revert wordChar <;> decide

/-- The predicate of the lookup holds of every row that the insert describes. -/
theorem lookup_finds_insert (distinct : s.values.keys.Nodup) (equalities : s.criteria.Equalities)
    (names : ∀ column ∈ s.values.keys, IsName column)
    (fields : ∀ field ∈ s.criteria.askedFields, isField field = true)
    (rendered : s.insert.toSql .plain = .ok line)
    : ∃ body content predicate e,
        line = insertLine s.table body
        ∧ read? body = some content
        ∧ s.lookup.toSql = .ok (lookupLine s.table predicate)
        ∧ Grammar.parse predicate = some e
        ∧ (∃ row, content.Describes row)
        ∧ ∀ row, content.Describes row → e.holds row = true := by
  obtain ⟨named, given, line_eq⟩ := Insert.toSql_eq_ok_iff.mp rendered
  have columns : ∀ entry ∈ s.insertedValues.nonNull, IsName entry.1 := by
    intro entry member
    have among : entry.1 ∈ s.insertedValues.keys :=
      List.mem_map_of_mem (Values.mem_nonNull.mp member).1
    rw [keys_insertedValues, List.mem_append, List.mem_eraseDups] at among
    rcases among with own | asked
    · exact names _ own
    · exact isName_of_isField (fields _ (List.mem_filter.mp asked).1)
  have distinctColumns := Values.nodup_keys_nonNull (nodup_insertedValues distinct)
  obtain ⟨e, parsed, holds⟩ := Criteria.predicate_parses (equalities.structured fields)
  refine ⟨_, _, _, e, line_eq, Values.read?_body given columns,
    lookup_toSql named equalities.ends_predicate, parsed,
    Values.exists_described distinctColumns, fun row described => ?_⟩
  rw [Values.describes_body_iff] at described
  rw [holds, Criteria.Holds, equalities.terms_eq]
  constructor
  · intro term member
    obtain ⟨⟨field, value⟩, asked, rfl⟩ := List.mem_map.mp member
    obtain ⟨other, inserted, same⟩ := inserted_of_asked equalities asked
    exact (described _ inserted).trans same
  · intro others
    rcases equalities.alone with none | none <;> exact absurd (by rw [none]; rfl) others

/-- What the row is that an upsert inserts. Its columns are those of the values to write in their
order, and then the fields that the criteria ask for a value, each once and in the order in which
they are asked first. A column has the last value that is asked for, or else the one to write.
So when the criteria only ask for equality with values that agree, the terms of the lookup stand
among the columns and literals of the insert: the lookup finds every row that the insert describes.
-/
structure FallbackRow (s : UpdateOrInsert) : Prop where
  keys
    : s.insertedValues.keys
      = s.values.keys ++ (s.criteria.askedFields.removeAll s.values.keys).eraseDups
  once : s.insertedValues.keys.Nodup
  values
    : ∀ column value,
        (column, value) ∈ s.insertedValues
        ↔ (s.criteria.asked? column).or (s.values.get? column) = some value
  others : { s with criteria := s.criteria.scalarsOnly }.insertedValues = s.insertedValues
  renders : s.criteria.Equalities → s.validate = .ok () → ∃ line, s.insert.toSql .plain = .ok line
  within
    : s.criteria.Equalities
      → ∀ line,
          s.insert.toSql .plain = .ok line
          → ∃ columns cells terms,
              line = insertLine s.table (InsertBody.text ⟨columns, [cells]⟩)
              ∧ columns.Nodup
              ∧ s.lookup.toSql = .ok (lookupLine s.table (equalityText terms))
              ∧ ∀ term ∈ terms, term ∈ columns.zip cells
  found
    : s.criteria.Equalities
      → (∀ column ∈ s.values.keys, IsName column)
      → (∀ field ∈ s.criteria.askedFields, isField field = true)
      → ∀ line,
          s.insert.toSql .plain = .ok line
          → ∃ body content predicate e,
              line = insertLine s.table body
              ∧ read? body = some content
              ∧ s.lookup.toSql = .ok (lookupLine s.table predicate)
              ∧ Grammar.parse predicate = some e
              ∧ (∃ row, content.Describes row)
              ∧ ∀ row, content.Describes row → e.holds row = true

/-- The row that an upsert inserts satisfies the criteria that its lookup missed. -/
theorem fallback_row_satisfies (s : UpdateOrInsert) (distinct : s.values.keys.Nodup)
    : s.FallbackRow where
  keys := keys_insertedValues s
  once := nodup_insertedValues distinct
  values _ _ := mem_insertedValues distinct
  others := by rw [insertedValues_eq, insertedValues_eq, Criteria.scalars_scalarsOnly]
  renders equalities valid := renders_of_equalities distinct equalities valid
  within equalities _ rendered := lookup_within_insert distinct equalities rendered
  found equalities names fields _ rendered :=
    lookup_finds_insert distinct equalities names fields rendered

/-- An upsert whose criteria overwrite a value and ask for texts that look like code. -/
def overwriting : UpdateOrInsert where
  table := "people"
  values := [("name", .text "Ann"), ("note", .null), ("age", .ofNat 7)]
  criteria :=
    (Criteria.empty.and "kind" (.scalar (.text "') or (1 = 1"))).and "name"
      (.scalar (.text "O', 'Hara"))

theorem overwriting_equalities : overwriting.criteria.Equalities where
  fields _ raw := by cases raw
  given := List.forall_mem_cons.mpr
    ⟨⟨_, rfl, rfl⟩, List.forall_mem_cons.mpr ⟨⟨_, rfl, rfl⟩, List.forall_mem_nil _⟩⟩
  alone := .inl rfl
  agree field value other asked also := by
    have distinct : Values.keys overwriting.criteria.scalars |>.Nodup := by decide
    have first := (Values.mem_iff_get? distinct).mp asked
    have second := (Values.mem_iff_get? distinct).mp also
    exact congrArg valueText (Option.some.inj (first.symm.trans second))

/-- The name that is asked for takes the place of the other, and the lookup finds the row. -/
theorem overwriting_satisfies
    : overwriting.values.keys.Nodup
      ∧ overwriting.insertedValues.keys
        = ["name".toList, "note".toList, "age".toList, "kind".toList]
      ∧ ∃ body content predicate e,
          overwriting.insert.toSql .plain = .ok (insertLine "people" body)
          ∧ read? body = some content
          ∧ overwriting.lookup.toSql = .ok (lookupLine "people" predicate)
          ∧ Grammar.parse predicate = some e
          ∧ (∃ row, content.Describes row)
          ∧ ∀ row, content.Describes row → e.holds row = true := by
  have distinct : overwriting.values.keys.Nodup := by decide
  have row := fallback_row_satisfies overwriting distinct
  obtain ⟨line, rendered⟩ := row.renders overwriting_equalities rfl
  obtain ⟨body, content, predicate, e, line_eq, found⟩ :=
    row.found overwriting_equalities (by decide) (by decide) line rendered
  rw [line_eq] at rendered
  exact ⟨distinct, rfl, body, content, predicate, e, rendered, found⟩

end UpdateOrInsert

end SqlAssembly
