import SqlAssembly.Proofs.Literal.Confinement
import SqlAssembly.Proofs.Statement.OrderedValues
import SqlAssembly.Proofs.Statement.Values

/-! Values never leave their literals. Every clause of a plain statement holds its values in
literals, with the same text around them as the clause whose values are masked.
-/

namespace SqlAssembly

open Reading (Inert Confines ConfinesEach Ends)

-----------------------------------------------------------------------------------------
-- Masks keep what is rendered
-----------------------------------------------------------------------------------------

@[simp]
theorem Json.masked_isNull (value : Json) : value.masked.isNull = value.isNull := by
  cases value <;> rfl

@[simp]
theorem Json.maskedCell_isFalsy (value : Json)
    : Literal.isFalsy value.maskedCell = Literal.isFalsy value := by
  rw [Json.maskedCell]
  split
  · next falsy => exact falsy.symm
  · next truthy => exact (Bool.eq_false_iff.mpr truthy).symm

theorem Values.nonNull_masked (values : Values)
    : values.masked.nonNull = values.nonNull.masked := by
  simp [Values.masked, Values.nonNull, List.filter_map, Function.comp_def]

theorem Condition.masked_plain {condition : Condition} (plain : condition.Plain)
    : condition.masked.Plain := by
  cases condition with
  | literal sql => exact plain
  | scalar value => simpa [masked, Plain] using plain
  | list values => simpa [masked, Plain] using plain

-----------------------------------------------------------------------------------------
-- Conditions
-----------------------------------------------------------------------------------------

namespace Condition

variable {field : Text} {condition : Condition}

theorem predicate_confines (inert : Inert field) (plain : condition.Plain)
    : Confines (condition.predicate field) (condition.masked.predicate field) condition.values := by
  cases condition with
  | literal sql => exact absurd plain id
  | scalar value =>
      have given : value.isNull = false := plain
      exact .code_append (inert.append (.of_all rfl)) (.quote given (by simpa using given))
  | list values =>
      cases values with
      | nil => exact .code (.of_all rfl)
      | cons first rest =>
          have quoted (v : Json) (member : v ∈ first :: rest)
              : Confines (Literal.quote v) (Literal.quote v.masked) [v] := by
            have given : v.isNull = false := plain v member
            exact .quote given (by simpa using given)
          have joined := Confines.join ",".toList (.of_all rfl) rfl _ quoted
          have closed := joined.append (.code (s := ")".toList) (.of_all rfl)) rfl
          have opened := closed.code_append (inert.append (.of_all (s := " in (".toList) rfl))
          have mask : (list (first :: rest)).masked = list (first.masked :: rest.map Json.masked) :=
            rfl
          rw [mask, predicate_list, predicate_list]
          simpa [values, Function.comp_def] using opened

theorem predicate_ends (plain : condition.Plain) : Ends (condition.predicate field) := by
  cases condition with
  | literal sql => exact absurd plain id
  | scalar value => exact (Ends.quote value).append
  | list values =>
      cases values with
      | nil => rfl
      | cons first rest => exact Ends.append rfl

end Condition

-----------------------------------------------------------------------------------------
-- Criteria
-----------------------------------------------------------------------------------------

/-- Predicates with those of the masked group and with their values. -/
def Predicates (items : List (Text × Text × List Json)) : Prop :=
  ∀ x ∈ items, Confines x.1 x.2.1 x.2.2 ∧ Ends x.1 ∧ Ends x.2.1

theorem Predicates.nil : Predicates [] :=
  fun _ member => absurd member List.not_mem_nil

theorem Group.predicates_terms {group : Group} (plain : group.Plain)
    : ∃ items,
        Predicates items
        ∧ group.predicates = items.map (·.1)
        ∧ group.masked.predicates = items.map (·.2.1)
        ∧ group.values = items.flatMap (·.2.2) := by
  cases group with
  | raw sql =>
      have inert : Inert sql := plain
      by_cases blank : Text.trim sql = []
      · exact ⟨[], .nil, by simp [predicates, Text.isBlankText, blank],
          by simp [masked, predicates, Text.isBlankText, blank], rfl⟩
      · refine ⟨[(Text.trim sql, Text.trim sql, [])], ?_,
          by simp [predicates, Text.isBlankText, blank],
          by simp [masked, predicates, Text.isBlankText, blank], rfl⟩
        intro x member
        rw [List.mem_singleton.mp member]
        exact ⟨.code inert.trim, .trim blank, .trim blank⟩
  | fields terms =>
      refine ⟨terms.map fun term =>
        (term.2.predicate term.1, term.2.masked.predicate term.1, term.2.values),
        ?_, ?_, ?_, ?_⟩
      · intro x member
        obtain ⟨term, known, rfl⟩ := List.mem_map.mp member
        obtain ⟨inert, conditions⟩ := plain _ known
        exact ⟨Condition.predicate_confines inert conditions, Condition.predicate_ends conditions,
          Condition.predicate_ends (Condition.masked_plain conditions)⟩
      · simp [predicates, Function.comp_def]
      · simp [predicates, masked, Function.comp_def]
      · simp [values, List.flatMap_map]

/-- The predicates of a group that may be absent. -/
theorem Criteria.groupPredicates_terms {group : Option Group} (plain : ∀ g ∈ group, g.Plain)
    : ∃ items,
        Predicates items
        ∧ groupPredicates group = items.map (·.1)
        ∧ groupPredicates (group.map Group.masked) = items.map (·.2.1)
        ∧ group.toList.flatMap Group.values = items.flatMap (·.2.2) := by
  cases group with
  | none => exact ⟨[], .nil, rfl, rfl, rfl⟩
  | some g =>
      obtain ⟨items, terms, predicates, framed, held⟩ := Group.predicates_terms (plain g rfl)
      exact ⟨items, terms, predicates, framed, by simpa using held⟩

namespace Predicates

variable {items : List (Text × Text × List Json)}

theorem join (terms : Predicates items) (separator : Text) (inert : Inert separator)
    (delimits : separator.head?.any Reading.isDelimiter = true)
    : Confines (Text.join separator (items.map (·.1))) (Text.join separator (items.map (·.2.1)))
        (items.flatMap (·.2.2)) :=
  .join separator inert delimits items fun x member => (terms x member).1

theorem ends (terms : Predicates items) (separator : Text) (nonempty : items ≠ [])
    : Ends (Text.join separator (items.map (·.1)))
      ∧ Ends (Text.join separator (items.map (·.2.1))) :=
  ⟨Ends.join separator nonempty fun x member => (terms x member).2.1,
    Ends.join separator nonempty fun x member => (terms x member).2.2⟩

end Predicates

/-- The predicate of plain criteria is empty or ends with a character that is not blank. -/
theorem Criteria.predicate_confines {criteria : Criteria}
    (plain : Filter.Plain (some (.structured criteria)))
    : Confines criteria.predicate criteria.masked.predicate
        (Filter.values (some (.structured criteria)))
      ∧ (criteria.predicate = [] ∨ Ends criteria.predicate)
      ∧ (criteria.masked.predicate = [] ∨ Ends criteria.masked.predicate) := by
  obtain ⟨all, allTerms, allPredicates, allFramed, allHeld⟩ := groupPredicates_terms plain.1
  obtain ⟨any, anyTerms, anyPredicates, anyFramed, anyHeld⟩ := groupPredicates_terms plain.2
  have allJoined := allTerms.join " and ".toList (.of_all rfl) rfl
  have anyJoined := anyTerms.join " or ".toList (.of_all rfl) rfl
  rw [Filter.values, allHeld, anyHeld, predicate, predicate, masked, allPredicates, allFramed,
    anyPredicates, anyFramed]
  cases all with
  | nil =>
      cases any with
      | nil => exact ⟨.code .nil, Or.inl rfl, Or.inl rfl⟩
      | cons x any =>
          obtain ⟨ends, framedEnds⟩ := anyTerms.ends " or ".toList (by simp)
          exact ⟨anyJoined, Or.inr ends, Or.inr framedEnds⟩
  | cons y all =>
      cases any with
      | nil =>
          obtain ⟨ends, framedEnds⟩ := allTerms.ends " and ".toList (by simp)
          refine ⟨?_, Or.inr ends, Or.inr framedEnds⟩
          simpa using allJoined
      | cons x any =>
          have closed := anyJoined.append (.code (s := ")".toList) (.of_all rfl)) rfl
          have opened := closed.code_append (.of_all (s := " and (".toList) rfl)
          have whole := allJoined.append opened rfl
          simp only [List.append_nil, ← List.append_assoc] at whole
          exact ⟨whole, Or.inr (Ends.append rfl), Or.inr (Ends.append rfl)⟩

-----------------------------------------------------------------------------------------
-- Clauses
-----------------------------------------------------------------------------------------

/-- A clause holds its values, and neither it nor its frame changes when it is trimmed. -/
structure ClauseConfines (clause frame : Text) (values : List Json) : Prop where
  confines : Confines clause frame values
  trimmed : Text.trim clause = clause
  frameTrimmed : Text.trim frame = frame

theorem ClauseConfines.nil : ClauseConfines [] [] [] :=
  ⟨.code .nil, rfl, rfl⟩

/-- A clause in front of the parts behind it. -/
theorem ClauseConfines.part {clause frame : Text} {sqls frames : List Text}
    {values others : List Json} (confined : ClauseConfines clause frame values)
    (tail : ConfinesEach sqls frames others)
    : ConfinesEach (clause :: sqls) (frame :: frames) (values ++ others) := by
  refine .cons ?_ tail
  rw [confined.trimmed, confined.frameTrimmed]
  exact confined.confines

theorem Filter.clause_confines {filter : Option Filter} (plain : Filter.Plain filter)
    : ClauseConfines (clause filter) (clause (filter.map (Fragment.map Criteria.masked)))
        (Filter.values filter) := by
  rcases filter with _ | sql | criteria
  · exact .nil
  · exact absurd plain id
  · obtain ⟨confines, ends, framedEnds⟩ := Criteria.predicate_confines plain
    obtain ⟨together, without⟩ := confines.nil_iff
    by_cases empty : criteria.predicate = []
    · have framed := together.mp empty
      rw [without empty]
      simpa [clause, Fragment.map, empty, framed] using ClauseConfines.nil
    · have framed : criteria.masked.predicate ≠ [] := fun none => empty (together.mpr none)
      have opened := confines.code_append (.of_all (s := "where ".toList) rfl)
      have tight (s : Text) (ends : Ends s)
          : Text.trim ("where ".toList ++ s) = "where ".toList ++ s :=
        Reading.trim_eq rfl ends.append
      have clauses : ClauseConfines ("where ".toList ++ criteria.predicate)
          ("where ".toList ++ criteria.masked.predicate)
          (Filter.values (some (.structured criteria))) :=
        ⟨opened, tight _ (ends.resolve_left empty), tight _ (framedEnds.resolve_left framed)⟩
      simpa [clause, Fragment.map, empty, framed] using clauses

/-- One assignment of a value that is not null. -/
theorem Literal.assignment_confines {values : Values} (inert : ∀ entry ∈ values, Inert entry.1)
    {entry : Text × Json} (member : entry ∈ values.nonNull)
    : Confines (entry.1 ++ " = ".toList ++ quote entry.2)
        (entry.1 ++ " = ".toList ++ quote entry.2.masked) [entry.2] := by
  obtain ⟨known, given⟩ := Values.mem_nonNull.mp member
  have quoted : Confines (quote entry.2) (quote entry.2.masked) [entry.2] :=
    .quote given (by simpa using given)
  exact .code_append ((inert entry known).append (.of_all rfl)) quoted

/-- The assignments of an update or a duplicate-key clause, joined. -/
theorem Literal.assignments_confines {values : Values} (inert : ∀ entry ∈ values, Inert entry.1)
    : Confines (Text.join ", " (assignments values)) (Text.join ", " (assignments values.masked))
        (values.nonNull.map (·.2)) := by
  have joined := Confines.join ", ".toList (.of_all rfl) rfl values.nonNull
    fun entry member => assignment_confines inert member
  rw [assignments, assignments, Values.nonNull_masked, Values.masked, List.map_map]
  rw [← List.map_eq_flatMap] at joined
  exact joined

/-- A list of texts without quotes, joined. -/
theorem Text.join_inert {separator : Text} (inert : Inert separator) {texts : List Text}
    (each : ∀ s ∈ texts, Inert s)
    : Inert (Text.join separator texts) := by
  induction texts with
  | nil => exact .nil
  | cons s texts ih =>
      have head := each s List.mem_cons_self
      cases texts with
      | nil => simpa [Text.join] using head
      | cons t texts =>
          have tail := ih fun u member => each u (List.mem_cons_of_mem s member)
          rw [Text.join, List.intercalate_cons_cons]
          exact (head.append inert).append tail

/-- Masking keeps whether anything is assigned. -/
theorem Values.nonNull_masked_isEmpty (values : Values)
    : values.masked.nonNull.isEmpty = values.nonNull.isEmpty := by
  rw [nonNull_masked, masked, List.isEmpty_map]

theorem Clause.updateText_confines {set : Option Assignments} (plain : Assignments.Plain set)
    : ClauseConfines (updateText set) (updateText (set.map (Fragment.map Values.masked)))
        (Assignments.values set) := by
  rcases set with _ | sql | values
  · exact .nil
  · exact absurd plain id
  · cases empty : values.nonNull.isEmpty with
    | true =>
        have none : values.nonNull = [] := List.isEmpty_iff.mp empty
        simpa [updateText, Fragment.map, Values.nonNull_masked_isEmpty, empty, Assignments.values,
          none] using ClauseConfines.nil
    | false =>
        have opened := (Literal.assignments_confines plain).code_append
          (.of_all (s := "set ".toList) rfl)
        have tight {values : Values} (some : values.nonNull.isEmpty = false)
            : Text.trim ("set ".toList ++ Text.join ", " (Literal.assignments values))
              = "set ".toList ++ Text.join ", " (Literal.assignments values) := by
          refine Reading.trim_eq rfl (Ends.append (Ends.join ", ".toList ?_ fun entry _ => ?_))
          · exact fun none => by simp [none] at some
          · exact (Ends.quote entry.2).append
        have framed : values.masked.nonNull.isEmpty = false := by
          rw [Values.nonNull_masked_isEmpty, empty]
        have clauses : ClauseConfines _ _ _ := ⟨opened, tight empty, tight framed⟩
        simpa [updateText, Fragment.map, framed, empty, Assignments.values] using clauses

theorem Clause.insertText_some {values : Values} (some : values.nonNull.isEmpty = false)
    : insertText (.some (.structured values))
      = "(".toList ++ Text.join "," (values.nonNull.map (·.1)) ++ ") values (".toList
        ++ Text.join "," (values.nonNull.map fun (_, value) => Literal.quote value)
        ++ ")".toList := by
  rw [insertText, some, if_neg Bool.false_ne_true]

/-- The columns and values of a plain insert. -/
theorem Clause.insertText_confines {values : Option InsertValues} (plain : Assignments.Plain values)
    : ClauseConfines (insertText values) (insertText (values.map (Fragment.map Values.masked)))
        (Assignments.values values) := by
  rcases values with _ | sql | values
  · exact .nil
  · exact absurd plain id
  · cases empty : values.nonNull.isEmpty with
    | true =>
        have none : values.nonNull = [] := List.isEmpty_iff.mp empty
        simpa [insertText, Fragment.map, Values.nonNull_masked_isEmpty, empty, Assignments.values,
          none] using ClauseConfines.nil
    | false =>
        have columns : Inert (Text.join "," (values.nonNull.map (·.1))) := by
          refine Text.join_inert (.of_all rfl) fun column member => ?_
          obtain ⟨entry, known, rfl⟩ := List.mem_map.mp member
          exact plain entry (Values.mem_nonNull.mp known).1
        have quoted (entry : Text × Json) (member : entry ∈ values.nonNull)
            : Confines (Literal.quote entry.2) (Literal.quote entry.2.masked) [entry.2] := by
          have given := (Values.mem_nonNull.mp member).2
          exact .quote given (by simpa using given)
        have joined := Confines.join ",".toList (.of_all rfl) rfl _ quoted
        have closed := joined.append (.code (s := ")".toList) (.of_all rfl)) rfl
        have opening : Inert ("(".toList ++ Text.join "," (values.nonNull.map (·.1))
            ++ ") values (".toList) :=
          ((Inert.of_all rfl).append columns).append (.of_all rfl)
        have opened := closed.code_append opening
        rw [List.append_nil, ← List.map_eq_flatMap] at opened
        have clauses : ClauseConfines _ _ _ :=
          ⟨opened, Reading.trim_eq rfl (Ends.append (Ends.append rfl)),
            Reading.trim_eq rfl (Ends.append (Ends.append rfl))⟩
        have framed : values.masked.nonNull.isEmpty = false := by
          rw [Values.nonNull_masked_isEmpty, empty]
        simp only [← List.append_assoc] at clauses
        rw [insertText_some empty]
        change ClauseConfines _ (insertText (some (.structured values.masked))) _
        rw [insertText_some framed, Values.nonNull_masked, Values.masked, List.map_map,
          List.map_map]
        exact clauses

/-- One value of a batch: a literal, or a bare null that is no value. -/
theorem Clause.batchCell_confines (value : Json)
    : Confines (batchCell value) (batchCell value.maskedCell)
        ([value].filter fun v => !Literal.isFalsy v) := by
  rw [batchCell, batchCell, Json.maskedCell_isFalsy]
  cases falsy : Literal.isFalsy value with
  | true => simpa [falsy] using Confines.code (Inert.of_all (s := "NULL".toList) rfl)
  | false =>
      have given : value.isNull = false := by
        cases value with
        | null => simp [Literal.isFalsy] at falsy
        | bool | number | text | array | object => rfl
      have masked : value.maskedCell = .bool true := by simp [Json.maskedCell, falsy]
      have quoted : Confines (Literal.quote value) (Literal.quote (.bool true)) [value] :=
        .quote given rfl
      simpa [falsy, masked] using quoted

theorem Clause.batchRow_confines (row : List Json)
    : Confines (batchRow row) (batchRow (row.map Json.maskedCell))
        (row.filter fun v => !Literal.isFalsy v) := by
  have joined := Confines.join ",".toList (.of_all rfl) rfl row fun v _ =>
    batchCell_confines v
  have closed := joined.append (.code (s := ")".toList) (.of_all rfl)) rfl
  have opened := closed.code_append (.of_all (s := "(".toList) rfl)
  rw [List.append_nil, ← List.filter_flatMap, List.flatMap_singleton'] at opened
  simpa [batchRow, Function.comp_def] using opened

/-- The columns and rows of a batch that has both. -/
theorem Clause.batchText_confines {batch : BatchRows}
    (columns : ∀ column ∈ batch.columns, Inert column)
    (some : (batch.columns.isEmpty || batch.rows.isEmpty) = false)
    : ClauseConfines (batchText (.some batch))
        (batchText (.some ⟨batch.columns, batch.rows.map (·.map Json.maskedCell)⟩))
        (batch.rows.flatten.filter fun v => !Literal.isFalsy v) := by
  have rows := Confines.join ",".toList (.of_all rfl) rfl batch.rows fun row _ =>
    batchRow_confines row
  have opening : Inert ("(".toList ++ Text.join "," batch.columns ++ ") values ".toList) :=
    ((Inert.of_all rfl).append (Text.join_inert (.of_all rfl) columns)).append (.of_all rfl)
  have opened := rows.code_append opening
  have nonempty : batch.rows ≠ [] := by
    intro none
    simp [none] at some
  have rowEnds (row : List Json) : Ends (batchRow row) := Ends.append rfl
  have ends : Ends (Text.join "," (batch.rows.map batchRow)) :=
    Ends.join ",".toList nonempty fun row _ => rowEnds row
  have framedEnds
      : Ends (Text.join "," (batch.rows.map fun row => batchRow (row.map Json.maskedCell))) :=
    Ends.join ",".toList nonempty fun row _ => rowEnds _
  rw [List.flatMap_def, ← List.filter_flatten] at opened
  have clauses : ClauseConfines _ _ _ :=
    ⟨opened, Reading.trim_eq rfl ends.append, Reading.trim_eq rfl framedEnds.append⟩
  rw [batchText, batchText, List.isEmpty_map, some, if_neg Bool.false_ne_true, List.map_map]
  exact clauses

-----------------------------------------------------------------------------------------
-- Clauses without values
-----------------------------------------------------------------------------------------

theorem Text.withKeyword_inert {s keyword : Text} (inert : Inert s) (word : Inert keyword)
    : Inert (withKeyword s keyword) := by
  rw [withKeyword]
  split
  · exact .nil
  · split
    · exact inert.trim
    · exact word.append (inert.trim.cons rfl)

namespace Clause

theorem selectText_inert {columns : Option Columns}
    (plain : Fragment.Plain (fun columns => columns) columns)
    : Inert (selectText columns) := by
  rcases columns with _ | sql | names
  · exact .of_all rfl
  · change Inert
      (if Text.isBlankText sql then "select *".toList else Text.withKeyword sql "select".toList)
    split
    · exact .of_all rfl
    · exact Text.withKeyword_inert plain (.of_all rfl)
  · cases names with
    | nil => exact .of_all rfl
    | cons name names => exact (Inert.of_all rfl).append (Text.join_inert (.of_all rfl) plain)

theorem orderText_inert {order : Option SortOrder}
    (plain : Fragment.Plain (fun terms => terms.map (·.field)) order)
    : Inert (orderText order) := by
  rcases order with _ | sql | terms
  · exact .nil
  · exact Text.withKeyword_inert plain (.of_all rfl)
  · cases terms with
    | nil => exact .nil
    | cons term terms =>
        refine (Inert.of_all rfl).append (Text.join_inert (.of_all rfl) fun s member => ?_)
        obtain ⟨t, known, rfl⟩ := List.mem_map.mp member
        have field : Inert t.field := plain _ (List.mem_map_of_mem known)
        refine field.append (Inert.cons rfl ?_)
        cases t.direction <;> exact .of_all rfl

theorem limitText_inert {limit : Option Limit} (plain : Fragment.Plain (fun _ => []) limit)
    : Inert (limitText limit) := by
  rcases limit with _ | sql | window
  · exact .nil
  · exact Text.withKeyword_inert plain (.of_all rfl)
  · exact (((Inert.of_all rfl).append (.ofNat _)).append (.of_all rfl)).append (.ofNat _)

theorem lockText_inert {lock : Option Lock} (plain : Fragment.Plain (fun _ => []) lock)
    : Inert (lockText lock) := by
  rcases lock with _ | sql | _ | _
  · exact .nil
  · exact Text.withKeyword_inert plain (.of_all rfl)
  · exact .nil
  · exact .of_all rfl

theorem groupByText_inert {fields : Option Text} (plain : ∀ s ∈ fields, Inert s)
    : Inert (groupByText fields) := by
  cases fields with
  | none => exact .nil
  | some sql => exact Text.withKeyword_inert (plain sql rfl) (.of_all rfl)

end Clause

-----------------------------------------------------------------------------------------
-- Statements
-----------------------------------------------------------------------------------------

/-- When a statement is rendered, so is its frame, and the text holds the values. -/
def Renders (result frame : Except ParamError Text) (values : List Json) : Prop :=
  ∀ sql, result = .ok sql → ∃ framed, frame = .ok framed ∧ Confines sql framed values

namespace Renders

theorem ok {sqls frames : List Text} {values : List Json} (each : ConfinesEach sqls frames values)
    : Renders (.ok (Text.joinParts sqls)) (.ok (Text.joinParts frames)) values := by
  intro sql same
  rw [← Except.ok.inj same]
  exact ⟨_, rfl, each.joinParts⟩

theorem error {problem : ParamError} {frame : Except ParamError Text} {values : List Json}
    : Renders (.error problem) frame values :=
  fun _ impossible => by cases impossible

/-- What comes behind a table is rendered with the trimmed table. -/
theorem table {table : Text} {next nextFrame : Text → Except ParamError Text}
    {values : List Json} (inert : Inert table)
    (rest
      : Inert (Text.trim table)
        → Renders (next (Text.trim table)) (nextFrame (Text.trim table)) values)
    : Renders (requireTable table >>= next) (requireTable table >>= nextFrame) values := by
  rw [requireTable]
  split
  · exact error
  · exact rest inert.trim

/-- A statement that lacks a clause is refused, and so is its frame. -/
theorem unlessEmpty {clause frame : Text} {problem : ParamError}
    {result resultFrame : Except ParamError Text} {values : List Json}
    (together : clause = [] ↔ frame = []) (rest : Renders result resultFrame values)
    : Renders (if clause.isEmpty then .error problem else result)
        (if frame.isEmpty then .error problem else resultFrame) values := by
  by_cases empty : clause = []
  · rw [empty]
    exact error
  · have framed : frame ≠ [] := fun none => empty (together.mpr none)
    rwa [if_neg (by simpa using empty), if_neg (by simpa using framed)]

end Renders

/-- A given text is trimmed and not blank. -/
theorem givenText?_inert {s : Option Text} (inert : ∀ t ∈ s, Inert t) {given : Text}
    (found : givenText? s = some given)
    : Inert given := by
  obtain ⟨t, known, rfl⟩ := Option.map_eq_some_iff.mp (Option.eq_some_of_filter_eq_some found)
  exact (inert t known).trim

/-- The duplicate-key clause of assignments, if there are any. -/
theorem Insert.duplicateAssignments_confines {items frames : List Text} {values : List Json}
    (together : items.isEmpty = frames.isEmpty)
    (joined : Confines (Text.join ", " items) (Text.join ", " frames) values)
    (ends : ∀ s ∈ items, Ends s) (frameEnds : ∀ s ∈ frames, Ends s) {tail : Text}
    (rendered : duplicateAssignments items = .ok tail)
    : ∃ frame, duplicateAssignments frames = .ok frame ∧ ClauseConfines tail frame values := by
  rw [duplicateAssignments] at rendered ⊢
  rw [← together]
  split at rendered
  · cases rendered
  · next some =>
      rw [← Except.ok.inj rendered, if_neg some]
      have opening : Inert (duplicateKeyword ++ [' ']) := .of_all rfl
      have opened := joined.code_append opening
      have tight {items : List Text} (nonempty : items ≠ []) (ends : ∀ s ∈ items, Ends s)
          : Text.trim (duplicateKeyword ++ ' ' :: Text.join ", " items)
            = duplicateKeyword ++ ' ' :: Text.join ", " items := by
        have joinedEnds := Ends.join ", ".toList nonempty ends
        rw [List.map_id'] at joinedEnds
        exact Reading.trim_eq rfl joinedEnds.cons.append
      have nonempty : items ≠ [] := fun none => some (by simp [none])
      have frameNonempty : frames ≠ [] := fun none => some (by simp [together, none])
      refine ⟨_, rfl, ?_, tight nonempty ends, tight frameNonempty frameEnds⟩
      simpa using opened

/-- The clause that closes a plain insert. -/
theorem Insert.closing_confines {s : Insert} {mode : InsertMode}
    (values : Assignments.Plain s.values) (sets : mode.Plain) {tail : Text}
    (rendered : s.closing mode = .ok tail)
    : ∃ frame,
        closing { s with values := s.values.map (Fragment.map Values.masked) } mode.masked
          = .ok frame
        ∧ ClauseConfines tail frame mode.values := by
  cases mode with
  | plain | ignore =>
      rw [← Except.ok.inj rendered]
      exact ⟨[], rfl, .nil⟩
  | updateDuplicate set =>
      rcases set with _ | sql | assigned
      · obtain ⟨table, _ | sql | given⟩ := s
        · cases rendered
        · exact absurd values id
        · have same
              : (given.masked.nonNull.map fun (column, _) => refresh column)
                = given.nonNull.map fun (column, _) => refresh column := by
            rw [Values.nonNull_masked, Values.masked, List.map_map]
            rfl
          have refreshes : ∀ s ∈ given.nonNull.map fun (column, _) => refresh column,
              Inert s ∧ Ends s := by
            intro s member
            obtain ⟨entry, known, rfl⟩ := List.mem_map.mp member
            have column := values entry (Values.mem_nonNull.mp known).1
            exact ⟨((column.append (.of_all rfl)).append column).append (.of_all rfl),
              Ends.append rfl⟩
          have joined := Text.join_inert (.of_all (s := ", ".toList) rfl) fun s member =>
            (refreshes s member).1
          have ends := fun s member => (refreshes s member).2
          obtain ⟨frame, framed, confined⟩ :=
            duplicateAssignments_confines rfl (.code joined) ends ends rendered
          refine ⟨frame, ?_, confined⟩
          change duplicateAssignments
            (given.masked.nonNull.map fun (column, _) => refresh column) = _
          rw [same, framed]
      · exact absurd sets id
      · have assignmentEnds (values : Values) : ∀ s ∈ Literal.assignments values, Ends s := by
          intro s member
          obtain ⟨entry, _, rfl⟩ := List.mem_map.mp member
          exact (Ends.quote entry.2).append
        refine duplicateAssignments_confines ?_ (Literal.assignments_confines sets)
          (assignmentEnds assigned) (assignmentEnds assigned.masked) rendered
        rw [Literal.assignments, Literal.assignments, List.isEmpty_map, List.isEmpty_map,
          Values.nonNull_masked_isEmpty]

namespace Statement

/-- What stands behind the table of a select. -/
theorem tail_confines {columns : Option Columns} {order : Option SortOrder}
    {limit : Option Limit} {lock : Option Lock} (tail : PlainTail columns order limit lock)
    : ConfinesEach [Clause.orderText order, Clause.limitText limit, Clause.lockText lock]
        [Clause.orderText order, Clause.limitText limit, Clause.lockText lock] [] :=
  .code (Clause.orderText_inert tail.order)
    (.code (Clause.limitText_inert tail.limit) (.code (Clause.lockText_inert tail.lock) .nil))

theorem select_renders {s : Select} (plain : (select s).Plain)
    : Renders (select s).toSql (select s).masked.toSql (select s).values := by
  obtain ⟨inert, tail, filters, groups⟩ := plain
  refine Renders.table inert fun table => Renders.ok ?_
  have behind := (Filter.clause_confines filters).part
    (.code (Clause.groupByText_inert groups) (tail_confines tail))
  rw [List.append_nil] at behind
  exact .code (Clause.selectText_inert tail.columns) (.code (.of_all rfl) (.code table behind))

theorem sum_renders {s : Sum} (plain : (sum s).Plain)
    : Renders (sum s).toSql (sum s).masked.toSql (sum s).values := by
  obtain ⟨inert, expression, filters⟩ := plain
  refine Renders.table inert fun table => ?_
  have behind := (Filter.clause_confines filters).part .nil
  rw [List.append_nil] at behind
  have opening : Inert ("select sum(".toList ++ Text.trim s.expression ++ ") as sum from".toList) :=
    ((Inert.of_all rfl).append expression.trim).append (.of_all rfl)
  dsimp only
  split
  · exact Renders.error
  · exact Renders.ok (.code opening (.code table behind))

theorem count_renders {s : Count} (plain : (count s).Plain)
    : Renders (count s).toSql (count s).masked.toSql (count s).values := by
  obtain ⟨inert, filters⟩ := plain
  refine Renders.table inert fun table => Renders.ok ?_
  have behind := (Filter.clause_confines filters).part .nil
  rw [List.append_nil] at behind
  exact .code (.of_all rfl) (.code table behind)

theorem delete_renders {s : Delete} (plain : (delete s).Plain)
    : Renders (delete s).toSql (delete s).masked.toSql (delete s).values := by
  obtain ⟨inert, filters⟩ := plain
  refine Renders.table inert fun table => Renders.ok ?_
  have behind := (Filter.clause_confines filters).part .nil
  rw [List.append_nil] at behind
  exact .code (.of_all rfl) (.code table behind)

theorem update_renders {s : Update} (plain : (update s).Plain)
    : Renders (update s).toSql (update s).masked.toSql (update s).values := by
  obtain ⟨inert, sets, filters⟩ := plain
  refine Renders.table inert fun table => ?_
  have set := Clause.updateText_confines sets
  have behind := set.part ((Filter.clause_confines filters).part .nil)
  rw [List.append_nil] at behind
  exact Renders.unlessEmpty set.confines.nil_iff.1
    (Renders.ok (.code (.of_all rfl) (.code table behind)))

theorem batchInsert_renders {s : BatchInsert} (plain : (batchInsert s).Plain)
    : Renders (batchInsert s).toSql (batchInsert s).masked.toSql (batchInsert s).values := by
  obtain ⟨inert, columns⟩ := plain
  refine Renders.table inert fun table => ?_
  have widths
      : (s.batch.rows.map (·.map Json.maskedCell)).find?
            (fun row => row.length != s.batch.columns.length)
        = (s.batch.rows.find? fun row => row.length != s.batch.columns.length).map
            (·.map Json.maskedCell) := by
    simp only [List.find?_map, Function.comp_def, List.length_map]
  dsimp only [masked]
  rw [widths]
  cases found : s.batch.rows.find? fun row => row.length != s.batch.columns.length with
  | some row => exact Renders.error
  | none =>
      cases empty : s.batch.columns.isEmpty || s.batch.rows.isEmpty with
      | true =>
          have body : Clause.batchText (some s.batch) = [] := by
            rw [Clause.batchText, empty, if_pos rfl]
          change Renders
            (if (Clause.batchText (some s.batch)).isEmpty then .error .batchEmpty else _) _ _
          rw [body]
          exact Renders.error
      | false =>
          have body := Clause.batchText_confines columns empty
          have behind := body.part .nil
          rw [List.append_nil] at behind
          exact Renders.unlessEmpty body.confines.nil_iff.1
            (Renders.ok (.code (.of_all rfl) (.code table behind)))

/-- The given parts of a plain join have no quotes. -/
theorem parts_inert {s : JoinSelect} (plain : (joinSelect s).Plain)
    {table other join field otherField : Text}
    (found : s.parts? = some (table, other, join, field, otherField))
    : Inert table ∧ Inert other ∧ Inert join ∧ Inert field ∧ Inert otherField := by
  obtain ⟨inert, _, _, others, ons, joins⟩ := plain
  simp only [JoinSelect.parts?, Option.bind_eq_bind, Option.bind_eq_some_iff] at found
  obtain ⟨_, tables, _, otherTables, _, keyword, on, known, _, fields, _, otherFields, same⟩ :=
    found
  cases same
  obtain ⟨first, second⟩ := ons on known
  exact ⟨givenText?_inert (by simpa using inert) tables, givenText?_inert others otherTables,
    givenText?_inert joins keyword, givenText?_inert (by simpa using first) fields,
    givenText?_inert (by simpa using second) otherFields⟩

theorem joinSelect_renders {s : JoinSelect} (plain : (joinSelect s).Plain)
    : Renders (joinSelect s).toSql (joinSelect s).masked.toSql (joinSelect s).values := by
  obtain ⟨inert, tail, filters, others, ons, joins⟩ := plain
  have behind := (Filter.clause_confines filters).part (tail_confines tail)
  rw [List.append_nil] at behind
  change Renders s.toSql { s with filter := s.filter.map (Fragment.map Criteria.masked) }.toSql _
  have same
      : { s with filter := s.filter.map (Fragment.map Criteria.masked) }.parts? = s.parts? :=
    rfl
  rw [JoinSelect.toSql, JoinSelect.toSql, same]
  cases found : s.parts? with
  | none => exact Renders.error
  | some given =>
      obtain ⟨table, other, join, field, otherField⟩ := given
      have inertParts := parts_inert ⟨inert, tail, filters, others, ons, joins⟩ found
      obtain ⟨tables, otherTables, keyword, fields, otherFields⟩ := inertParts
      have on : Inert ("on ".toList ++ table ++ '.' :: field ++ " = ".toList ++ other
          ++ '.' :: otherField) :=
        (((((Inert.of_all rfl).append tables).append (fields.cons rfl)).append (.of_all rfl)).append
          otherTables).append (otherFields.cons rfl)
      refine Renders.ok (.code (Clause.selectText_inert tail.columns) (.code (.of_all rfl) ?_))
      exact .code tables (.code keyword (.code otherTables (.code on behind)))

theorem insert_renders {s : Insert} {mode : InsertMode} (plain : (insert s mode).Plain)
    : Renders (insert s mode).toSql (insert s mode).masked.toSql (insert s mode).values := by
  obtain ⟨inert, given, sets⟩ := plain
  refine Renders.table inert fun table => ?_
  have body := Clause.insertText_confines given
  refine Renders.unlessEmpty body.confines.nil_iff.1 fun sql rendered => ?_
  cases closed : s.closing mode with
  | error problem =>
      rw [closed] at rendered
      cases rendered
  | ok tail =>
      obtain ⟨frame, framed, closing⟩ := Insert.closing_confines given sets closed
      have behind := body.part (closing.part .nil)
      rw [List.append_nil] at behind
      have opening : Insert.opening mode.masked = Insert.opening mode := by cases mode <;> rfl
      have opens : Inert (Insert.opening mode) := by cases mode <;> exact .of_all rfl
      rw [closed] at rendered
      rw [framed, opening]
      exact Renders.ok (.code opens (.code table behind)) sql rendered

/-- Every plain statement is rendered with its values in literals, as its frame is. -/
theorem renders {s : Statement} (plain : s.Plain) : Renders s.toSql s.masked.toSql s.values := by
  cases s with
  | select s => exact select_renders plain
  | sum s => exact sum_renders plain
  | count s => exact count_renders plain
  | joinSelect s => exact joinSelect_renders plain
  | insert s mode => exact insert_renders plain
  | batchInsert s => exact batchInsert_renders plain
  | update s => exact update_renders plain
  | delete s => exact delete_renders plain

end Statement

open Reading (parts literals outline Delimited valueText)

/-- A plain statement that is rendered reads as its values, one literal each, with delimiters
behind them. Outside the literals it is the same text as any other such statement that differs from
it in values only.
-/
theorem values_stay_in_literals (s : Statement) (plain : s.Plain) (sql : Text)
    (rendered : s.toSql = .ok sql)
    : ∃ read,
        parts sql = some read
        ∧ literals read = s.values.map valueText
        ∧ Delimited read
        ∧ ∀ other : Statement,
            other.Plain
            → other.masked = s.masked
            → ∀ otherSql,
                other.toSql = .ok otherSql
                → ∃ otherRead,
                    parts otherSql = some otherRead ∧ outline otherRead = outline read := by
  obtain ⟨frame, framed, read, frameRead, reads, frameReads, held, same, apart⟩ :=
    Statement.renders plain sql rendered
  refine ⟨read, reads.parts_eq, held, apart, ?_⟩
  intro other otherPlain masked otherSql otherRendered
  obtain ⟨otherFrame, otherFramed, otherRead, otherFrameRead, otherReads, otherFrameReads, _,
    otherSame, _⟩ := Statement.renders otherPlain otherSql otherRendered
  rw [masked, framed] at otherFramed
  obtain rfl := Except.ok.inj otherFramed
  obtain rfl := frameReads.unique otherFrameReads
  exact ⟨otherRead, otherReads.parts_eq, otherSame.trans same.symm⟩

/-- An update whose values carry quotes, a backslash and text that looks like SQL. -/
def Statement.hostile : Statement :=
  .update {
    table := "users"
    set := some (.structured [("name", .text "o'neil\\"), ("gone", .null)])
    filter :=
      some (.structured ⟨some (.fields [("id", .list [.bool true, .text "' or '1"])]), none⟩)
  }

/-- Its three values are read back from its text. -/
theorem hostile_values_stay_in_literals
    : ∃ read,
        parts "update users set name = 'o\\'neil\\\\' where id in ('true','\\' or \\'1')".toList
          = some read
        ∧ literals read = ["o'neil\\".toList, "true".toList, "' or '1".toList]
        ∧ Delimited read := by
  have plain : Statement.hostile.Plain := by
    refine ⟨.of_all rfl, ?_, ?_, ?_⟩
    · intro entry member
      simp only [List.mem_cons, List.not_mem_nil, or_false] at member
      rcases member with rfl | rfl <;> exact .of_all rfl
    · intro group member
      cases member
      intro term member
      rw [List.mem_singleton.mp member]
      refine ⟨.of_all rfl, fun value member => ?_⟩
      simp only [List.mem_cons, List.not_mem_nil, or_false] at member
      rcases member with rfl | rfl <;> rfl
    · intro group member
      cases member
  obtain ⟨read, reads, held, apart, _⟩ := values_stay_in_literals Statement.hostile plain _ rfl
  exact ⟨read, reads, held, apart⟩

end SqlAssembly
