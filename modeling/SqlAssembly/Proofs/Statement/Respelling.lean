import SqlAssembly.Proofs.Text.Keyword
import SqlAssembly.Statement.Write

/-! Structured and raw clause inputs agree. The text that a clause is assembled to may be given back
as the clause's raw input: it carries the clause's keyword, so nothing but blanks around it is lost,
and a statement comes to the same with it.
-/

namespace SqlAssembly

open Text (Carries IsKeyword)

-----------------------------------------------------------------------------------------
-- Clauses carry their keywords
-----------------------------------------------------------------------------------------

namespace Clause

theorem select_isKeyword : IsKeyword "select" := ⟨by decide, by decide⟩

theorem where_isKeyword : IsKeyword "where" := ⟨by decide, by decide⟩

theorem groupBy_isKeyword : IsKeyword "group by" := ⟨by decide, by decide⟩

theorem orderBy_isKeyword : IsKeyword "order by" := ⟨by decide, by decide⟩

theorem limit_isKeyword : IsKeyword "limit" := ⟨by decide, by decide⟩

theorem forUpdate_isKeyword : IsKeyword "for update" := ⟨by decide, by decide⟩

theorem set_isKeyword : IsKeyword "set" := ⟨by decide, by decide⟩

/-- The projection of every column. -/
theorem selectText_all : selectText none = "select ".toList ++ ['*'] := rfl

/-- A projection is that of every column, raw input that is not blank behind the keyword, or what
follows the keyword and a space.
-/
theorem selectText_cases (columns : Option Columns)
    : (∃ names, selectText columns = "select ".toList ++ names)
      ∨ ∃ sql, Text.trim sql ≠ [] ∧ selectText columns = Text.withKeyword sql "select" := by
  rcases columns with _ | sql | _ | ⟨name, names⟩
  · exact .inl ⟨_, selectText_all⟩
  · by_cases blank : Text.isBlankText sql = true
    · exact .inl ⟨_, (if_pos blank).trans selectText_all⟩
    · exact .inr ⟨sql, by simpa [Text.isBlankText] using blank, if_neg blank⟩
  · exact .inl ⟨_, selectText_all⟩
  · exact .inl ⟨_, rfl⟩

theorem selectText_carries (columns : Option Columns) : Carries "select" (selectText columns) := by
  rcases selectText_cases columns with ⟨names, spelled⟩ | ⟨sql, -, spelled⟩
  · rw [spelled]
    exact .of_opening select_isKeyword rfl names
  · rw [spelled]
    exact .of_withKeyword select_isKeyword sql

theorem filter_carries (f : Option Filter) : Carries "where" (Filter.clause f) := by
  rcases f with _ | sql | criteria
  · exact .inl rfl
  · exact .of_withKeyword where_isKeyword sql
  · rw [Filter.clause]
    split
    · exact .inl rfl
    · exact .of_opening where_isKeyword rfl criteria.predicate

theorem groupByText_carries (fields : Option Text) : Carries "group by" (groupByText fields) := by
  cases fields with
  | none => exact .inl rfl
  | some sql => exact .of_withKeyword groupBy_isKeyword sql

theorem orderText_carries (order : Option SortOrder) : Carries "order by" (orderText order) := by
  rcases order with _ | sql | _ | ⟨term, terms⟩
  · exact .inl rfl
  · exact .of_withKeyword orderBy_isKeyword sql
  · exact .inl rfl
  · exact .of_opening orderBy_isKeyword rfl _

theorem limitText_carries (limit : Option Limit) : Carries "limit" (limitText limit) := by
  rcases limit with _ | sql | window
  · exact .inl rfl
  · exact .of_withKeyword limit_isKeyword sql
  · change Carries "limit"
      ("limit ".toList ++ Text.ofNat window.offset ++ ", ".toList ++ Text.ofNat window.count)
    rw [List.append_assoc, List.append_assoc]
    exact .of_opening limit_isKeyword rfl _

theorem lockText_carries (lock : Option Lock) : Carries "for update" (lockText lock) := by
  rcases lock with _ | sql | _ | _
  · exact .inl rfl
  · exact .of_withKeyword forUpdate_isKeyword sql
  · exact .inl rfl
  · change Carries "for update" "for update"
    exact .of_keyword forUpdate_isKeyword

theorem updateText_carries (set : Option Assignments) : Carries "set" (updateText set) := by
  rcases set with _ | sql | values
  · exact .inl rfl
  · exact .of_withKeyword set_isKeyword sql
  · rw [updateText]
    split
    · exact .inl rfl
    · exact .of_opening set_isKeyword rfl _

-----------------------------------------------------------------------------------------
-- Assembling what was assembled
-----------------------------------------------------------------------------------------

/-- Given back as raw input, an assembled clause is assembled to itself, but for the blanks around
it.
-/
def Respells {α : Type} (clause : Option α → Clause) (raw : Text → α) : Prop :=
  ∀ input,
    (clause (some (raw (clause input).assemble))).assemble = Text.trim (clause input).assemble

/-- Something is always projected. -/
theorem selectText_ne_nil (columns : Option Columns) : selectText columns ≠ [] := by
  rcases selectText_cases columns with ⟨names, spelled⟩ | ⟨sql, filled, spelled⟩
  · rw [spelled]
    exact List.cons_ne_nil _ _
  · rw [spelled, Ne, Text.withKeyword_eq_nil_iff]
    exact filled

/-- The projection alone reads a blank raw input as every column, but no projection is blank. -/
theorem select_respells : Respells select .raw := by
  intro columns
  have carries := selectText_carries columns
  have filled : Text.trim (selectText columns) ≠ [] := by
    intro blank
    exact selectText_ne_nil columns ((carries.trim_eq_nil_iff select_isKeyword).mp blank)
  change (if Text.isBlankText (selectText columns) then _ else _) = Text.trim (selectText columns)
  rw [if_neg (by simpa [Text.isBlankText] using filled)]
  exact carries.withKeyword_eq

theorem filter_respells : Respells filter .raw :=
  fun f => (filter_carries f).withKeyword_eq

theorem groupBy_respells : Respells groupBy fun sql => sql :=
  fun fields => (groupByText_carries fields).withKeyword_eq

theorem order_respells : Respells order .raw :=
  fun terms => (orderText_carries terms).withKeyword_eq

theorem limit_respells : Respells limit .raw :=
  fun window => (limitText_carries window).withKeyword_eq

theorem forUpdate_respells : Respells forUpdate .raw :=
  fun lock => (lockText_carries lock).withKeyword_eq

theorem update_respells : Respells update .raw :=
  fun set => (updateText_carries set).withKeyword_eq

/-- Given back as raw input, each assembled clause is assembled to itself but for blanks. -/
structure Reassembles : Prop where
  select : Respells Clause.select .raw
  filter : Respells Clause.filter .raw
  groupBy : Respells Clause.groupBy id
  order : Respells Clause.order .raw
  limit : Respells Clause.limit .raw
  forUpdate : Respells Clause.forUpdate .raw
  update : Respells Clause.update .raw

theorem reassembles : Reassembles where
  select := select_respells
  filter := filter_respells
  groupBy := groupBy_respells
  order := order_respells
  limit := limit_respells
  forUpdate := forUpdate_respells
  update := update_respells

end Clause

-----------------------------------------------------------------------------------------
-- Statements with clauses respelled
-----------------------------------------------------------------------------------------

/-- The clause inputs that a statement may have. -/
inductive ClauseInput where
  | columns
  | filter
  | groupBy
  | order
  | limit
  | lock
  | set

/-- An input as it is given or, when it is chosen, as raw input of the text its clause is assembled
to.
-/
def respell {α : Type} (chosen : Bool) (clause : Option α → Clause) (raw : Text → α)
    (input : Option α) : Option α :=
  if chosen then some (raw (clause input).assemble) else input

/-- The statement with the chosen ones of its clause inputs respelled. -/
def Select.respelled (chosen : ClauseInput → Bool) (s : Select) : Select :=
  { s with
    columns := respell (chosen .columns) Clause.select .raw s.columns
    filter := respell (chosen .filter) Clause.filter .raw s.filter
    groupBy := respell (chosen .groupBy) Clause.groupBy id s.groupBy
    order := respell (chosen .order) Clause.order .raw s.order
    limit := respell (chosen .limit) Clause.limit .raw s.limit
    lock := respell (chosen .lock) Clause.forUpdate .raw s.lock }

@[inherit_doc Select.respelled]
def Sum.respelled (chosen : ClauseInput → Bool) (s : Sum) : Sum :=
  { s with filter := respell (chosen .filter) Clause.filter .raw s.filter }

@[inherit_doc Select.respelled]
def Count.respelled (chosen : ClauseInput → Bool) (s : Count) : Count :=
  { s with filter := respell (chosen .filter) Clause.filter .raw s.filter }

@[inherit_doc Select.respelled]
def JoinSelect.respelled (chosen : ClauseInput → Bool) (s : JoinSelect) : JoinSelect :=
  { s with
    columns := respell (chosen .columns) Clause.select .raw s.columns
    filter := respell (chosen .filter) Clause.filter .raw s.filter
    order := respell (chosen .order) Clause.order .raw s.order
    limit := respell (chosen .limit) Clause.limit .raw s.limit
    lock := respell (chosen .lock) Clause.forUpdate .raw s.lock }

@[inherit_doc Select.respelled]
def Update.respelled (chosen : ClauseInput → Bool) (s : Update) : Update :=
  { s with
    set := respell (chosen .set) Clause.update .raw s.set
    filter := respell (chosen .filter) Clause.filter .raw s.filter }

@[inherit_doc Select.respelled]
def Delete.respelled (chosen : ClauseInput → Bool) (s : Delete) : Delete :=
  { s with filter := respell (chosen .filter) Clause.filter .raw s.filter }

/-- Respelling an input leaves the trimmed text of its clause as it was. -/
theorem Clause.Respells.trim_eq {α : Type} {clause : Option α → Clause} {raw : Text → α}
    (respells : Clause.Respells clause raw) (chosen : Bool) (input : Option α)
    : Text.trim (clause (respell chosen clause raw input)).assemble
      = Text.trim (clause input).assemble := by
  rw [respell]
  split
  · rw [respells, Text.trim_trim]
  · rfl

/-- Respelling the assignments leaves none only where there were none. -/
theorem Clause.update_respell_isEmpty (chosen : Bool) (set : Option Assignments)
    : (Clause.update (respell chosen Clause.update .raw set)).assemble.isEmpty
      = (Clause.update set).assemble.isEmpty := by
  have blank (input : Option Assignments)
      : (Clause.update input).assemble = [] ↔ Text.trim (Clause.update input).assemble = [] :=
    ((updateText_carries input).trim_eq_nil_iff set_isKeyword).symm
  rw [Bool.eq_iff_iff, List.isEmpty_iff, List.isEmpty_iff, blank, blank,
    reassembles.update.trim_eq]

section Lines

variable (chosen : ClauseInput → Bool)

theorem Select.respelled_toSql (s : Select) : (s.respelled chosen).toSql = s.toSql := by
  unfold Select.toSql
  refine congrArg _ (funext fun table => congrArg _ (Text.joinParts_congr ?_))
  simp only [Select.respelled, List.map_cons, Clause.reassembles.select.trim_eq,
    Clause.reassembles.filter.trim_eq, Clause.reassembles.groupBy.trim_eq,
    Clause.reassembles.order.trim_eq, Clause.reassembles.limit.trim_eq,
    Clause.reassembles.forUpdate.trim_eq]

theorem Sum.respelled_toSql (s : Sum) : (s.respelled chosen).toSql = s.toSql := by
  unfold Sum.toSql
  refine congrArg _ (funext fun table => ?_)
  refine congrArg (ite _ _) (congrArg _ (Text.joinParts_congr ?_))
  simp only [Sum.respelled, List.map_cons, Clause.reassembles.filter.trim_eq]

theorem Count.respelled_toSql (s : Count) : (s.respelled chosen).toSql = s.toSql := by
  unfold Count.toSql
  refine congrArg _ (funext fun table => congrArg _ (Text.joinParts_congr ?_))
  simp only [Count.respelled, List.map_cons, Clause.reassembles.filter.trim_eq]

theorem JoinSelect.respelled_toSql (s : JoinSelect) : (s.respelled chosen).toSql = s.toSql := by
  have given : (s.respelled chosen).parts? = s.parts? := rfl
  rw [JoinSelect.toSql, JoinSelect.toSql, given]
  rcases s.parts? with _ | ⟨table, other, join, field, otherField⟩
  · rfl
  · refine congrArg _ (Text.joinParts_congr ?_)
    simp only [JoinSelect.respelled, List.map_cons, Clause.reassembles.select.trim_eq,
      Clause.reassembles.filter.trim_eq, Clause.reassembles.order.trim_eq,
      Clause.reassembles.limit.trim_eq, Clause.reassembles.forUpdate.trim_eq]

/-- An update is refused for want of assignments whichever way they are spelled. -/
theorem Update.respelled_toSql (s : Update) : (s.respelled chosen).toSql = s.toSql := by
  unfold Update.toSql
  refine congrArg _ (funext fun table => ?_)
  simp only [Update.respelled, Clause.update_respell_isEmpty]
  refine congrArg (ite _ _) (congrArg _ (Text.joinParts_congr ?_))
  simp only [List.map_cons, Clause.reassembles.update.trim_eq, Clause.reassembles.filter.trim_eq]

theorem Delete.respelled_toSql (s : Delete) : (s.respelled chosen).toSql = s.toSql := by
  unfold Delete.toSql
  refine congrArg _ (funext fun table => congrArg _ (Text.joinParts_congr ?_))
  simp only [Delete.respelled, List.map_cons, Clause.reassembles.filter.trim_eq]

end Lines

/-- Every statement renders alike, text or error, whichever of its clause inputs are given back as
the text that they are assembled to, and assembling that text once more only trims it.
-/
structure SpelledAlike : Prop where
  reassembles : Clause.Reassembles
  select : ∀ chosen (s : Select), (s.respelled chosen).toSql = s.toSql
  sum : ∀ chosen (s : Sum), (s.respelled chosen).toSql = s.toSql
  count : ∀ chosen (s : Count), (s.respelled chosen).toSql = s.toSql
  joinSelect : ∀ chosen (s : JoinSelect), (s.respelled chosen).toSql = s.toSql
  update : ∀ chosen (s : Update), (s.respelled chosen).toSql = s.toSql
  delete : ∀ chosen (s : Delete), (s.respelled chosen).toSql = s.toSql

/-- Structured and raw clause inputs agree. -/
theorem clauses_spelled_alike : SpelledAlike where
  reassembles := Clause.reassembles
  select := Select.respelled_toSql
  sum := Sum.respelled_toSql
  count := Count.respelled_toSql
  joinSelect := JoinSelect.respelled_toSql
  update := Update.respelled_toSql
  delete := Delete.respelled_toSql

end SqlAssembly
