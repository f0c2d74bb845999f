import Mathlib.Data.List.Basic
import SqlAssembly.Proofs.Statement.InsertDecoding

/-! Inserts with a clause for duplicate keys. The line of the plain insert goes on with the clause,
which is read back as the assignments that it makes. Raw assignments that are blank are not
refused: they leave the plain insert.
-/

namespace SqlAssembly

open InsertBody (IsName)
open Reading (Ends Inert Part Reads valueText)
open Text (Spells)

-----------------------------------------------------------------------------------------
-- Assignments
-----------------------------------------------------------------------------------------

/-- What a column is set to when the row exists: a text, or what would have been inserted under a
column.
-/
inductive NewValue where
  | literal (text : Text)
  | inserted (column : Text)
deriving DecidableEq

structure Assignment where
  column : Text
  value : NewValue
deriving DecidableEq

namespace Assignment

def text : Assignment → Text
  | ⟨column, .literal s⟩ => column ++ " = ".toList ++ Text.inQuotes (Literal.escapeText s)
  | ⟨column, .inserted source⟩ => column ++ " = values(".toList ++ source ++ ")".toList

/-- The clause that makes the assignments. -/
def clause (made : List Assignment) : Text :=
  Insert.duplicateKeyword ++ ' ' :: Text.join ", " (made.map text)

/-- The code up to the first literal, and what is left from there. -/
def splitCode : List Part → Text × List Part
  | .code c :: rest => (c :: (splitCode rest).1, (splitCode rest).2)
  | rest => ([], rest)

/-- The assignment that parts behind a space are. -/
def ofParts? : List Part → Option Assignment
  | .code ' ' :: parts =>
      match splitCode parts with
      | (code, [.literal s]) =>
          (code.dropSuffix? " = ".toList).map fun column => ⟨column, .literal s⟩
      | (code, []) => do
          let (front, behind) ← Text.splitAt? '(' code
          let column ← front.dropSuffix? " = values".toList
          let source ← behind.dropSuffix? ")".toList
          return ⟨column, .inserted source⟩
      | _ => none
  | _ => none

/-- The assignments that a clause makes, which are the parts between commas behind its keyword. -/
def readClause? (sql : Text) : Option (List Assignment) := do
  let parts ← Reading.parts sql
  let behind ← parts.dropPrefix? (Insert.duplicateKeyword.map .code)
  (behind.splitOn (.code ',')).mapM ofParts?

-----------------------------------------------------------------------------------------
-- Clauses are read back
-----------------------------------------------------------------------------------------

/-- The columns have plain names. -/
def Named : Assignment → Prop
  | ⟨column, .literal _⟩ => IsName column
  | ⟨column, .inserted source⟩ => IsName column ∧ IsName source

/-- The parts that an assignment is written as. -/
def parts : Assignment → List Part
  | ⟨column, .literal s⟩ => (column ++ " = ".toList).map .code ++ [.literal s]
  | ⟨column, .inserted source⟩ =>
      (column ++ " = values".toList ++ '(' :: (source ++ ")".toList)).map .code

/-- The code in front is split off, by induction on it. -/
theorem splitCode_append (code : Text) (rest : List Part)
    : splitCode (code.map .code ++ rest) = (code ++ (splitCode rest).1, (splitCode rest).2) := by
  induction code with
  | nil => rfl
  | cons c code ih =>
      rw [List.map_cons, List.cons_append, splitCode, ih]
      rfl

theorem dropSuffix?_append (s suffixed : Text) : (s ++ suffixed).dropSuffix? suffixed = some s :=
  List.dropSuffix?_eq_some_iff.mpr ⟨suffixed, rfl, beq_self_eq_true suffixed⟩

theorem dropPrefix?_append (before behind : List Part)
    : (before ++ behind).dropPrefix? before = some behind :=
  List.dropPrefix?_eq_some_iff.mpr ⟨before, rfl, beq_self_eq_true before⟩

/-- A text is split at its first marker, by induction on what is in front. -/
theorem splitAt?_append {marker : Char} {front : Text} (free : marker ∉ front) (behind : Text)
    : Text.splitAt? marker (front ++ marker :: behind) = some (front, behind) := by
  induction front with
  | nil => rw [List.nil_append, Text.splitAt?, if_pos rfl]
  | cons c front ih =>
      obtain ⟨head, tail⟩ := not_or.mp (mt List.mem_cons.mpr free)
      rw [List.cons_append, Text.splitAt?, if_neg (Ne.symm head), ih tail]
      rfl

/-- An assignment is read from its parts. -/
theorem ofParts?_parts {a : Assignment} (named : a.Named)
    : ofParts? (.code ' ' :: a.parts) = some a := by
  obtain ⟨column, s | source⟩ := a
  · rw [parts, ofParts?, splitCode_append]
    simp [splitCode, dropSuffix?_append]
  · have free : '(' ∉ column ++ " = values".toList := by
      intro member
      rcases List.mem_append.mp member with within | fixed
      · exact named.1.not_mem rfl within
      · exact absurd fixed (by decide)
    have code := splitCode_append (column ++ " = values".toList ++ '(' :: (source ++ ")".toList)) []
    rw [List.append_nil] at code
    rw [parts, ofParts?, code]
    simp only [splitCode, List.append_nil, splitAt?_append free, Option.bind_eq_bind,
      Option.bind_some, dropSuffix?_append]
    rfl

theorem Named.reads {a : Assignment} (named : a.Named) : Reads a.text a.parts := by
  obtain ⟨column, s | source⟩ := a
  · have equals : Reads " = ".toList (" = ".toList.map .code) := Inert.reads (.of_all rfl)
    have code := (IsName.reads named).append equals
    rw [← List.map_append] at code
    exact code.append (Reads.inQuotes s)
  · have opening : Reads " = values(".toList (" = values(".toList.map .code) :=
      Inert.reads (.of_all rfl)
    have closing : Reads ")".toList (")".toList.map .code) := Inert.reads (.of_all rfl)
    have code := ((named.1.reads.append opening).append named.2.reads).append closing
    simpa [text, parts] using code

/-- There is no comma among the parts of an assignment. -/
theorem Named.comma_not_mem {a : Assignment} (named : a.Named)
    : Part.code ',' ∉ Part.code ' ' :: a.parts := by
  obtain ⟨column, s | source⟩ := a
  · simpa [parts] using IsName.not_mem named rfl
  · simpa [parts] using ⟨named.1.not_mem rfl, named.2.not_mem rfl⟩

/-- Behind one more space, the space behind a comma belongs to what follows it, by induction on the
texts.
-/
theorem cons_join {texts : List Text} (nonempty : texts ≠ [])
    : ' ' :: Text.join ", " texts = Text.join "," (texts.map (' ' :: ·)) := by
  induction texts with
  | nil => exact absurd rfl nonempty
  | cons text texts ih =>
      cases texts with
      | nil => simp [Text.join]
      | cons next texts =>
          have tail := ih (List.cons_ne_nil next texts)
          simp only [Text.join, List.map_cons, List.intercalate_cons_cons] at tail ⊢
          rw [← tail]
          simp

/-- Assignments are read one by one, by induction on them. -/
theorem mapM_ofParts? {made : List Assignment} (named : ∀ a ∈ made, a.Named)
    : (made.map fun a => .code ' ' :: a.parts).mapM ofParts? = some made := by
  induction made with
  | nil => rfl
  | cons a made ih =>
      have head := ofParts?_parts (named a List.mem_cons_self)
      have tail := ih fun b member => named b (List.mem_cons_of_mem a member)
      rw [List.map_cons, List.mapM_cons, head, tail]
      rfl

/-- A clause is read back as the assignments that it makes. -/
theorem readClause?_clause {made : List Assignment} (nonempty : made ≠ [])
    (named : ∀ a ∈ made, a.Named)
    : readClause? (clause made) = some made := by
  have keyword : Reads Insert.duplicateKeyword (Insert.duplicateKeyword.map .code) :=
    Inert.reads (.of_all rfl)
  have comma : Reads ",".toList [.code ','] := Inert.reads (.of_all rfl)
  have space : Reads [' '] [.code ' '] := Inert.reads (.of_all rfl)
  have each : ∀ a ∈ made, Reads (' ' :: a.text) (.code ' ' :: a.parts) := fun a member =>
    space.append (named a member).reads
  have reads := keyword.append (Reads.join comma made each)
  have spelled : Insert.duplicateKeyword ++ Text.join "," (made.map fun a => ' ' :: a.text)
      = clause made := by
    rw [clause, cons_join (by simpa using nonempty), List.map_map]
    rfl
  rw [spelled] at reads
  have free : ∀ chunk ∈ made.map fun a => .code ' ' :: a.parts, Part.code ',' ∉ chunk := by
    intro chunk member
    obtain ⟨a, listed, rfl⟩ := List.mem_map.mp member
    exact (named a listed).comma_not_mem
  have split := List.splitOn_intercalate _ free (by simpa using nonempty)
  rw [readClause?, reads.parts_eq]
  simp only [Option.bind_eq_bind, Option.bind_some, dropPrefix?_append, split,
    mapM_ofParts? named]

example
    : readClause? "on duplicate key update a = 'x, b = \\'y\\'', b = values(b)"
      = some [⟨"a", .literal "x, b = 'y'"⟩, ⟨"b", .inserted "b"⟩] := by
  decide +kernel

-----------------------------------------------------------------------------------------
-- Clauses that are rendered
-----------------------------------------------------------------------------------------

/-- The words that a clause for duplicate keys starts with. -/
def keywordWords : List Text :=
  ["on", "duplicate", "key", "update"]

theorem words_duplicateKeyword : Text.words Insert.duplicateKeyword = keywordWords := by
  decide

theorem duplicateKeyword_isKeyword : Text.IsKeyword Insert.duplicateKeyword :=
  ⟨by decide, by decide⟩

theorem ends_text (a : Assignment) : Ends a.text := by
  obtain ⟨column, s | source⟩ := a
  · exact Ends.append (Ends.append rfl)
  · exact Ends.append rfl

theorem trim_clause {made : List Assignment} (nonempty : made ≠ [])
    : Text.trim (clause made) = clause made := by
  have starts : (clause made).head?.any (fun c => !Text.isBlank c) = true := rfl
  exact Reading.trim_eq starts
    (Ends.append (Ends.cons (Ends.join ", ".toList nonempty fun a _ => ends_text a)))

/-- A text that is found behind the keyword, or gets it, spells the keyword's words. -/
theorem spells_keyword {sql : Text}
    (found : Text.startsWithKeyword sql Insert.duplicateKeyword = true)
    : Spells keywordWords sql := by
  rw [← words_duplicateKeyword]
  exact Spells.of_startsWithKeyword (by decide) found

theorem spells_behind (sql : Text) : Spells keywordWords (Insert.duplicateKeyword ++ ' ' :: sql) :=
  spells_keyword (duplicateKeyword_isKeyword.startsWithKeyword_append rfl)

/-- The assignments of the values that are not null. -/
def ofValues (values : Values) : List Assignment :=
  values.nonNull.map fun (column, value) => ⟨column, .literal (valueText value)⟩

/-- The assignments that refresh the columns of the values that are not null. -/
def refreshing (values : Values) : List Assignment :=
  values.nonNull.map fun (column, _) => ⟨column, .inserted column⟩

theorem map_text_ofValues (values : Values)
    : (ofValues values).map text = Literal.assignments values := by
  rw [ofValues, List.map_map]
  refine List.map_congr_left fun entry member => ?_
  have given := (Values.mem_nonNull.mp member).2
  exact congrArg (entry.1 ++ " = ".toList ++ ·) (Reading.quote_eq given).symm

theorem map_text_refreshing (values : Values)
    : (refreshing values).map text
      = values.nonNull.map fun (column, _) => Insert.refresh column := by
  rw [refreshing, List.map_map]
  rfl

end Assignment

namespace Insert

open Assignment (keywordWords readClause? ofValues refreshing)

variable {s : Insert} {set : Option Assignments} {line : Text}

/-- The line of the plain insert goes on behind a space, unless there is nothing to go on with. -/
theorem toSql_duplicate (plain : s.toSql .plain = .ok line) (set : Option Assignments)
    : s.toSql (.updateDuplicate set)
      = (s.duplicateClause set).map fun tail =>
          if Text.trim tail = [] then line else line ++ ' ' :: Text.trim tail := by
  have named := named plain
  have filled := filled plain
  rw [toSql_eq named filled] at plain ⊢
  have solid : ∃ part ∈ ["insert into".toList, Text.trim s.table, Clause.insertText s.values],
      Text.trim part ≠ [] :=
    ⟨Text.trim s.table, by simp, by rwa [Text.trim_trim]⟩
  have behind := Text.joinParts_append_last solid
  -- the plain insert has nothing as its last part, and so it is the line in front of the clause
  have front := (behind []).symm.trans (Except.ok.inj plain)
  have nothing : Text.trim [] = [] := rfl
  rw [if_pos nothing] at front
  have closing : s.closing (.updateDuplicate set) = s.duplicateClause set := rfl
  rw [closing, ← front]
  exact congrArg (Except.map · _) (funext behind)

/-- An insert that is refused as a plain one is refused in the same way with a clause. -/
theorem toSql_refused {e : ParamError} (refused : s.toSql .plain = .error e)
    (set : Option Assignments)
    : s.toSql (.updateDuplicate set) = .error e := by
  by_cases blank : Text.trim s.table = []
  · rw [toSql_unnamed blank] at refused ⊢
    exact refused
  · by_cases empty : Clause.insertText s.values = []
    · rw [toSql_empty blank empty] at refused ⊢
      exact refused
    · rw [toSql_eq blank empty] at refused
      cases refused

/-- Raw assignments that are not blank are a clause as they stand, or behind the keyword. -/
theorem withKeyword_cases {sql : Text} (solid : Text.isBlankText sql = false)
    : ∃ clause,
        Text.withKeyword sql duplicateKeyword = clause
        ∧ Spells keywordWords clause
        ∧ (clause = Text.trim sql ∨ clause = duplicateKeyword ++ ' ' :: Text.trim sql) := by
  rw [Text.isBlankText] at solid
  simp only [Text.withKeyword, solid, Bool.false_eq_true, if_false]
  split
  · next found => exact ⟨_, rfl, Assignment.spells_keyword found, .inl rfl⟩
  · exact ⟨_, rfl, Assignment.spells_behind _, .inr rfl⟩

theorem duplicateAssignments_eq (made : List Assignment)
    : duplicateAssignments (made.map Assignment.text)
      = if made = [] then .error .duplicateKeyEmpty else .ok (Assignment.clause made) := by
  cases made <;> rfl

theorem duplicateClause_structured (values : Values)
    : s.duplicateClause (some (.structured values))
      = if values.nonNull = [] then .error .duplicateKeyEmpty
        else .ok (Assignment.clause (ofValues values)) := by
  rw [duplicateClause, ← Assignment.map_text_ofValues, duplicateAssignments_eq]
  simp [ofValues]

theorem duplicateClause_default {values : Values} (given : s.values = some (.structured values))
    : s.duplicateClause none
      = if values.nonNull = [] then .error .duplicateKeyEmpty
        else .ok (Assignment.clause (refreshing values)) := by
  simp only [duplicateClause, given, ← Assignment.map_text_refreshing, duplicateAssignments_eq]
  simp [refreshing]

theorem duplicateClause_unassigned (other : ∀ values, s.values ≠ some (.structured values))
    : s.duplicateClause none = .error .duplicateKeyUnassigned := by
  rw [duplicateClause]
  split
  · next values given => exact absurd given (other values)
  · rfl

/-- The line of the insert goes on with a clause that makes exactly these assignments, and from
which they are read back.
-/
structure Makes (s : Insert) (set : Option Assignments) (made : List Assignment) : Prop where
  rendered
    : ∀ line,
        s.toSql .plain = .ok line
        → s.toSql (.updateDuplicate set) = .ok (line ++ ' ' :: Assignment.clause made)
  spelled : Spells keywordWords (Assignment.clause made)
  decoded
    : (∀ a ∈ made, IsName a.column) → readClause? (Assignment.clause made) = some made

theorem Makes.of_closed {made : List Assignment} (nonempty : made ≠ [])
    (named : ∀ a ∈ made, IsName a.column → a.Named)
    (closed : s.duplicateClause set = .ok (Assignment.clause made))
    : s.Makes set made where
  rendered line plain := by
    have solid : Assignment.clause made ≠ [] := List.cons_ne_nil _ _
    rw [toSql_duplicate plain, closed, Except.map, Assignment.trim_clause nonempty, if_neg solid]
  spelled := Assignment.spells_behind _
  decoded names :=
    Assignment.readClause?_clause nonempty fun a member => named a member (names a member)

theorem makes_structured {values : Values} (given : values.nonNull ≠ [])
    : s.Makes (some (.structured values)) (ofValues values) := by
  refine .of_closed (by simpa [ofValues] using given) ?_ ?_
  · intro a member isName
    obtain ⟨entry, -, rfl⟩ := List.mem_map.mp member
    exact isName
  · rw [duplicateClause_structured, if_neg given]

theorem makes_default {values : Values} (inserted : s.values = some (.structured values))
    (given : values.nonNull ≠ [])
    : s.Makes none (refreshing values) := by
  refine .of_closed (by simpa [refreshing] using given) ?_ ?_
  · intro a member isName
    obtain ⟨entry, -, rfl⟩ := List.mem_map.mp member
    exact ⟨isName, isName⟩
  · rw [duplicateClause_default inserted, if_neg given]

theorem toSql_raw {sql : Text} (plain : s.toSql .plain = .ok line)
    (solid : Text.isBlankText sql = false)
    : ∃ clause,
        s.toSql (.updateDuplicate (some (.raw sql))) = .ok (line ++ ' ' :: clause)
        ∧ Spells keywordWords clause
        ∧ (clause = Text.trim sql ∨ clause = duplicateKeyword ++ ' ' :: Text.trim sql) := by
  obtain ⟨clause, given, spelled, written⟩ := withKeyword_cases solid
  have filled : Text.withKeyword sql duplicateKeyword ≠ [] := by
    rw [Ne, Text.withKeyword_eq_nil_iff]
    simpa [Text.isBlankText] using solid
  refine ⟨clause, ?_, spelled, written⟩
  rw [toSql_duplicate plain, duplicateClause, Except.map,
    Text.trim_withKeyword Assignment.duplicateKeyword_isKeyword, if_neg filled, given]

/-- Blank raw assignments are left out, and the plain insert remains. -/
theorem toSql_blank {sql : Text} (plain : s.toSql .plain = .ok line)
    (blank : Text.isBlankText sql = true)
    : s.toSql (.updateDuplicate (some (.raw sql))) = .ok line := by
  have nothing : Text.withKeyword sql duplicateKeyword = [] := by
    rw [Text.withKeyword_eq_nil_iff]
    simpa [Text.isBlankText] using blank
  rw [toSql_duplicate plain, duplicateClause, Except.map, nothing]
  rfl

theorem toSql_allNull {values : Values} (plain : s.toSql .plain = .ok line)
    (none : values.nonNull = [])
    : s.toSql (.updateDuplicate (some (.structured values))) = .error .duplicateKeyEmpty := by
  rw [toSql_duplicate plain, duplicateClause_structured, if_pos none]
  rfl

theorem toSql_unassigned (plain : s.toSql .plain = .ok line)
    (other : ∀ values, s.values ≠ some (.structured values))
    : s.toSql (.updateDuplicate none) = .error .duplicateKeyUnassigned := by
  rw [toSql_duplicate plain, duplicateClause_unassigned other]
  rfl

/-- Whatever the assignments are, a clause is left out only when they are raw and blank. -/
theorem toSql_cases (plain : s.toSql .plain = .ok line) {sql : Text}
    (rendered : s.toSql (.updateDuplicate set) = .ok sql)
    : (sql = line ∧ ∃ raw, set = some (.raw raw) ∧ Text.isBlankText raw = true)
      ∨ ∃ clause, sql = line ++ ' ' :: clause ∧ Spells keywordWords clause := by
  have behind {made : List Assignment} (makes : s.Makes set made)
      : ∃ clause, sql = line ++ ' ' :: clause ∧ Spells keywordWords clause :=
    ⟨_, Except.ok.inj (rendered.symm.trans (makes.rendered line plain)), makes.spelled⟩
  rcases set with _ | raw | values
  · by_cases inserted : ∃ values, s.values = some (.structured values)
    · obtain ⟨values, inserted⟩ := inserted
      have body := filled plain
      rw [inserted, Ne, Clause.insertText_eq_nil_iff] at body
      exact .inr (behind (makes_default inserted body))
    · rw [toSql_unassigned plain (not_exists.mp inserted)] at rendered
      cases rendered
  · by_cases blank : Text.isBlankText raw = true
    · rw [toSql_blank plain blank] at rendered
      exact .inl ⟨(Except.ok.inj rendered).symm, raw, rfl, blank⟩
    · obtain ⟨clause, carried, spelled, -⟩ := toSql_raw plain (Bool.eq_false_iff.mpr blank)
      exact .inr ⟨clause, Except.ok.inj (rendered.symm.trans carried), spelled⟩
  · by_cases none : values.nonNull = []
    · rw [toSql_allNull plain none] at rendered
      cases rendered
    · exact .inr (behind (makes_structured none))

/-- How an insert treats rows that exist. It is refused when the plain insert is, and when there is
nothing to assign, except that raw assignments that are blank leave the plain insert. Otherwise
the plain insert goes on with a clause: raw assignments as they stand, values that are not null one
by one, and by default every column that is inserted.
-/
structure CarriesClause (s : Insert) : Prop where
  refused
    : ∀ e set, s.toSql .plain = .error e → s.toSql (.updateDuplicate set) = .error e
  carried
    : ∀ line set sql,
        s.toSql .plain = .ok line
        → s.toSql (.updateDuplicate set) = .ok sql
        → (sql = line ∧ ∃ raw, set = some (.raw raw) ∧ Text.isBlankText raw = true)
          ∨ ∃ clause, sql = line ++ ' ' :: clause ∧ Spells keywordWords clause
  degraded
    : ∀ line sql,
        s.toSql .plain = .ok line
        → Text.isBlankText sql = true
        → s.toSql (.updateDuplicate (some (.raw sql))) = .ok line
  raw
    : ∀ line sql,
        s.toSql .plain = .ok line
        → Text.isBlankText sql = false
        → ∃ clause,
            s.toSql (.updateDuplicate (some (.raw sql))) = .ok (line ++ ' ' :: clause)
            ∧ Spells keywordWords clause
            ∧ (clause = Text.trim sql ∨ clause = duplicateKeyword ++ ' ' :: Text.trim sql)
  structured
    : ∀ values, values.nonNull ≠ [] → s.Makes (some (.structured values)) (ofValues values)
  allNull
    : ∀ line values,
        s.toSql .plain = .ok line
        → values.nonNull = []
        → s.toSql (.updateDuplicate (some (.structured values))) = .error .duplicateKeyEmpty
  default
    : ∀ values,
        s.values = some (.structured values)
        → values.nonNull ≠ []
        → s.Makes none (refreshing values)
  unassigned
    : ∀ line,
        s.toSql .plain = .ok line
        → (∀ values, s.values ≠ some (.structured values))
        → s.toSql (.updateDuplicate none) = .error .duplicateKeyUnassigned

/-- Only blank raw assignments degrade an insert to a plain one. -/
theorem clause_carried (s : Insert) : s.CarriesClause where
  refused _ set refused := toSql_refused refused set
  carried _ _ _ plain rendered := toSql_cases plain rendered
  degraded _ _ plain blank := toSql_blank plain blank
  raw _ _ plain solid := toSql_raw plain solid
  structured _ given := makes_structured given
  allNull _ _ plain none := toSql_allNull plain none
  default _ inserted given := makes_default inserted given
  unassigned _ plain other := toSql_unassigned plain other

/-- Assignments that are one blank leave the plain insert, which fails at a row that exists. -/
theorem blank_assignments_degrade
    : ¬∀ (s : Insert) (set : Option Assignments),
        (∃ e, s.toSql (.updateDuplicate set) = .error e)
        ∨ ∃ line clause,
            s.toSql .plain = .ok line
            ∧ s.toSql (.updateDuplicate set) = .ok (line ++ ' ' :: clause) := by
  intro never
  have plain : toSql ⟨"users", some (.structured [("id", .ofNat 1)])⟩ .plain
      = .ok "insert into users (id) values ('1')" := rfl
  have degraded := toSql_blank plain (rfl : Text.isBlankText " " = true)
  rcases never _ _ with ⟨e, refused⟩ | ⟨line, clause, rendered, carried⟩
  · cases degraded.symm.trans refused
  · have same : line = "insert into users (id) values ('1')".toList :=
      Except.ok.inj (rendered.symm.trans plain)
    have longer := Except.ok.inj (degraded.symm.trans carried)
    simp [same] at longer

end Insert

end SqlAssembly
