import SqlAssembly.Proofs.Text.Keyword
import SqlAssembly.Statement.Write

/-! The lines that inserts are rendered to: the opening words, the table and the body with single
spaces between them, and a closing clause behind them if there is one.
-/

namespace SqlAssembly

variable {table : Text}

/-- A table that is not blank is required by its trimmed name. -/
theorem requireTable_ok (named : Text.trim table ≠ [])
    : requireTable table = .ok (Text.trim table) := by
  rw [requireTable, if_neg (by simpa using named)]

theorem requireTable_blank (blank : Text.trim table = [])
    : requireTable table = .error .tableMissing := by
  rw [requireTable, blank]
  rfl

/-- The line of an insert into a table with the given body. -/
def insertLine (table body : Text) : Text :=
  "insert into".toList ++ ' ' :: Text.trim table ++ ' ' :: body

/-- Words, a table and a body are only joined, when there is a table and a body without blanks
around it.
-/
theorem joinParts_insertLine {body : Text} (named : Text.trim table ≠ [])
    (trimmed : Text.trim body = body) (filled : body ≠ [])
    : Text.joinParts ["insert into", Text.trim table, body] = insertLine table body := by
  have parts : ∀ part ∈ ["insert into".toList, Text.trim table, body],
      Text.trim part = part ∧ part ≠ [] := by
    intro part member
    simp only [List.mem_cons, List.not_mem_nil, or_false] at member
    rcases member with rfl | rfl | rfl
    · exact ⟨rfl, List.cons_ne_nil _ _⟩
    · exact ⟨Text.trim_trim table, named⟩
    · exact ⟨trimmed, filled⟩
  rw [Text.joinParts_trimmed parts, Text.join_cons]
  unfold insertLine
  simp

namespace Insert

variable {s : Insert} {mode : InsertMode} {sql : Text}

/-- An insert with a table and a body is rendered when its closing clause is. -/
theorem toSql_eq (named : Text.trim s.table ≠ []) (filled : Clause.insertText s.values ≠ [])
    (mode : InsertMode)
    : s.toSql mode
      = (s.closing mode).map fun tail =>
          Text.joinParts [opening mode, Text.trim s.table, Clause.insertText s.values, tail] := by
  have body : (Clause.insert s.values).assemble = Clause.insertText s.values := rfl
  rw [toSql, requireTable_ok named]
  simp only [body, bind, Except.bind]
  rw [if_neg (by simpa using filled)]
  cases s.closing mode <;> rfl

theorem toSql_unnamed (blank : Text.trim s.table = []) (mode : InsertMode)
    : s.toSql mode = .error .tableMissing := by
  rw [toSql, requireTable_blank blank]
  rfl

theorem toSql_empty (named : Text.trim s.table ≠ []) (empty : Clause.insertText s.values = [])
    (mode : InsertMode)
    : s.toSql mode = .error .insertEmpty := by
  have body : (Clause.insert s.values).assemble = [] := empty
  rw [toSql, requireTable_ok named]
  simp only [body, bind, Except.bind]
  rfl

/-- An insert that has a text names its table. -/
theorem named (rendered : s.toSql mode = .ok sql) : Text.trim s.table ≠ [] := by
  intro blank
  rw [toSql_unnamed blank] at rendered
  cases rendered

/-- An insert that has a text has a body. -/
theorem filled (rendered : s.toSql mode = .ok sql) : Clause.insertText s.values ≠ [] := by
  intro empty
  rw [toSql_empty (named rendered) empty] at rendered
  cases rendered

/-- A plain insert without blanks around its body is one line. -/
theorem toSql_plain (named : Text.trim s.table ≠ []) (filled : Clause.insertText s.values ≠ [])
    (trimmed : Text.trim (Clause.insertText s.values) = Clause.insertText s.values)
    : s.toSql .plain = .ok (insertLine s.table (Clause.insertText s.values)) := by
  rw [toSql_eq named filled, ← joinParts_insertLine named trimmed filled]
  exact congrArg Except.ok
    (Text.joinParts_nothing ["insert into", Text.trim s.table, Clause.insertText s.values] [])

end Insert

end SqlAssembly
