import SqlAssembly.Json.Basic

/-! Clause inputs. Each clause takes either raw SQL text, which is passed on, or structured data,
which the clause's own rule renders.
-/

namespace SqlAssembly

/-- A clause input: raw SQL, or structured data. -/
inductive Fragment (α : Type) where
  | raw (sql : Text)
  | structured (value : α)

inductive Direction where
  | ascending
  | descending
deriving DecidableEq

structure OrderTerm where
  field : Text
  direction : Direction

/-- A window of rows: how many to skip, and how many to take at most. -/
structure Window where
  offset : Nat
  count : Nat

/-- The columns and the rows of a multi-row insert. -/
structure BatchRows where
  columns : List Text
  rows : List (List Json)

/-- What a select projects. -/
abbrev Columns := Fragment (List Text)

/-- What a select sorts by. -/
abbrev SortOrder := Fragment (List OrderTerm)

/-- Which rows a select takes. -/
abbrev Limit := Fragment Window

/-- Whether a select locks its rows. -/
abbrev Lock := Fragment Bool

abbrev Assignments := Fragment Values

/-- The columns and values of an insert. -/
abbrev InsertValues := Fragment Values

end SqlAssembly
