import SqlAssembly.Text.Basic

/-! TOML values and the tables they stand in. A table remembers how it came to be, because that
decides whether later lines may add to it.
-/

namespace SqlAssembly

namespace Toml

/-- How a table came to be: on the way to another header, by dotted keys, by its own header, or
written inline.
-/
inductive TableForm where
  | implied
  | dotted
  | header
  | inline
deriving DecidableEq

end Toml

/-- A TOML value. The value (tables) is an array of tables that headers add to; of floats and
dates it only matters that they are well-formed.
-/
inductive Toml where
  | text (value : Text)
  | integer (value : Int)
  | float
  | boolean (value : Bool)
  | date
  | array (items : List Toml)
  | table (form : Toml.TableForm) (entries : List (Text × Toml))
  | tables (elements : List (List (Text × Toml)))

namespace Toml

/-- The entries of a table, in order. -/
abbrev Entries := List (Text × Toml)

/-- Put a value under a key, in place of the one there. -/
def replace (entries : Entries) (key : Text) (value : Toml) : Entries :=
  match entries with
  | [] => [(key, value)]
  | (k, v) :: rest => if k = key then (key, value) :: rest else (k, v) :: replace rest key value

/-- (changeAt dotted change path form entries) applies the change to the table at the path, where
missing tables are made on the way. Inline tables are closed, a table with a header of its own
is closed to dotted keys, and of an array of tables the last one is meant.
-/
def changeAt (dotted : Bool) (change : TableForm → Entries → Option Entries)
    : List Text → TableForm → Entries → Option Entries
  | [], form, entries => change form entries
  | key :: path, _, entries =>
      match entries.lookup key with
      | none => do
          let form := if dotted then .dotted else .implied
          let inner ← changeAt dotted change path form []
          some (entries ++ [(key, table form inner)])
      | some (table form inner) =>
          if form = .inline ∨ (dotted ∧ form = .header) then none
          else do
            let inner ← changeAt dotted change path form inner
            some (replace entries key (table form inner))
      | some (tables elements) => do
          let last ← elements.getLast?
          let inner ← changeAt dotted change path .header last
          some (replace entries key (tables (elements.dropLast ++ [inner])))
      | some _ => none

/-- Put a value under the last key of a dotted key. A key that is not dotted must not stand in a
table made by dotted keys, and a dotted key must.
-/
def assign (path : List Text) (value : Toml) (form : TableForm) (entries : Entries)
    : Option Entries := do
  let key ← path.getLast?
  let place (form : TableForm) (entries : Entries) : Option Entries :=
    if (entries.lookup key).isSome ∨ (form = .dotted ↔ path.length = 1) then none
    else some (entries ++ [(key, value)])
  changeAt true place path.dropLast form entries

def openTable (path : List Text) (entries : Entries) : Option Entries := do
  let key ← path.getLast?
  let place (_ : TableForm) (entries : Entries) : Option Entries :=
    match entries.lookup key with
    | none => some (entries ++ [(key, table .header [])])
    | some (table .implied inner) => some (replace entries key (table .header inner))
    | some _ => none
  changeAt false place path.dropLast .header entries

/-- Add a table to the array of a double header. -/
def openElement (path : List Text) (entries : Entries) : Option Entries := do
  let key ← path.getLast?
  let place (_ : TableForm) (entries : Entries) : Option Entries :=
    match entries.lookup key with
    | none => some (entries ++ [(key, tables [[]])])
    | some (tables elements) => some (replace entries key (tables (elements ++ [[]])))
    | some _ => none
  changeAt false place path.dropLast .header entries

end Toml

end SqlAssembly
