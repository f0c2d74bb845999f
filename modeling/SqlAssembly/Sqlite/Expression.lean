import SqlAssembly.Sqlite.Numeral

/-! Expressions over one row, with the three truth values of SQL: a comparison with a null is
neither true nor false. A column of integers compares with a text as with the number it is.
-/

namespace SqlAssembly.Sqlite

/-- A row of the table: its key and its value. -/
structure Record where
  id : Int
  value : Cell

inductive Column where
  | id
  | value
deriving DecidableEq

inductive Comparison where
  | equal
  | notEqual
  | less
  | lessEqual
  | greater
  | greaterEqual

inductive Expression where
  | literal (value : Cell)
  | column (c : Column)
  | compare (comparison : Comparison) (left right : Expression)
  | isNull (operand : Expression)
  | negation (operand : Expression)
  | conjunction (left right : Expression)
  | disjunction (left right : Expression)

namespace Column

def text : Column → Text
  | id => "id"
  | value => "v"

def all : List Column := [id, value]

/-- The column of a name, letters compared without ASCII case. -/
def ofName? (name : Text) : Option Column :=
  all.find? fun c => c.text = name.map Char.toLower

end Column

/-- What a row holds in a column. -/
def Record.get (r : Record) : Column → Cell
  | .id => .integer r.id
  | .value => r.value

/-- Whether a comparison accepts an order. -/
def Comparison.accepts : Comparison → Ordering → Bool
  | equal, o => o.isEq
  | notEqual, o => !o.isEq
  | less, o => o.isLT
  | lessEqual, o => o.isLE
  | greater, o => o.isGT
  | greaterEqual, o => o.isGE

namespace Cell

/-- A truth value as a value: one, zero or null. -/
def ofTruth : Option Bool → Cell
  | some true => integer 1
  | some false => integer 0
  | none => null

/-- The truth of a value: a number is true unless it is zero. -/
def truth : Cell → Option Bool
  | null => none
  | integer n => some (n != 0)
  | real x => some (!x.isZero)
  | value =>
      match value.asNumber with
      | integer n => some (n != 0)
      | real x => some (!x.isZero)
      | _ => some false

/-- A comparison of two values, undecided when one of them is null. -/
def compare (comparison : Comparison) (a b : Cell) : Option Bool :=
  match a, b with
  | null, _ => none
  | _, null => none
  | a, b => some (comparison.accepts (a.order b))

end Cell

namespace Truth

def not : Option Bool → Option Bool :=
  Option.map (!·)

/-- A conjunction is false as soon as one side is. -/
def and : Option Bool → Option Bool → Option Bool
  | some false, _ => some false
  | _, some false => some false
  | some true, b => b
  | none, _ => none

/-- A disjunction is true as soon as one side is. -/
def or (a b : Option Bool) : Option Bool :=
  not (and (not a) (not b))

end Truth

namespace Expression

/-- The expression is the column of keys, beside which texts are read as numbers. -/
def isKey : Expression → Bool
  | column .id => true
  | _ => false

/-- The value of an expression in a row. -/
def eval (r : Record) : Expression → Cell
  | literal value => value
  | column c => r.get c
  | compare comparison a b =>
      let x := a.eval r
      let y := b.eval r
      let numeric := a.isKey || b.isKey
      .ofTruth
        (if numeric then x.asNumber.compare comparison y.asNumber else x.compare comparison y)
  | isNull a =>
      match a.eval r with
      | .null => .ofTruth (some true)
      | _ => .ofTruth (some false)
  | negation a => .ofTruth (Truth.not (a.eval r).truth)
  | conjunction a b => .ofTruth (Truth.and (a.eval r).truth (b.eval r).truth)
  | disjunction a b => .ofTruth (Truth.or (a.eval r).truth (b.eval r).truth)

/-- The row satisfies a condition that may be absent. -/
def holds (condition : Option Expression) (r : Record) : Bool :=
  match condition with
  | none => true
  | some e => (e.eval r).truth == some true

end Expression

end SqlAssembly.Sqlite
