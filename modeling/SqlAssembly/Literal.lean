import SqlAssembly.Json.Basic

/-! SQL literals. Inside single quotes a backslash protects the next character, so escaping puts
one before each backslash and each single quote and leaves every other character alone.
-/

namespace SqlAssembly.Literal

/-- A backslash or a single quote is written after a protecting backslash. -/
def escapeChar (c : Char) : Text :=
  if c = Text.backslash ∨ c = Text.singleQuote then [Text.backslash, c] else [c]

/-- A text as it is written between single quotes. -/
def escapeText (s : Text) : Text :=
  s.flatMap escapeChar

/-- A value as it is written between single quotes. Arrays and objects are written as their
compact JSON text, and null as the word NULL.
-/
def escape : Json → Text
  | .null => "NULL"
  | .bool b => Json.boolText b
  | .number n => n.text
  | .text s => escapeText s
  | value => escapeText value.compact

/-- A value between single quotes. -/
def quote (value : Json) : Text :=
  Text.inQuotes (escape value)

/-- Null, false, zero and the empty text are falsy. -/
def isFalsy : Json → Bool
  | .null => true
  | .bool b => !b
  | .number n => n.isZero
  | .text s => s.isEmpty
  | .array _ => false
  | .object _ => false

mutual

/-- A value as a literal of its own: numbers, truth values and null stand bare, texts and objects
are quoted, and an array is the list of its items' literals.
-/
def ofValue : Json → Text
  | .null => "NULL"
  | .bool b => Json.boolText b
  | .number n => n.text
  | .text s => Text.inQuotes (escapeText s)
  | .object fields => Text.inQuotes (escapeText (Json.compact (.object fields)))
  | .array items => Text.join ", " (ofItems items)

/-- The literals of the items of an array. -/
def ofItems : List Json → List Text
  | [] => []
  | item :: rest => ofValue item :: ofItems rest

end

/-- (assignments values) writes each value that is not null as an assignment to its column. -/
def assignments (values : Values) : List Text :=
  values.nonNull.map fun (column, value) => column ++ " = ".toList ++ quote value

end SqlAssembly.Literal
