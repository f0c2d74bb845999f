import SqlAssembly.Number.Basic

/-! Loosely typed values, as JSON knows them. An object is the list of its fields in the order in
which they were given, and the compact text of a value has no blanks between its parts.
-/

namespace SqlAssembly

inductive Json where
  | null
  | bool (value : Bool)
  | number (value : Number)
  | text (value : Text)
  | array (items : List Json)
  | object (fields : List (Text × Json))
deriving Inhabited

/-- Values by name, in the order in which they were given. -/
abbrev Values := List (Text × Json)

namespace Json

/-- The natural number n as a value. -/
def ofNat (n : Nat) : Json :=
  number (.natural n)

/-- A binary64 number as a value. There is none, and so null, for one that is not finite. -/
def ofReal : Option Binary64 → Json
  | none => null
  | some x => number (.real x)

def isNull : Json → Bool
  | null => true
  | _ => false

def boolText (b : Bool) : Text :=
  if b then "true" else "false"

def hexFour (n : Nat) : Text :=
  let digits := Nat.toDigits 16 n
  List.replicate (4 - digits.length) '0' ++ digits

/-- How one character is written inside a JSON string. -/
def escapedChar (c : Char) : Text :=
  if c = Text.doubleQuote ∨ c = Text.backslash then [Text.backslash, c]
  else if c = '\x08' then "\\b"
  else if c = '\x0c' then "\\f"
  else if c = '\n' then "\\n"
  else if c = '\r' then "\\r"
  else if c = '\t' then "\\t"
  else if c.toNat < 0x20 then "\\u".toList ++ hexFour c.toNat
  else [c]

def stringText (s : Text) : Text :=
  Text.doubleQuote :: s.flatMap escapedChar ++ [Text.doubleQuote]

mutual

def compact : Json → Text
  | null => "null"
  | bool b => boolText b
  | number n => n.text
  | text s => stringText s
  | array items => '[' :: Text.join "," (compactItems items) ++ [']']
  | object fields => '\x7b' :: Text.join "," (compactFields fields) ++ ['\x7d']

/-- The compact texts of the items of an array. -/
def compactItems : List Json → List Text
  | [] => []
  | item :: rest => compact item :: compactItems rest

/-- The compact texts of the fields of an object, key first. -/
def compactFields : List (Text × Json) → List Text
  | [] => []
  | (key, value) :: rest => (stringText key ++ ':' :: compact value) :: compactFields rest

end

end Json

namespace Values

/-- (get? values key) is the first value under that key. -/
def get? (values : Values) (key : Text) : Option Json :=
  values.lookup key

/-- (insert values key value) overwrites the value where the key stands, or adds it at the end. -/
def insert (values : Values) (key : Text) (value : Json) : Values :=
  match values with
  | [] => [(key, value)]
  | (k, v) :: rest => if k = key then (key, value) :: rest else (k, v) :: insert rest key value

/-- The values that are not null, in order. -/
def nonNull (values : Values) : Values :=
  values.filter fun (_, v) => !v.isNull

end Values

end SqlAssembly
