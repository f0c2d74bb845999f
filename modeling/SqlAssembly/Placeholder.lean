import SqlAssembly.Error
import SqlAssembly.Literal

/-! Placeholders of raw SQL and the values that replace them. Where the placeholders stand is
settled by the source text alone; filling them in then copies every other character.
-/

namespace SqlAssembly

/-- The values for the placeholders of one statement. -/
inductive Replacements where
  | none
  | named (values : Values)
  | positional (values : List Json)

namespace Replacements

/-- There is no value to put in. -/
def isEmpty : Replacements → Bool
  | none => true
  | named values => values.isEmpty
  | positional values => values.isEmpty

end Replacements

namespace Placeholder

/-- Which placeholders are looked for: question marks, or names after a colon. -/
inductive Style where
  | positional
  | named
deriving DecidableEq

/-- A piece of a source text: a character to copy, or a placeholder. -/
inductive Piece where
  | copied (c : Char)
  | positional
  | named (name : Text)

/-- Where a scan stands: outside quotes after the given character, inside the name of a
placeholder, inside a quote opened by the given character, or after a backslash in there.
-/
inductive Place where
  | outside (previous : Option Char)
  | inName (previous : Char)
  | inside (quote : Char)
  | afterBackslash (quote : Char)

def isQuote (c : Char) : Bool :=
  c == Text.singleQuote || c == Text.doubleQuote || c == Text.backtick

/-- A colon starts a name unless a word character or a colon stands before it, and only when the
start of a name follows.
-/
def startsName (previous : Option Char) (rest : Text) : Bool :=
  previous.all (fun p => !(Text.isWordChar p || p == ':')) && rest.head?.any Text.isNameStart

/-- One character outside quotes: the piece it is, and where the scan stands after it. -/
def stepOutside (style : Style) (previous : Option Char) (c : Char) (rest : Text)
    : Piece × Place :=
  if isQuote c then (.copied c, .inside c)
  else if c = '?' ∧ style = .positional then (.positional, .outside c)
  else if c = ':' ∧ style = .named ∧ startsName previous rest then
    (.named (rest.takeWhile Text.isWordChar), .inName c)
  else (.copied c, .outside c)

/-- One character inside a quote: where the scan stands after it. A backslash protects the next
character except between backticks.
-/
def stepInside (quote c : Char) : Place :=
  if c = Text.backslash ∧ quote ≠ Text.backtick then .afterBackslash quote
  else if c = quote then .outside c
  else .inside quote

/-- The pieces of a source text, in order. -/
def pieces (style : Style) : Place → Text → List Piece
  | _, [] => []
  | .outside previous, c :: rest =>
      let (piece, next) := stepOutside style previous c rest
      piece :: pieces style next rest
  | .inName previous, c :: rest =>
      if Text.isWordChar c then pieces style (.inName c) rest
      else
        let (piece, next) := stepOutside style previous c rest
        piece :: pieces style next rest
  | .inside quote, c :: rest => .copied c :: pieces style (stepInside quote c) rest
  | .afterBackslash quote, c :: rest => .copied c :: pieces style (.inside quote) rest

/-- The pieces of a whole source text. -/
def scan (style : Style) (sql : Text) : List Piece :=
  pieces style (.outside none) sql

/-- The text of the pieces with question marks filled from the list in order. -/
def fillPositional : List Piece → List Json → Except ParamError Text
  | [], _ => .ok []
  | .copied c :: rest, values => (fillPositional rest values).map (c :: ·)
  | .named name :: _, _ => .error (.namedMissing name)
  | .positional :: _, [] => .error .positionalMissing
  | .positional :: rest, value :: values =>
      (fillPositional rest values).map (Literal.ofValue value ++ ·)

/-- The text of the pieces with each name filled by its value. -/
def fillNamed (values : Values) : List Piece → Except ParamError Text
  | [] => .ok []
  | .copied c :: rest => (fillNamed values rest).map (c :: ·)
  | .positional :: _ => .error .positionalMissing
  | .named name :: rest =>
      match values.get? name with
      | some value => (fillNamed values rest).map (Literal.ofValue value ++ ·)
      | none => .error (.namedMissing name)

/-- (bind sql replacements) is the text with its placeholders replaced by the literals of their
values, or the error of the first placeholder that has none.
-/
def bind (sql : Text) : Replacements → Except ParamError Text
  | .none => .ok sql
  | .positional values => fillPositional (scan .positional sql) values
  | .named values => fillNamed values (scan .named sql)

end Placeholder

end SqlAssembly
