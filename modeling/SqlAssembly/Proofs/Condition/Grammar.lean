import SqlAssembly.Proofs.Literal.Reading
import SqlAssembly.Text.Blank

/-! A grammar of predicates and what they mean. Predicates compare fields with literals, conjunction
binds tighter than disjunction, and parentheses group. A row gives each field a text.
-/

namespace SqlAssembly.Grammar

open Reading (Part)

-----------------------------------------------------------------------------------------
-- Tokens
-----------------------------------------------------------------------------------------

/-- A run of word characters, any other character that is not blank, or a literal. -/
inductive Token where
  | word (s : Text)
  | symbol (c : Char)
  | literal (s : Text)
deriving DecidableEq

/-- The token of a word that was read, if there is one. -/
def wordToken (s : Text) : List Token :=
  if s.isEmpty then [] else [.word s]

/-- The tokens of the parts behind some word characters. -/
def tokensFrom (word : Text) : List Part → List Token
  | [] => wordToken word
  | .literal s :: rest => wordToken word ++ .literal s :: tokensFrom [] rest
  | .code c :: rest =>
      if Text.isWordChar c then tokensFrom (word ++ [c]) rest
      else if Text.isBlank c then wordToken word ++ tokensFrom [] rest
      else wordToken word ++ .symbol c :: tokensFrom [] rest

/-- The tokens of a text, unless it ends in a literal. -/
def tokens? (sql : Text) : Option (List Token) :=
  (Reading.parts sql).map (tokensFrom [])

-----------------------------------------------------------------------------------------
-- Expressions
-----------------------------------------------------------------------------------------

inductive Operator where
  | and
  | or
deriving DecidableEq

/-- A predicate that was read. The empty predicate asks nothing. -/
inductive Expression where
  | always
  | equals (field value : Text)
  | isIn (field : Text) (values : List Text)
  | numerals (left right : Text)
  | joined (op : Operator) (left right : Expression)
deriving DecidableEq

/-- The number that decimal digits stand for. -/
def numeralValue (digits : Text) : Nat :=
  digits.foldl (fun n c => 10 * n + (c.toNat - '0'.toNat)) 0

/-- The predicate holds of a row. -/
def Expression.holds (row : Text → Text) : Expression → Bool
  | always => true
  | equals field value => row field == value
  | isIn field values => values.contains (row field)
  | numerals left right => numeralValue left == numeralValue right
  | joined .and left right => left.holds row && right.holds row
  | joined .or left right => left.holds row || right.holds row

-----------------------------------------------------------------------------------------
-- Reading expressions
-----------------------------------------------------------------------------------------

/-- The word is the keyword, letters compared without ASCII case. -/
def isKeyword (keyword word : Text) : Bool :=
  word.map Char.toLower == keyword

def Operator.keyword : Operator → Text
  | and => "and"
  | or => "or"

theorem isKeyword_keyword (op : Operator) : isKeyword op.keyword op.keyword = true := by
  cases op <;> decide

def inKeyword : Text := "in"

/-- A plain identifier: a word that starts with a letter or an underscore and is no keyword. -/
def isField (s : Text) : Bool :=
  s.all Text.isWordChar
    && s.head?.any Text.isNameStart
    && !(isKeyword "and" s || isKeyword "or" s || isKeyword inKeyword s)

def isNumeral (s : Text) : Bool :=
  s.all Char.isDigit

/-- Literals with commas between them, up to the closing parenthesis. -/
def readItems : List Token → Option (List Text × List Token)
  | .literal s :: .symbol c :: rest =>
      if c = ')' then some ([s], rest)
      else if c = ',' then (readItems rest).map fun (items, rest) => (s :: items, rest)
      else none
  | _ => none

/-- A comparison of a field with a literal or a list of literals, or of two numbers. -/
def readComparison : List Token → Option (Expression × List Token)
  | .word field :: .symbol '=' :: .literal value :: rest =>
      if isField field then some (.equals field value, rest) else none
  | .word left :: .symbol '=' :: .word right :: rest =>
      if isNumeral left && isNumeral right then some (.numerals left right, rest) else none
  | .word field :: .word word :: .symbol '(' :: rest =>
      if isField field && isKeyword inKeyword word then
        (readItems rest).map fun (items, rest) => (.isIn field items, rest)
      else none
  | _ => none

/-- What may be read: a factor, or a chain of an operator. -/
inductive Level where
  | factor
  | chain (op : Operator)

/-- The links of a chain. Conjunctions are chains of factors, and disjunctions of conjunctions. -/
def Operator.link : Operator → Level
  | and => .factor
  | or => .chain .and

/-- An expression at the front of the tokens, and the tokens behind it. -/
def read : Nat → Level → List Token → Option (Expression × List Token)
  | 0, _, _ => none
  | fuel + 1, .factor, .symbol '(' :: tokens =>
      match read fuel (.chain .or) tokens with
      | some (e, .symbol ')' :: rest) => some (e, rest)
      | _ => none
  | _ + 1, .factor, tokens => readComparison tokens
  | fuel + 1, .chain op, tokens =>
      match read fuel op.link tokens with
      | some (first, .word w :: rest) =>
          if isKeyword op.keyword w then
            (read fuel (.chain op) rest).map fun (second, rest) => (.joined op first second, rest)
          else some (first, .word w :: rest)
      | result => result

/-- The expression that a text is. Every token is read at three levels at most. -/
def parse (sql : Text) : Option Expression :=
  match tokens? sql with
  | none => none
  | some [] => some .always
  | some tokens =>
      match read (3 * (tokens.length + 1)) (.chain .or) tokens with
      | some (e, []) => some e
      | _ => none

example
    : parse "a = '1' or b = 'x' and (c in ('y','z') or 1 = 0)"
      = some
          (.joined .or (.equals "a" "1")
            (.joined .and (.equals "b" "x")
              (.joined .or (.isIn "c" ["y".toList, "z".toList]) (.numerals "1" "0")))) := by
  decide +kernel

end SqlAssembly.Grammar
