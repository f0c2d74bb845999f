import SqlAssembly.Sqlite.Numeral
import SqlAssembly.Text.Blank

/-! The tokens of SQL as SQLite reads it. Inside quotes a quote is written twice and a backslash is
an ordinary character. Each token keeps the text that it was read from.
-/

namespace SqlAssembly.Sqlite

/-- What a token is. Whatever cannot be read is broken. -/
inductive TokenKind where
  | word (s : Text)
  | quotedName (s : Text)
  | doubleQuoted (s : Text)
  | text (s : Text)
  | blob (bytes : List Nat)
  | numeral (n : Numeral)
  | symbol (s : Text)
  | broken

/-- A token with its source, which includes what separates it from the one before. -/
structure Token where
  kind : TokenKind
  source : Text

namespace Token

/-- Words are of word characters, dollar signs and all that is not ASCII. -/
def isWord (c : Char) : Bool :=
  Text.isWordChar c || c == '$' || decide (0x80 ≤ c.toNat)

/-- The rest of a quoted text after its opening quote, and what follows it. -/
def quoted? (quote : Char) : Text → Option (Text × Text)
  | [] => none
  | c :: rest =>
      if c = quote then
        match rest with
        | next :: more =>
            if next = quote then (quoted? quote more).map fun (s, rest) => (quote :: s, rest)
            else some ([], next :: more)
        | [] => some ([], [])
      else (quoted? quote rest).map fun (s, rest) => (c :: s, rest)

/-- The bytes of pairs of hexadecimal digits. -/
def bytes? : Text → Option (List Nat)
  | [] => some []
  | a :: b :: rest => do
      let byte ← Json.hexValue? [a, b]
      let others ← bytes? rest
      some (byte :: others)
  | _ => none

/-- What follows the end of a block comment. -/
def afterComment : Text → Text
  | [] => []
  | '*' :: '/' :: rest => rest
  | _ :: rest => afterComment rest

/-- What follows the spaces and comments at the start of a text. -/
def skip : Nat → Text → Text
  | 0, s => s
  | fuel + 1, '-' :: '-' :: rest => skip fuel (rest.dropWhile (· != '\n'))
  | fuel + 1, '/' :: '*' :: rest => skip fuel (afterComment rest)
  | fuel + 1, c :: rest => if isSpace c then skip fuel rest else c :: rest
  | _ + 1, [] => []

def pairs : List Text := ["==", "!=", "<>", "<=", ">="]

def singles : Text := "(),;.*=<>+-?"

/-- A quoted token after its opening quote, and what follows it. -/
def readQuoted (kind : Text → TokenKind) (quote : Char) (s : Text) : TokenKind × Text :=
  match quoted? quote s with
  | some (t, rest) => (kind t, rest)
  | none => (.broken, [])

/-- The kind of the hexadecimal digits of a blob. -/
def blobKind (digits : Text) : TokenKind :=
  match bytes? digits with
  | some bytes => .blob bytes
  | none => .broken

/-- A number must not run into a word. -/
def readNumeral (s : Text) : TokenKind × Text :=
  match Numeral.read? s with
  | some (n, rest) => if rest.head?.any isWord then (.broken, rest) else (.numeral n, rest)
  | none => (.broken, s.drop 1)

/-- The token that a text starts with, and what follows it. -/
def next (c : Char) (rest : Text) : TokenKind × Text :=
  if c = Text.singleQuote then readQuoted .text c rest
  else if c = Text.doubleQuote then readQuoted .doubleQuoted c rest
  else if c = Text.backtick then readQuoted .quotedName c rest
  else if c.toLower = 'x' ∧ rest.head? = some Text.singleQuote then
    readQuoted blobKind Text.singleQuote (rest.drop 1)
  else if c.isDigit ∨ (c = '.' ∧ rest.head?.any Char.isDigit) then readNumeral (c :: rest)
  else if isWord c then (.word (c :: rest.takeWhile isWord), rest.dropWhile isWord)
  else if pairs.contains (c :: rest.take 1) then (.symbol (c :: rest.take 1), rest.drop 1)
  else if singles.contains c then (.symbol [c], rest)
  else (.broken, rest)

/-- The tokens of a text in order. Every token takes at least one character. -/
def scan : Nat → Text → List Token
  | 0, _ => []
  | fuel + 1, s =>
      match skip (s.length + 1) s with
      | [] => []
      | c :: rest =>
          let (kind, rest) := next c rest
          ⟨kind, s.take (s.length - rest.length)⟩ :: scan fuel rest

/-- The character that ends a text before its end. -/
def terminator : Char := '\x00'

def ofText (s : Text) : List Token :=
  let s := s.takeWhile (· != terminator)
  scan s.length s

/-- The token ends a statement. -/
def isSemicolon (t : Token) : Bool :=
  match t.kind with
  | .symbol [';'] => true
  | _ => false

/-- The statements of a token list, each without its semicolon; empty ones are left out. -/
def statements : List Token → List (List Token)
  | [] => []
  | t :: rest =>
      if t.isSemicolon then statements rest
      else if rest.head?.all isSemicolon then [t] :: statements rest
      else
        match statements rest with
        | s :: others => (t :: s) :: others
        | [] => [[t]]

/-- The text that a list of tokens was read from. -/
def sourceText (tokens : List Token) : Text :=
  Text.trim (tokens.flatMap (·.source))

end Token

end SqlAssembly.Sqlite
