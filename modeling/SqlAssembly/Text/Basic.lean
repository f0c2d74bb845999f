/-! Text is handled as the list of its characters, so every rule about it is a recursion on that
list. Keywords are written as strings and read as text.
-/

namespace SqlAssembly

/-- A text is the list of its characters. -/
abbrev Text := List Char

/-- A written string stands for its characters. -/
instance : Coe String Text := ⟨String.toList⟩

namespace Text

/-- The single quote, which encloses string literals in SQL. -/
def singleQuote : Char := '\x27'

def doubleQuote : Char := '\x22'

/-- The backtick, which encloses identifiers. -/
def backtick : Char := '\x60'

/-- The backslash, which protects the character after it. -/
def backslash : Char := '\\'

/-- A word character is an ASCII letter, an ASCII digit or the underscore. -/
def isWordChar (c : Char) : Bool :=
  c.isAlphanum || c == '_'

/-- A name starts with an ASCII letter or the underscore. -/
def isNameStart (c : Char) : Bool :=
  c.isAlpha || c == '_'

/-- (join separator parts) writes the parts in order with the separator between neighbours. -/
def join (separator : Text) (parts : List Text) : Text :=
  separator.intercalate parts

/-- The decimal digits of a natural number. -/
def ofNat (n : Nat) : Text :=
  Nat.toDigits 10 n

/-- A text between two single quotes. -/
def inQuotes (s : Text) : Text :=
  singleQuote :: s ++ [singleQuote]

/-- (splitAt? marker s) is what stands before and after the first marker character of s. -/
def splitAt? (marker : Char) : Text → Option (Text × Text)
  | [] => none
  | c :: rest =>
      if c = marker then some ([], rest)
      else (splitAt? marker rest).map fun (head, tail) => (c :: head, tail)

end Text

end SqlAssembly
