import SqlAssembly.Json.Reader
import SqlAssembly.Toml.Basic

/-! TOML scalars. Strings come in four forms, basic or literal and on one or several lines; every
other scalar is one unquoted word whose shape decides what it is.
-/

namespace SqlAssembly.Toml

/-- Control characters other than the tab are not allowed in a text. -/
def isForbidden (c : Char) : Bool :=
  (c.toNat < 0x20 && c != '\t') || c.toNat == 0x7F

/-- The text without leading spaces and tabs. -/
def skipBlanks (s : Text) : Text :=
  s.dropWhile fun c => c == ' ' || c == '\t'

/-- What follows a line break at the start of a text. -/
def lineBreak? : Text → Option Text
  | '\n' :: rest => some rest
  | '\r' :: '\n' :: rest => some rest
  | _ => none

/-- What follows a comment at the start of a text, up to the line break; other text is left
alone.
-/
def skipComment? : Text → Option Text
  | '#' :: rest =>
      let comment := rest.takeWhile fun c => c != '\n'
      let after := rest.dropWhile fun c => c != '\n'
      if comment.getLast? = some '\r' ∧ after ≠ [] then
        if comment.dropLast.any isForbidden then none else some ('\r' :: after)
      else if comment.any isForbidden then none
      else some after
  | s => some s

/-- The text without leading blanks, line breaks and comments. -/
def skipLines? : Nat → Text → Option Text
  | 0, _ => none
  | fuel + 1, s => do
      let rest ← skipComment? (skipBlanks s)
      match lineBreak? rest with
      | some rest => skipLines? fuel rest
      | none => some rest

/-- The character of a code point, if there is one. -/
def ofCodePoint? (n : Nat) : Option Char :=
  if h : n.isValidChar then some (Char.ofNatAux n h) else none

/-- The character that an escape of so many hexadecimal digits stands for, and what follows. -/
def hexEscape? (count : Nat) (s : Text) : Option (Char × Text) := do
  let digits := s.take count
  if digits.length = count then
    let c ← ofCodePoint? (← Json.hexValue? digits)
    some (c, s.drop count)
  else none

/-- The character after a backslash that the escape stands for, and what follows. -/
def escape? : Text → Option (Char × Text)
  | 'b' :: rest => some ('\x08', rest)
  | 't' :: rest => some ('\t', rest)
  | 'n' :: rest => some ('\n', rest)
  | 'f' :: rest => some ('\x0c', rest)
  | 'r' :: rest => some ('\r', rest)
  | 'e' :: rest => some ('\x1b', rest)
  | '"' :: rest => some ('"', rest)
  | '\\' :: rest => some ('\\', rest)
  | 'x' :: rest => hexEscape? 2 rest
  | 'u' :: rest => hexEscape? 4 rest
  | 'U' :: rest => hexEscape? 8 rest
  | _ => none

/-- The rest of a basic string after its opening quote, and what follows it. -/
def basicString? : Nat → Text → Option (Text × Text)
  | 0, _ => none
  | fuel + 1, s =>
      match s with
      | [] => none
      | '"' :: rest => some ([], rest)
      | '\\' :: rest => do
          let (c, rest) ← escape? rest
          let (tail, rest) ← basicString? fuel rest
          some (c :: tail, rest)
      | c :: rest =>
          if isForbidden c then none
          else do
            let (tail, rest) ← basicString? fuel rest
            some (c :: tail, rest)

/-- The rest of a literal string after its opening quote, and what follows it. -/
def literalString? (s : Text) : Option (Text × Text) := do
  let (body, rest) ← Text.splitAt? Text.singleQuote s
  if body.any isForbidden then none else some (body, rest)

/-- How many quotes stand at the start of a text, five at most. -/
def quoteRun (quote : Char) (s : Text) : Nat :=
  ((s.take 5).takeWhile (· == quote)).length

/-- What follows a backslash at the end of a line: the next character that is no blank. -/
def lineEnd? (s : Text) : Option Text := do
  let rest ← lineBreak? (skipBlanks s)
  some (rest.dropWhile fun c => c == ' ' || c == '\t' || c == '\n' || c == '\r')

/-- The rest of a string on several lines after its opening quotes, and what follows it. Up to
two quotes may stand directly before the closing ones.
-/
def linesString? (quote : Char) : Nat → Text → Option (Text × Text)
  | 0, _ => none
  | fuel + 1, s =>
      let quotes := quoteRun quote s
      if 3 ≤ quotes then some (List.replicate (quotes - 3) quote, s.drop quotes)
      else
        match lineBreak? s with
        | some rest => do
            let (tail, rest) ← linesString? quote fuel rest
            some ('\n' :: tail, rest)
        | none =>
            match s with
            | [] => none
            | c :: rest =>
                if c = '\\' ∧ quote = '"' then
                  match lineEnd? rest with
                  | some rest => linesString? quote fuel rest
                  | none => do
                      let (c, rest) ← escape? rest
                      let (tail, rest) ← linesString? quote fuel rest
                      some (c :: tail, rest)
                else if isForbidden c then none
                else do
                  let (tail, rest) ← linesString? quote fuel rest
                  some (c :: tail, rest)

/-- A string of any form at the start of a text, and what follows it. A line break right after
the opening quotes of a string on several lines does not belong to it.
-/
def string? (s : Text) : Option (Text × Text) :=
  let several (quote : Char) (rest : Text) : Option (Text × Text) :=
    linesString? quote (rest.length + 1) ((lineBreak? rest).getD rest)
  match s with
  | '"' :: '"' :: '"' :: rest => several '"' rest
  | '"' :: rest => basicString? (rest.length + 1) rest
  | '\x27' :: '\x27' :: '\x27' :: rest => several '\x27' rest
  | '\x27' :: rest => literalString? rest
  | _ => none

/-- The digits of a run in which single underscores may stand between digits. -/
def digitRun? (isDigit : Char → Bool) (s : Text) : Option Text :=
  let parts := ((String.ofList s).splitOn "_").map String.toList
  if parts.all fun part => !part.isEmpty && part.all isDigit then some parts.flatten else none

/-- The number that digits of a base stand for. -/
def baseValue? (base : Nat) (digits : Text) : Option Nat :=
  digits.foldlM (fun n c => do
    let d ← Json.hexDigit? c
    if d < base then some (base * n + d) else none) 0

/-- The whole number that a word of a base stands for. -/
def based? (base : Nat) (s : Text) : Option Nat :=
  (digitRun? (fun c => (Json.hexDigit? c).any (· < base)) s).bind (baseValue? base)

/-- The decimal whole number that a word stands for; it has no leading zero. -/
def whole? (s : Text) : Option Nat := do
  let digits ← digitRun? Char.isDigit s
  if digits.length > 1 ∧ digits.head? = some '0' then none else baseValue? 10 digits

/-- A word without its sign, and whether it was negative. -/
def unsigned (s : Text) : Bool × Text :=
  match s with
  | '-' :: rest => (true, rest)
  | '+' :: rest => (false, rest)
  | rest => (false, rest)

/-- The integer that a word stands for. -/
def integer? (s : Text) : Option Int :=
  match s with
  | '0' :: 'x' :: digits => (based? 16 digits).map Int.ofNat
  | '0' :: 'o' :: digits => (based? 8 digits).map Int.ofNat
  | '0' :: 'b' :: digits => (based? 2 digits).map Int.ofNat
  | _ =>
      let (negative, digits) := unsigned s
      (whole? digits).map fun n => if negative then -(n : Int) else n

/-- A word is an exponent when it is digits after at most one sign. -/
def isExponent (s : Text) : Bool :=
  (digitRun? Char.isDigit (unsigned s).2).isSome

/-- A word is a float when it is a whole number with a fraction, an exponent or both, or a name of
an infinity or of no number.
-/
def isFloat (s : Text) : Bool :=
  let body := (unsigned s).2
  if body = "inf".toList ∨ body = "nan".toList then true
  else
    let isMark (c : Char) : Bool := c == 'e' || c == 'E'
    let mantissa := body.takeWhile fun c => !isMark c
    let exponent := body.dropWhile fun c => !isMark c
    let exponentFits := match exponent with
      | [] => true
      | _ :: digits => isExponent digits
    match Text.splitAt? '.' mantissa with
    | some (head, fraction) =>
        exponentFits && (whole? head).isSome && (digitRun? Char.isDigit fraction).isSome
    | none => !exponent.isEmpty && exponentFits && (whole? mantissa).isSome

/-- The number that so many digits at the start of a text stand for, and what follows. -/
def twoDigits? : Text → Option (Nat × Text)
  | a :: b :: rest =>
      if a.isDigit ∧ b.isDigit then some (Json.decimalValue [a, b], rest) else none
  | _ => none

/-- The number of days of a month. -/
def daysOf (year month : Nat) : Nat :=
  if month = 2 then
    if year % 4 = 0 ∧ (year % 100 ≠ 0 ∨ year % 400 = 0) then 29 else 28
  else if month ∈ [4, 6, 9, 11] then 30
  else 31

/-- What follows a calendar date at the start of a text. -/
def calendar? (s : Text) : Option Text := do
  let (century, s) ← twoDigits? s
  let (year, s) ← twoDigits? s
  match s with
  | '-' :: s => do
      let (month, s) ← twoDigits? s
      match s with
      | '-' :: s => do
          let (day, s) ← twoDigits? s
          if 1 ≤ month ∧ month ≤ 12 ∧ 1 ≤ day ∧ day ≤ daysOf (100 * century + year) month then
            some s
          else none
      | _ => none
  | _ => none

/-- What follows hours and minutes at the start of a text. -/
def hourMinute? (s : Text) : Option Text := do
  let (hour, s) ← twoDigits? s
  match s with
  | ':' :: s => do
      let (minute, s) ← twoDigits? s
      if hour < 24 ∧ minute < 60 then some s else none
  | _ => none

/-- What follows a fraction of a second at the start of a text, if it starts with one. -/
def subsecond? : Text → Option Text
  | '.' :: s => if s.head?.any Char.isDigit then some (s.dropWhile Char.isDigit) else none
  | s => some s

/-- What follows a time of day at the start of a text; the seconds may be left out. -/
def timeOfDay? (s : Text) : Option Text := do
  let s ← hourMinute? s
  match s with
  | ':' :: s => do
      let (second, s) ← twoDigits? s
      if second ≤ 60 then subsecond? s else none
  | s => some s

/-- A text is an offset from universal time, or nothing. -/
def isOffset : Text → Bool
  | [] => true
  | ['Z'] => true
  | ['z'] => true
  | '+' :: s => hourMinute? s == some []
  | '-' :: s => hourMinute? s == some []
  | _ => false

/-- A word is a date, a time of day, or both with an optional offset. -/
def isDate (s : Text) : Bool :=
  match calendar? s with
  | some [] => true
  | some (c :: rest) =>
      (c == 'T' || c == 't' || c == ' ') && (timeOfDay? rest).any isOffset
  | none => timeOfDay? s == some []

def isUnquoted (c : Char) : Bool :=
  c.isAlphanum || c == '_' || c == '-' || c == '+' || c == '.' || c == ':'

/-- The unquoted word at the start of a text, and what follows it. A time of day may follow a date
after one space.
-/
def word (s : Text) : Text × Text :=
  let head := s.takeWhile isUnquoted
  let rest := s.dropWhile isUnquoted
  match calendar? head, rest with
  | some [], ' ' :: next :: more =>
      if next.isDigit then
        (head ++ ' ' :: (next :: more).takeWhile isUnquoted, (next :: more).dropWhile isUnquoted)
      else (head, rest)
  | _, _ => (head, rest)

/-- The bounds between which integers are kept. -/
def keptBounds : Nat × Nat := (Nat.pow 2 127, Nat.pow 2 128)

/-- Integers are kept within 128 bits. -/
def isKept (n : Int) : Bool :=
  decide (-(keptBounds.1 : Int) ≤ n) && decide (n < (keptBounds.2 : Int))

/-- The value that an unquoted word stands for. -/
def ofWord? (s : Text) : Option Toml :=
  if s = "true".toList then some (boolean true)
  else if s = "false".toList then some (boolean false)
  else
    match integer? s with
    | some n => if isKept n then some (integer n) else none
    | none => if isFloat s then some float else if isDate s then some date else none

end SqlAssembly.Toml
