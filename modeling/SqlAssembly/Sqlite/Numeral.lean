import SqlAssembly.Json.Reader
import SqlAssembly.Sqlite.Cell

/-! Numbers as they are written in SQL. One without a point and an exponent is an integer while it
fits 64 bits, and any other is a binary64 number. A column of integers reads a text that is
such a number as that number.
-/

namespace SqlAssembly.Sqlite

/-- A number without its sign: the digits before and after the point, and the power of ten. The
power is absent where neither a point nor an exponent is written.
-/
structure Numeral where
  whole : Text
  decimals : Text := []
  exponent : Option Int := none

namespace Numeral

/-- The numeral at the start of a text, and what follows it. -/
def read? (s : Text) : Option (Numeral × Text) := do
  let whole := s.takeWhile Char.isDigit
  let (decimals, pointed, rest) := match s.dropWhile Char.isDigit with
    | '.' :: rest => (rest.takeWhile Char.isDigit, true, rest.dropWhile Char.isDigit)
    | rest => ([], false, rest)
  let (exponent, rest) ← Json.readExponent? rest
  if whole.isEmpty && decimals.isEmpty then none
  else
    let exponent := if pointed then some (exponent.getD 0) else exponent
    some (⟨whole, decimals, exponent⟩, rest)

/-- The value of a numeral, negated when the sign says so, unless it is too large. -/
def cell? (negative : Bool) (n : Numeral) : Option Cell :=
  let digits := Json.decimalValue (n.whole ++ n.decimals)
  let whole : Int := if negative then -(digits : Int) else digits
  if n.exponent.isNone && Cell.isInteger whole then some (.integer whole)
  else
    (Binary64.ofDecimal? negative ⟨digits, n.exponent.getD 0 - n.decimals.length⟩).map .real

end Numeral

def isSpace (c : Char) : Bool :=
  c == ' ' || c == '\t' || c == '\n' || c == '\x0b' || c == '\x0c' || c == '\r'

namespace Cell

/-- The sign at the start of a text, and what follows it. -/
def splitSign : Text → Bool × Text
  | '-' :: rest => (true, rest)
  | '+' :: rest => (false, rest)
  | rest => (false, rest)

/-- The number that a whole text is, apart from spaces around it. -/
def ofNumericText? (s : Text) : Option Cell :=
  let inner := ((s.dropWhile isSpace).reverse.dropWhile isSpace).reverse
  let (negative, digits) := splitSign inner
  match Numeral.read? digits with
  | some (n, []) => n.cell? negative
  | _ => none

/-- A number without a fractional part as the integer it is. -/
def wholeAsInteger : Cell → Cell
  | real x =>
      let (n, d) := (real x).fraction
      if n % d = 0 ∧ isInteger (n / d) then integer (n / d) else real x
  | value => value

/-- The value as a column of integers stores and compares it. -/
def asNumber : Cell → Cell
  | text s => ((ofNumericText? s).getD (text s)).wholeAsInteger
  | value => value.wholeAsInteger

end Cell

end SqlAssembly.Sqlite
