import SqlAssembly.Json.Basic

/-! Reading JSON text. The fields of an object keep the order of the text, and a number keeps the
kind that its text decides. Reading never looks at a character twice at the same depth, so the
length of the text bounds the work.
-/

namespace SqlAssembly.Json

/-- The text without leading JSON whitespace. -/
def skipSpace (s : Text) : Text :=
  s.dropWhile fun c => c == ' ' || c == '\t' || c == '\n' || c == '\r'

def hexDigit? (c : Char) : Option Nat :=
  if '0' ≤ c ∧ c ≤ '9' then some (c.toNat - 48)
  else if 'a' ≤ c ∧ c ≤ 'f' then some (c.toNat - 87)
  else if 'A' ≤ c ∧ c ≤ 'F' then some (c.toNat - 55)
  else none

/-- The number that hexadecimal digits stand for. -/
def hexValue? : Text → Option Nat
  | [] => none
  | digits => digits.foldlM (fun n c => (hexDigit? c).map (16 * n + ·)) 0

/-- Four hexadecimal digits at the start of a text, and what follows them. -/
def readUnit? : Text → Option (Nat × Text)
  | a :: b :: c :: d :: rest => (hexValue? [a, b, c, d]).map (·, rest)
  | _ => none

/-- The character of a unicode escape, which takes two units beyond the basic plane, and what
follows it.
-/
def readUnicode? (s : Text) : Option (Char × Text) := do
  let (high, rest) ← readUnit? s
  if 0xD800 ≤ high ∧ high < 0xDC00 then
    match rest with
    | '\\' :: 'u' :: rest => do
        let (low, rest) ← readUnit? rest
        if 0xDC00 ≤ low ∧ low < 0xE000 then
          some (Char.ofNat (0x10000 + (high - 0xD800) * 0x400 + (low - 0xDC00)), rest)
        else none
    | _ => none
  else if 0xDC00 ≤ high ∧ high < 0xE000 then none
  else some (Char.ofNat high, rest)

/-- The character that a one-letter escape stands for. -/
def simpleEscape? : Char → Option Char
  | '"' => some '"'
  | '\\' => some '\\'
  | '/' => some '/'
  | 'b' => some '\x08'
  | 'f' => some '\x0c'
  | 'n' => some '\n'
  | 'r' => some '\r'
  | 't' => some '\t'
  | _ => none

/-- The rest of a string after its opening quote, and what follows its closing quote. -/
def readString? : Nat → Text → Option (Text × Text)
  | 0, _ => none
  | fuel + 1, s =>
      match s with
      | [] => none
      | '"' :: rest => some ([], rest)
      | '\\' :: 'u' :: rest => do
          let (c, rest) ← readUnicode? rest
          let (tail, rest) ← readString? fuel rest
          some (c :: tail, rest)
      | '\\' :: c :: rest => do
          let c ← simpleEscape? c
          let (tail, rest) ← readString? fuel rest
          some (c :: tail, rest)
      | c :: rest =>
          if c.toNat < 0x20 then none
          else do
            let (tail, rest) ← readString? fuel rest
            some (c :: tail, rest)

/-- The natural number that decimal digits stand for. -/
def decimalValue (digits : Text) : Nat :=
  digits.foldl (fun n c => 10 * n + (c.toNat - 48)) 0

/-- The digits after a point at the start of a text, if any, and what follows them. -/
def readFraction? : Text → Option (Option Text × Text)
  | '.' :: rest =>
      let digits := rest.takeWhile Char.isDigit
      if digits.isEmpty then none else some (some digits, rest.dropWhile Char.isDigit)
  | s => some (none, s)

/-- The exponent at the start of a text, if any, and what follows it. -/
def readExponent? : Text → Option (Option Int × Text)
  | [] => some (none, [])
  | c :: rest =>
      if c = 'e' ∨ c = 'E' then
        let (negative, rest) := match rest with
          | '-' :: rest => (true, rest)
          | '+' :: rest => (false, rest)
          | rest => (false, rest)
        let digits := rest.takeWhile Char.isDigit
        if digits.isEmpty then none
        else
          let e : Int := decimalValue digits
          some (some (if negative then -e else e), rest.dropWhile Char.isDigit)
      else some (none, c :: rest)

/-- The number at the start of a text, of the kind that its writing decides, and what follows. -/
def readNumber? (s : Text) : Option (Number × Text) := do
  let (negative, rest) := match s with
    | '-' :: rest => (true, rest)
    | rest => (false, rest)
  let whole := rest.takeWhile Char.isDigit
  if whole.isEmpty then none
  else
    let (fraction, rest) ← readFraction? (rest.dropWhile Char.isDigit)
    let (exponent, rest) ← readExponent? rest
    match fraction, exponent with
    | none, none => (Number.ofInteger? negative (decimalValue whole)).map (·, rest)
    | _, _ =>
        let decimals := fraction.getD []
        let x : Decimal :=
          ⟨decimalValue (whole ++ decimals), exponent.getD 0 - decimals.length⟩
        (Binary64.ofDecimal? negative x).map (.real ·, rest)

mutual

/-- The value at the start of a text, and what follows it. -/
def readValue? : Nat → Text → Option (Json × Text)
  | 0, _ => none
  | fuel + 1, s =>
      match skipSpace s with
      | 'n' :: 'u' :: 'l' :: 'l' :: rest => some (null, rest)
      | 't' :: 'r' :: 'u' :: 'e' :: rest => some (bool true, rest)
      | 'f' :: 'a' :: 'l' :: 's' :: 'e' :: rest => some (bool false, rest)
      | '"' :: rest => (readString? (rest.length + 1) rest).map fun (s, rest) => (text s, rest)
      | '[' :: rest =>
          match skipSpace rest with
          | ']' :: rest => some (array [], rest)
          | rest => (readItems? fuel rest).map fun (items, rest) => (array items, rest)
      | '\x7b' :: rest =>
          match skipSpace rest with
          | '\x7d' :: rest => some (object [], rest)
          | rest => (readFields? fuel rest).map fun (fields, rest) => (object fields, rest)
      | rest => (readNumber? rest).map fun (n, rest) => (number n, rest)

/-- One or more items up to the closing bracket, and what follows it. -/
def readItems? : Nat → Text → Option (List Json × Text)
  | 0, _ => none
  | fuel + 1, s => do
      let (item, rest) ← readValue? fuel s
      match skipSpace rest with
      | ',' :: rest => do
          let (items, rest) ← readItems? fuel rest
          some (item :: items, rest)
      | ']' :: rest => some ([item], rest)
      | _ => none

/-- One or more fields up to the closing brace, and what follows it. -/
def readFields? : Nat → Text → Option (List (Text × Json) × Text)
  | 0, _ => none
  | fuel + 1, s =>
      match skipSpace s with
      | '"' :: rest => do
          let (key, rest) ← readString? (rest.length + 1) rest
          match skipSpace rest with
          | ':' :: rest => do
              let (value, rest) ← readValue? fuel rest
              match skipSpace rest with
              | ',' :: rest => do
                  let (fields, rest) ← readFields? fuel rest
                  some ((key, value) :: fields, rest)
              | '\x7d' :: rest => some ([(key, value)], rest)
              | _ => none
          | _ => none
      | _ => none

end

/-- The value that a whole text stands for. -/
def read? (s : Text) : Option Json := do
  let (value, rest) ← readValue? (s.length + 1) s
  if (skipSpace rest).isEmpty then some value else none

end SqlAssembly.Json
