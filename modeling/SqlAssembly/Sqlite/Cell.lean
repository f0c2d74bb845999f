import SqlAssembly.Json.Basic

/-! The values that an SQLite database stores, what they are read as, how they are written in SQL,
and how they compare.
-/

namespace SqlAssembly.Sqlite

/-- A stored value. -/
inductive Cell where
  | null
  | integer (value : Int)
  | real (value : Binary64)
  | text (value : Text)
  | blob (bytes : List Nat)

namespace Cell

/-- Integers have 64 bits. -/
def isInteger (n : Int) : Bool :=
  decide (-(Number.negativeLimit : Int) ≤ n) && decide (n < (Number.negativeLimit : Int))

/-- What a stored value is read as. A blob is read as the list of its bytes. -/
def decode : Cell → Json
  | null => .null
  | integer n => .number (if n < 0 then .negative n.natAbs else .natural n.natAbs)
  | real x => .number (.real x)
  | text s => .text s
  | blob bytes => .array (bytes.map Json.ofNat)

def hexPair (n : Nat) : Text :=
  let digits := Nat.toDigits 16 n
  List.replicate (2 - digits.length) '0' ++ digits

/-- A value as SQLite reads it. Inside quotes a quote is written twice. -/
def literal : Cell → Text
  | null => "NULL"
  | integer n => if n < 0 then '-' :: Text.ofNat n.natAbs else Text.ofNat n.natAbs
  | real x => Number.realText x
  | text s =>
      Text.inQuotes (s.flatMap fun c =>
        if c = Text.singleQuote then [Text.singleQuote, Text.singleQuote] else [c])
  | blob bytes => 'x' :: Text.inQuotes (bytes.flatMap hexPair)

/-- The rank of the kinds of values: nulls, numbers, texts, blobs. -/
def rank : Cell → Nat
  | null => 0
  | integer _ => 1
  | real _ => 1
  | text _ => 2
  | blob _ => 3

/-- A number as a fraction. -/
def fraction : Cell → Int × Nat
  | integer n => (n, 1)
  | real x =>
      let (n, d) := x.ratio
      (if x.negative then -(n : Int) else n, d)
  | _ => (0, 1)

/-- The order of two lists of numbers, read from the left. -/
def compareLists : List Nat → List Nat → Ordering
  | [], [] => .eq
  | [], _ => .lt
  | _, [] => .gt
  | a :: as, b :: bs => (compare a b).then (compareLists as bs)

/-- The order of two values: by rank, then numbers by size, texts and blobs from the left. -/
def order (a b : Cell) : Ordering :=
  match a, b with
  | text a, text b => compareLists (a.map Char.toNat) (b.map Char.toNat)
  | blob a, blob b => compareLists a b
  | a, b =>
      (compare a.rank b.rank).then
        (compare (a.fraction.1 * b.fraction.2) (b.fraction.1 * a.fraction.2))

end Cell

end SqlAssembly.Sqlite
