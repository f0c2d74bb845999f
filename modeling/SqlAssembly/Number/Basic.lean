import SqlAssembly.Number.Binary64

/-! Numbers are of three kinds that stay apart: natural numbers, negative integers and binary64
numbers. The kind is decided by how a number is written, and each kind has its own text.
-/

namespace SqlAssembly

/-- A number of one of three kinds. (negative n) is the integer -n. -/
inductive Number where
  | natural (n : Nat)
  | negative (n : Nat)
  | real (x : Binary64)
deriving DecidableEq

/-- How binary64 numbers are written: as plain decimals while the decimal point falls after
position (plainAfter) and not beyond position (plainUpTo), else with an exponent.
-/
structure RealStyle where
  plainAfter : Int
  plainUpTo : Int
  exponentMark : Text
  positiveSign : Text

namespace Number

/-- Plain from 0.00001 up to below 10 ^ 16, beyond that with an exponent such as e+16 or e-7. -/
def realStyle : RealStyle :=
  ⟨-5, 16, "e", "+"⟩

/-- An exponent with its sign. -/
def exponentText (style : RealStyle) (e : Int) : Text :=
  style.exponentMark
    ++ (if e < 0 then '-' :: Text.ofNat e.natAbs else style.positiveSign ++ Text.ofNat e.toNat)

/-- A decimal with at least one digit after the point, or with an exponent. -/
def decimalText (style : RealStyle) (x : Decimal) : Text :=
  let digits := Text.ofNat x.digits
  let point := x.exponent + digits.length
  if point ≤ style.plainAfter ∨ style.plainUpTo < point then
    digits.take 1 ++ (if digits.length = 1 then [] else '.' :: digits.drop 1)
      ++ exponentText style (point - 1)
  else if point ≤ 0 then
    "0.".toList ++ List.replicate (-point).toNat '0' ++ digits
  else if digits.length ≤ point.toNat then
    digits ++ List.replicate (point.toNat - digits.length) '0' ++ ".0".toList
  else
    digits.take point.toNat ++ '.' :: digits.drop point.toNat

/-- The text of a binary64 number. -/
def realText (x : Binary64) : Text :=
  (if x.negative then ['-'] else [])
    ++ if x.isZero then "0.0".toList else decimalText realStyle x.shortest

def text : Number → Text
  | natural n => Text.ofNat n
  | negative n => '-' :: Text.ofNat n
  | real x => realText x

def isZero : Number → Bool
  | natural n => n == 0
  | negative n => n == 0
  | real x => x.isZero

/-- The value of a natural number. -/
def natural? : Number → Option Nat
  | natural n => some n
  | _ => none

/-- The largest natural number of 64 bits. -/
def naturalLimit : Nat := Nat.pow 2 64 - 1

/-- The absolute value of the smallest integer of 64 bits with a sign. -/
def negativeLimit : Nat := Nat.pow 2 63

/-- The number that an integer literal stands for: an integer while it fits 64 bits, else the
nearest binary64 number. Minus zero is a binary64 number.
-/
def ofInteger? (negative : Bool) (n : Nat) : Option Number :=
  if negative then
    if n ≠ 0 ∧ n ≤ negativeLimit then some (.negative n)
    else (Binary64.ofDecimal? true ⟨n, 0⟩).map .real
  else if n ≤ naturalLimit then some (.natural n)
  else (Binary64.ofDecimal? false ⟨n, 0⟩).map .real

end Number

end SqlAssembly
