import SqlAssembly.Text.Basic

/-! Finite binary64 numbers as a sign, a whole mantissa and a power of two, so that reading and
writing them is exact arithmetic on natural numbers. A quotient is rounded to the nearest
number, ties to the even mantissa, and the shortest decimal is the first that reads back.
-/

namespace SqlAssembly

/-- The number (mantissa * 2 ^ exponent), negated when the sign says so. A mantissa of zero keeps
its sign.
-/
structure Binary64 where
  negative : Bool
  mantissa : Nat
  exponent : Int
deriving DecidableEq

/-- The number (digits * 10 ^ exponent). -/
structure Decimal where
  digits : Nat
  exponent : Int
deriving DecidableEq

namespace Binary64

def minExponent : Int := -1074

def maxExponent : Int := 971

/-- Mantissas have at most 53 binary digits. -/
def mantissaLimit : Nat := Nat.pow 2 53

def zero (negative : Bool) : Binary64 :=
  ⟨negative, 0, minExponent⟩

/-- (roundDiv n d) is the whole number nearest to n / d, ties to the even one. -/
def roundDiv (n d : Nat) : Nat :=
  let q := n / d
  let twice := 2 * (n % d)
  if twice > d ∨ (twice = d ∧ q % 2 = 1) then q + 1 else q

/-- (atScale n d base k) is n / d in units of base ^ k, as a numerator and a denominator. -/
def atScale (n d base : Nat) (k : Int) : Nat × Nat :=
  if 0 ≤ k then (n, d * Nat.pow base k.toNat) else (n * Nat.pow base (-k).toNat, d)

/-- The exponent at which n / d has a mantissa of 53 binary digits, or the smallest exponent. -/
def fittingExponent (n d : Nat) : Int :=
  let low := (n.log2 : Int) - d.log2 - 53
  let (p, q) := atScale n d 2 low
  max minExponent (if p / q < mantissaLimit then low else low + 1)

/-- (ofRatio? negative n d) is the number nearest to n / d, or none when that is too large. -/
def ofRatio? (negative : Bool) (n d : Nat) : Option Binary64 :=
  if n = 0 then some (zero negative)
  else
    let e := fittingExponent n d
    let (p, q) := atScale n d 2 e
    let m := roundDiv p q
    let (m, e) := if m = mantissaLimit then (m / 2, e + 1) else (m, e)
    if e ≤ maxExponent then some ⟨negative, m, e⟩ else none

/-- (ofDecimal? negative x) is the number nearest to the decimal x, or none when that is too
large. Decimals far outside the range are settled by their size alone.
-/
def ofDecimal? (negative : Bool) (x : Decimal) : Option Binary64 :=
  let size := x.exponent + (Nat.toDigits 10 x.digits).length
  if x.digits = 0 ∨ size < -400 then some (zero negative)
  else if size > 400 then none
  else
    let (p, q) := atScale x.digits 1 10 (-x.exponent)
    ofRatio? negative p q

/-- The value is zero, of either sign. -/
def isZero (x : Binary64) : Bool :=
  x.mantissa == 0

/-- The interval of quarters of 2 ^ exponent in which every value rounds to x. -/
def roundingInterval (x : Binary64) : Nat × Nat :=
  let below := if x.mantissa = mantissaLimit / 2 ∧ x.exponent > minExponent then 1 else 2
  (4 * x.mantissa - below, 4 * x.mantissa + 2)

/-- (readsBack x d) tells whether the decimal d lies in the interval that rounds to x. The ends of
the interval belong to it when the mantissa is even.
-/
def readsBack (x : Binary64) (d : Decimal) : Bool :=
  let (low, high) := x.roundingInterval
  let (p, q) := atScale d.digits 1 10 (-d.exponent)
  let (p, q) := atScale p q 2 (x.exponent - 2)
  if x.mantissa % 2 = 0 then decide (low * q ≤ p) && decide (p ≤ high * q)
  else decide (low * q < p) && decide (p < high * q)

/-- The absolute value as a numerator and a denominator. -/
def ratio (x : Binary64) : Nat × Nat :=
  atScale x.mantissa 1 2 (-x.exponent)

/-- (reaches x k) tells whether the absolute value of x is at least 10 ^ k. -/
def reaches (x : Binary64) (k : Int) : Bool :=
  let (n, d) := x.ratio
  let (p, q) := atScale n d 10 k
  decide (q ≤ p)

/-- The decimal exponent of the first significant digit, found upwards from an estimate by the
binary logarithm that is at most two too low.
-/
def leadingExponent (x : Binary64) : Int :=
  let low := (((x.mantissa.log2 : Int) + x.exponent) * 1233).fdiv 4096 - 1
  if x.reaches (low + 2) then low + 2
  else if x.reaches (low + 1) then low + 1
  else low

/-- (ofLength? x count) is the decimal of so many digits nearest to x, if one of the two beside x
reads back; a tie goes to the even digits.
-/
def ofLength? (x : Binary64) (count : Nat) : Option Decimal :=
  let k := x.leadingExponent - count + 1
  let (n, d) := x.ratio
  let (p, q) := atScale n d 10 k
  let down : Decimal := ⟨p / q, k⟩
  let up : Decimal := ⟨p / q + 1, k⟩
  match x.readsBack down, x.readsBack up with
  | true, true => some (if roundDiv p q = p / q then down else up)
  | true, false => some down
  | false, true => some up
  | false, false => none

/-- A decimal without the zeros at the end of its digits. -/
def dropZeros : Nat → Decimal → Decimal
  | 0, x => x
  | fuel + 1, x =>
      if x.digits ≠ 0 ∧ x.digits % 10 = 0 then dropZeros fuel ⟨x.digits / 10, x.exponent + 1⟩
      else x

/-- The decimal with the fewest digits that reads back as the absolute value of x. -/
def shortest (x : Binary64) : Decimal :=
  if x.mantissa = 0 then ⟨0, 0⟩
  else
    match (List.range 17).findSome? fun n => x.ofLength? (n + 1) with
    | some d => dropZeros 20 d
    | none => ⟨x.ratio.1 / x.ratio.2, 0⟩

end Binary64

end SqlAssembly
