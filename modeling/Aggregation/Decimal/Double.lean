namespace Aggregation

/-! Double-precision numbers, exactly.

A magnitude is `significand · 2 ^ exponent`.  `Magnitude.ofRatio` is the one
place where rounding happens: to the nearest magnitude, a tie to the even
significand.  A decimal is read with one such rounding by `Double.nearestDecimal?`,
and with three of them by `Double.ofDecimal?`.
-/

/-- The value `significand · 2 ^ exponent`.  Those made by `ofRatio` have
a significand of 53 bits, or a smaller one at the least exponent. -/
structure Magnitude where
  significand : Nat
  exponent : Int
deriving DecidableEq, Repr

namespace Magnitude

def leastExponent : Int := -1074

/-- The least significand of 53 bits. -/
def leastNormal : Nat := 4503599627370496

/-- The exponent of the largest finite magnitudes. -/
def greatestExponent : Int := 971

/-- Division rounded to nearest, a tie to the even quotient. -/
def divideEven (numerator denominator : Nat) : Nat :=
  let quotient := numerator / denominator
  let twice := 2 * (numerator % denominator)
  if twice < denominator then quotient
  else if denominator < twice then quotient + 1
  else quotient + quotient % 2

/-- `numerator / (denominator · 2 ^ exponent)` as a numerator and a denominator. -/
def scaled (numerator denominator : Nat) (exponent : Int) : Nat × Nat :=
  (numerator * Nat.pow 2 (-exponent).toNat, denominator * Nat.pow 2 exponent.toNat)

/-- The magnitude nearest to `numerator / denominator`. -/
def ofRatio (numerator denominator : Nat) : Magnitude :=
  if numerator = 0 then ⟨0, leastExponent⟩ else
  let guess : Int := (Nat.log2 numerator : Int) - Nat.log2 denominator - 52
  let (n, d) := scaled numerator denominator guess
  let exponent := max leastExponent (if n < d * leastNormal then guess - 1 else guess)
  let (n, d) := scaled numerator denominator exponent
  let significand := divideEven n d
  if significand = 2 * leastNormal then ⟨leastNormal, exponent + 1⟩ else ⟨significand, exponent⟩

def ofNat (value : Nat) : Magnitude := ofRatio value 1

def isFinite (m : Magnitude) : Bool := m.exponent ≤ greatestExponent

def numerator (m : Magnitude) : Nat := m.significand * Nat.pow 2 m.exponent.toNat

def denominator (m : Magnitude) : Nat := Nat.pow 2 (-m.exponent).toNat

def mul (a b : Magnitude) : Magnitude :=
  ofRatio (a.numerator * b.numerator) (a.denominator * b.denominator)

def div (a b : Magnitude) : Magnitude :=
  ofRatio (a.numerator * b.denominator) (a.denominator * b.numerator)

/-- The magnitude nearest to a power of ten; all up to `10 ^ 308` are finite. -/
def powerOfTen (k : Nat) : Magnitude := ofNat (Nat.pow 10 k)

/-- Divides by `10 ^ k` in steps of at most `10 ^ 308`. -/
def shrink (m : Magnitude) (k : Nat) : Magnitude :=
  if k ≤ 308 then m.div (powerOfTen k)
  else if m.significand = 0 then m
  else shrink (m.div (powerOfTen 308)) (k - 308)
termination_by k

/-- Multiplies by `10 ^ k`; nothing when the product is too large. -/
def grow? (m : Magnitude) (k : Nat) : Option Magnitude :=
  if k ≤ 308 then
    let product := m.mul (powerOfTen k)
    if product.isFinite then some product else none
  else if m.significand = 0 then some m else none

end Magnitude

/-- A finite double: a magnitude and a sign, which zero has too. -/
structure Double where
  negative : Bool
  magnitude : Magnitude
deriving DecidableEq, Repr

namespace Double

def isZero (d : Double) : Bool := d.magnitude.significand == 0

/-- Equality of values: the two zeros are one value. -/
def sameValue (a b : Double) : Bool := a == b || (a.isZero && b.isZero)

/-- The double for `significand · 10 ^ exponent`: the significand is rounded,
then multiplied or divided by the rounded power of ten.  Nothing when the value
is too large. -/
def ofDecimal? (negative : Bool) (significand : Nat) (exponent : Int) : Option Double :=
  let whole := Magnitude.ofNat significand
  let magnitude? :=
    if exponent < 0 then some (whole.shrink (-exponent).toNat)
    else whole.grow? exponent.toNat
  magnitude?.map (⟨negative, ·⟩)

/-- The double nearest to `significand · 10 ^ exponent`, which is rounded just once.
Nothing when the value is too large.  A value of more than 400 digits is, and one that
begins more than 330 places after the point is nearest to zero. -/
def nearestDecimal? (negative : Bool) (significand : Nat) (exponent : Int) : Option Double :=
  let digits : Int := (Nat.toDigits 10 significand).length + exponent
  if significand = 0 || digits < -330 then some ⟨negative, .ofRatio 0 1⟩
  else if 400 < digits then none
  else
    let magnitude := Magnitude.ofRatio (significand * Nat.pow 10 exponent.toNat)
      (Nat.pow 10 (-exponent).toNat)
    if magnitude.isFinite then some ⟨negative, magnitude⟩ else none

/-- The nearest whole number, a half away from zero, and zero below zero. -/
def roundToNat (d : Double) : Nat :=
  if d.negative then 0
  else (2 * d.magnitude.numerator + d.magnitude.denominator) / (2 * d.magnitude.denominator)

end Double

end Aggregation
