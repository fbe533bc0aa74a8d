import Aggregation.Decimal.Double

namespace Aggregation

/-! The fewest decimal digits that read back as the same double.

The decimals that round to a magnitude form an interval around it, with its
ends when the significand is even.  For one digit, two, and so on, the two
neighbours of the value on the decimal grid are tried; the first grid with a
hit wins, and of two hits the nearer.
-/

/-- `digits` is the decimal significand without zeros at its end, and `exponent`
the power of ten of its first digit. -/
structure DecimalDigits where
  digits : List Char
  exponent : Int
deriving DecidableEq, Repr

namespace Magnitude

def digitCount (n : Nat) : Nat := (Nat.toDigits 10 n).length

/-- The power of ten of the first digit of `numerator / denominator`. -/
def leadingExponent (numerator denominator : Nat) : Int :=
  if denominator ≤ numerator then (digitCount (numerator / denominator) : Int) - 1
  else -(digitCount ((denominator + numerator - 1) / numerator - 1) : Int)

/-- `candidate · 10 ^ exponent` and `quarters · 2 ^ (binary - 2)`, brought to one
denominator. -/
def compared (candidate : Nat) (exponent : Int) (quarters : Nat) (binary : Int) : Nat × Nat :=
  (candidate * Nat.pow 10 exponent.toNat * Nat.pow 2 (2 - binary).toNat,
    quarters * Nat.pow 2 (binary - 2).toNat * Nat.pow 10 (-exponent).toNat)

/-- Whether `candidate · 10 ^ exponent` rounds to `m`.  Below a power of two the
neighbour is half as far away. -/
def roundsFrom (m : Magnitude) (candidate : Nat) (exponent : Int) : Bool :=
  let low := if m.significand = leastNormal && m.exponent ≠ leastExponent then
    4 * m.significand - 1 else 4 * m.significand - 2
  let high := 4 * m.significand + 2
  let (c, l) := compared candidate exponent low m.exponent
  let (c', h) := compared candidate exponent high m.exponent
  if m.significand % 2 = 0 then decide (l ≤ c) && decide (c' ≤ h)
  else decide (l < c) && decide (c' < h)

/-- The neighbour of `m` on the grid of `10 ^ exponent` that rounds to `m`. -/
def neighbour? (m : Magnitude) (exponent : Int) : Option Nat :=
  let n := m.numerator * Nat.pow 10 (-exponent).toNat
  let d := m.denominator * Nat.pow 10 exponent.toNat
  let below := n / d
  let nearer := divideEven n d
  let farther := if nearer = below then below + 1 else below
  if m.roundsFrom nearer exponent then some nearer
  else if m.roundsFrom farther exponent then some farther
  else none

/-- The first grid from `10 ^ exponent` downwards with a hit; `tries` bounds the
search, seventeen digits being always enough. -/
def firstHit (m : Magnitude) (exponent : Int) : (tries : Nat) → Nat × Int
  | 0 => (0, exponent)
  | tries + 1 =>
    match m.neighbour? exponent with
    | some candidate => (candidate, exponent)
    | none => firstHit m (exponent - 1) tries

/-- The shortest digits of a magnitude other than zero. -/
def shortest (m : Magnitude) : DecimalDigits :=
  let leading := leadingExponent m.numerator m.denominator
  let (candidate, exponent) := m.firstHit leading 18
  let all := Nat.toDigits 10 candidate
  let kept := (all.reverse.dropWhile (· == '0')).reverse
  ⟨kept, exponent + all.length - 1⟩

end Magnitude

namespace DecimalDigits

/-- Digits and a decimal point, without an exponent. -/
def positional (d : DecimalDigits) : String :=
  let places := d.digits.length
  if d.exponent < 0 then
    "0." ++ String.ofList (List.replicate ((-d.exponent).toNat - 1) '0' ++ d.digits)
  else
    let whole := d.exponent.toNat + 1
    if places ≤ whole then String.ofList (d.digits ++ List.replicate (whole - places) '0')
    else String.ofList (d.digits.take whole) ++ "." ++ String.ofList (d.digits.drop whole)

/-- One digit before the point, and the exponent with its sign. -/
def scientific (d : DecimalDigits) : String :=
  let (first, rest) := d.digits.splitAt 1
  let fraction := if rest.isEmpty then "" else "." ++ String.ofList rest
  let sign := if d.exponent < 0 then "-" else "+"
  String.ofList first ++ fraction ++ "e" ++ sign ++ toString d.exponent.natAbs

end DecimalDigits

namespace Double

def signText (d : Double) : String := if d.negative then "-" else ""

/-- The text of a double as a JSON number: exponents from -5 to 15 are written
positionally, and a whole number keeps `.0`. -/
def jsonText (d : Double) : String :=
  if d.isZero then d.signText ++ "0.0"
  else
    let digits := d.magnitude.shortest
    d.signText ++
      if -5 ≤ digits.exponent && digits.exponent ≤ 15 then
        let text := digits.positional
        if text.contains '.' then text else text ++ ".0"
      else digits.scientific

/-- The text of a double with neither an exponent nor a needless point. -/
def plainText (d : Double) : String :=
  if d.isZero then d.signText ++ "0" else d.signText ++ d.magnitude.shortest.positional

end Double

end Aggregation
