namespace Aggregation.Text

/-! Numerals of ASCII digits. -/

def digitValue (c : Char) : Nat := c.toNat - '0'.toNat

def numeralValue (digits : List Char) : Nat :=
  digits.foldl (fun value c => value * 10 + digitValue c) 0

/-- The value of a digit in a base of up to sixteen, whose letters may be of either case. -/
def digitInBase? (base : Nat) (c : Char) : Option Nat :=
  let letter := c.toLower
  let value :=
    if c.isDigit then some (digitValue c)
    else if 'a' ≤ letter && letter ≤ 'f' then some (letter.toNat - 'a'.toNat + 10)
    else none
  value.filter (· < base)

/-- Reads a numeral of one or more digits. -/
def numeral? (digits : List Char) : Option Nat :=
  if digits.isEmpty || !digits.all Char.isDigit then none else some (numeralValue digits)

/-- One more than the largest number of 64 bits. -/
def wordLimit : Nat := 18446744073709551616

/-- One more than the largest number of 64 bits, one of which is a sign; its
negative is the least of them. -/
def signedLimit : Nat := 9223372036854775808

/-- Reads a number of 64 bits; one `+` may stand before its digits. -/
def word? (text : List Char) : Option Nat :=
  let digits := match text with
    | '+' :: rest => rest
    | other => other
  (numeral? digits).filter (· < wordLimit)

/-- The digits of `value`, with zeros before them up to `width`. -/
def padded (width value : Nat) : String :=
  let digits := Nat.toDigits 10 value
  String.ofList (List.replicate (width - digits.length) '0' ++ digits)

end Aggregation.Text
