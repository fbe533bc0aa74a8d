namespace Aggregation.Text

/-! Blank characters and trimming.

A character is blank when it has Unicode's `White_Space` property.  `trim`
drops blanks at both ends; `isBlankText` holds of the texts that trimming
leaves empty.
-/

/-- The 25 characters with Unicode's `White_Space` property. -/
def isBlank (c : Char) : Bool :=
  let code := c.toNat
  (9 ≤ code && code ≤ 13) || code == 0x20 || code == 0x85 || code == 0xA0 ||
    code == 0x1680 || (0x2000 ≤ code && code ≤ 0x200A) || code == 0x2028 ||
    code == 0x2029 || code == 0x202F || code == 0x205F || code == 0x3000

def trimChars (text : List Char) : List Char :=
  ((text.dropWhile isBlank).reverse.dropWhile isBlank).reverse

/-- The text without the blanks at its ends. -/
def trim (text : String) : String :=
  String.ofList (trimChars text.toList)

/-- Whether trimming leaves nothing. -/
def isBlankText (text : String) : Bool :=
  text.toList.all isBlank

end Aggregation.Text
