namespace Aggregation.Text

/-! UTF-8, read leniently.

`Utf8.pieces` cuts bytes into characters and maximal invalid parts: a part
ends before the first byte that cannot continue what was begun.  `Utf8.lossy`
puts the replacement character in place of each such part.
-/

/-- A character, or a part of the bytes that encodes none. -/
inductive Piece where
  | char (c : Char)
  | broken
deriving DecidableEq, Repr

namespace Utf8

/-- A character whose first bytes have been read: how many bytes are missing,
the range of the next one, and the bits so far. -/
structure Begun where
  missing : Nat
  low : Nat
  high : Nat
  bits : Nat

/-- What one byte says when no character is begun.  The range for the second
byte rules out overlong forms, surrogates and values beyond U+10FFFF. -/
def start (byte : Nat) : Option Begun × List Piece :=
  if byte < 0x80 then (none, [.char (Char.ofNat byte)])
  else if byte < 0xC2 then (none, [.broken])
  else if byte < 0xE0 then (some ⟨1, 0x80, 0xBF, byte - 0xC0⟩, [])
  else if byte < 0xF0 then
    (some ⟨2, if byte = 0xE0 then 0xA0 else 0x80, if byte = 0xED then 0x9F else 0xBF,
      byte - 0xE0⟩, [])
  else if byte < 0xF5 then
    (some ⟨3, if byte = 0xF0 then 0x90 else 0x80, if byte = 0xF4 then 0x8F else 0xBF,
      byte - 0xF0⟩, [])
  else (none, [.broken])

/-- A byte that cannot continue the begun character ends an invalid part and is
looked at afresh. -/
def step (begun : Option Begun) (byte : Nat) : Option Begun × List Piece :=
  match begun with
  | none => start byte
  | some b =>
    if b.low ≤ byte && byte ≤ b.high then
      let bits := b.bits * 64 + (byte - 0x80)
      match b.missing with
      | 0 | 1 => (none, [.char (Char.ofNat bits)])
      | missing + 1 => (some ⟨missing, 0x80, 0xBF, bits⟩, [])
    else
      let (next, out) := start byte
      (next, .broken :: out)

def piecesFrom (begun : Option Begun) : List UInt8 → List Piece
  | [] => if begun.isSome then [.broken] else []
  | byte :: rest =>
    let (next, out) := step begun byte.toNat
    out ++ piecesFrom next rest

def pieces (bytes : List UInt8) : List Piece := piecesFrom none bytes

/-- The text with U+FFFD for each maximal invalid part. -/
def lossy (bytes : List UInt8) : String :=
  String.ofList ((pieces bytes).map fun
    | .char c => c
    | .broken => Char.ofNat 0xFFFD)

end Utf8

def piecesOfString (text : String) : List Piece := text.toList.map .char

end Aggregation.Text
