import ReplySchema.Text.Basic

/-!
Numbers in positional notation: writing in base ten and sixteen, and the value of a run of digits.
Other scripts have digits too, each its ten in a row, so their zeros tell them all; the table is that of
Unicode 14.0.
-/

namespace ReplySchema

namespace Numeral

/-- The code point of a digit below ten. -/
def digit (d : Nat) : CodePoint := .ofNat (48 + d % 10)

/-- Writes `n` in base ten in front of `rest`. -/
def push (n : Nat) (rest : Text) : Text :=
  if n < 10 then digit n :: rest else push (n / 10) (digit (n % 10) :: rest)
termination_by n

def ofNat (n : Nat) : Text := push n []

/-- Writes `n` with zeros in front, in `width` digits or more. -/
def padded (width n : Nat) : Text :=
  let zeros : Text := List.replicate (width - (ofNat n).length) '0'
  zeros ++ ofNat n

def ofInt : Int → Text
  | .ofNat n => ofNat n
  | .negSucc n => '-' :: ofNat (n + 1)

def digitValue (c : CodePoint) : Nat := c.val - 48

/-- The value of a run of decimal digits. -/
def toNat (digits : Text) : Nat := digits.foldl (fun n c => 10 * n + digitValue c) 0

/-- The number of decimal digits of `n`; one for zero. -/
def length (n : Nat) : Nat := (ofNat n).length

def hexDigit (d : Nat) : CodePoint :=
  if d % 16 < 10 then .ofNat (48 + d % 16) else .ofNat (87 + d % 16)

/-- `width` hexadecimal digits in lower case, the last ones of `n`. -/
def hex (width n : Nat) : Text :=
  match width with
  | 0 => []
  | w + 1 => hexDigit (n / Nat.pow 16 w) :: hex w n

def hexValue? (c : CodePoint) : Option Nat :=
  if 48 ≤ c.val && c.val ≤ 57 then some (c.val - 48)
  else if 97 ≤ c.val && c.val ≤ 102 then some (c.val - 87)
  else if 65 ≤ c.val && c.val ≤ 70 then some (c.val - 55)
  else none

/-- The value of a run of hexadecimal digits, if it holds nothing else. -/
def hexToNat? (digits : Text) : Option Nat :=
  digits.foldlM (fun n c => (hexValue? c).map fun d => 16 * n + d) 0

end Numeral

/-- The code points of the digits that are zero. -/
def zeroDigits : List Nat := [
  0x30, 0x660, 0x6F0, 0x7C0, 0x966, 0x9E6, 0xA66, 0xAE6, 0xB66, 0xBE6, 0xC66, 0xCE6, 0xD66, 0xDE6,
  0xE50, 0xED0, 0xF20, 0x1040, 0x1090, 0x17E0, 0x1810, 0x1946, 0x19D0, 0x1A80, 0x1A90, 0x1B50,
  0x1BB0, 0x1C40, 0x1C50, 0xA620, 0xA8D0, 0xA900, 0xA9D0, 0xA9F0, 0xAA50, 0xABF0, 0xFF10, 0x104A0,
  0x10D30, 0x11066, 0x110F0, 0x11136, 0x111D0, 0x112F0, 0x11450, 0x114D0, 0x11650, 0x116C0, 0x11730,
  0x118E0, 0x11950, 0x11C50, 0x11D50, 0x11DA0, 0x16A60, 0x16AC0, 0x16B50, 0x1D7CE, 0x1D7D8, 0x1D7E2,
  0x1D7EC, 0x1D7F6, 0x1E140, 0x1E2F0, 0x1E950, 0x1FBF0]

/-- The value of a decimal digit of any script. -/
def CodePoint.decimalDigit? (c : CodePoint) : Option Nat :=
  (zeroDigits.find? fun z => z ≤ c.val && c.val < z + 10).map (c.val - ·)

end ReplySchema

