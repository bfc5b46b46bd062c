import ReplySchema.Double.Basic
import ReplySchema.Text.Numeral

/-!
The shortest decimal that reads back as a given magnitude. On the grid of decimals with a given
number of digits only the two neighbours of the magnitude can read back first, so the search tries
those two, on the grids of one to seventeen digits. The exact decimal expansion stands behind the
search, so whatever is chosen reads back.
-/

namespace ReplySchema

/-- The number `digits * 10 ^ exp`. -/
structure Decimal where
  digits : Nat
  exp : Int
deriving DecidableEq

namespace Decimal

/-- The same number without zeros at the end of its digits. -/
def normalize (d : Decimal) : Decimal :=
  if d.digits ≠ 0 ∧ d.digits % 10 = 0 then normalize ⟨d.digits / 10, d.exp + 1⟩ else d
termination_by d.digits
decreasing_by omega

end Decimal

namespace Magnitude

def readsBack (m : Magnitude) (d : Decimal) : Bool := ofDecimal? d.digits d.exp == some m

/-- The exponent `k` with `10 ^ (k - 1) ≤ m < 10 ^ k`, for a magnitude that is not zero. -/
def decimalPoint (m : Magnitude) : Int :=
  if unitsPerOne ≤ m.units then Numeral.length (m.units / unitsPerOne)
  else
    let d := Numeral.length (unitsPerOne / m.units)
    if unitsPerOne ≤ m.units * Nat.pow 10 (d - 1) then 2 - d else 1 - d

/-- The neighbours of `m` on the grid of multiples of `10 ^ exp`, the nearer one first. -/
def neighbours (m : Magnitude) (exp : Int) : List Decimal :=
  let n := m.units * Nat.pow 10 (-exp).toNat
  let d := unitsPerOne * Nat.pow 10 exp.toNat
  let below := n / d
  let near := roundDiv n d
  let far := if near = below then below + 1 else below
  [⟨near, exp⟩, ⟨far, exp⟩]

/-- The decimal expansion of `m` itself. -/
def expansion (m : Magnitude) : Decimal := ⟨m.units * Nat.pow 5 unitExponent, -unitExponent⟩

/-- The first neighbour that reads back, on the grids of `n`, `n + 1`, … digits. -/
def search (m : Magnitude) (point : Int) : (n fuel : Nat) → Option Decimal
  | _, 0 => none
  | n, fuel + 1 =>
    ((m.neighbours (point - n)).find? m.readsBack).or (search m point (n + 1) fuel)

/-- The decimal with the fewest digits that reads back as `m`, the nearest one of those. -/
def shortest (m : Magnitude) : Decimal :=
  if m.isZero then ⟨0, 0⟩
  else ((m.search m.decimalPoint 1 17).getD m.expansion).normalize

end Magnitude

/-- How a decimal is laid out as text. -/
structure DecimalLayout where
  /-- The least exponent of the first digit that is written positionally. -/
  lowest : Int
  /-- The least exponent of the first digit that is no longer written positionally. -/
  highest : Int
  exponentWidth : Nat
  nan : Text
  infinity : Text

namespace DecimalLayout

def zeros (n : Int) : Text := List.replicate n.toNat '0'

/-- The exponent mark, a sign always, and at least `exponentWidth` digits. -/
def exponent (layout : DecimalLayout) (e : Int) : Text :=
  let digits := Numeral.ofNat e.natAbs
  let sign : Text := if e < 0 then "e-" else "e+"
  sign ++ zeros (layout.exponentWidth - digits.length) ++ digits

/-- A whole number keeps `.0` when written positionally. -/
def positional (digits : Text) (point : Int) : Text :=
  if point ≤ 0 then "0." ++ zeros (-point) ++ digits
  else if digits.length ≤ point then digits ++ zeros (point - digits.length) ++ ".0"
  else
    let whole : Text := digits.take point.toNat
    whole ++ "." ++ digits.drop point.toNat

def scientific (layout : DecimalLayout) (digits : Text) (e : Int) : Text :=
  match digits with
  | [] => layout.exponent e
  | [d] => d :: layout.exponent e
  | d :: ds => d :: '.' :: (ds ++ layout.exponent e)

def decimal (layout : DecimalLayout) (d : Decimal) : Text :=
  let digits := Numeral.ofNat d.digits
  let point := digits.length + d.exp
  if layout.lowest ≤ point - 1 ∧ point - 1 < layout.highest then positional digits point
  else layout.scientific digits (point - 1)

def double (layout : DecimalLayout) : Double → Text
  | .nan => layout.nan
  | .infinity negative => if negative then '-' :: layout.infinity else layout.infinity
  | .finite negative m =>
    let text := layout.decimal m.shortest
    if negative then '-' :: text else text

end DecimalLayout

end ReplySchema
