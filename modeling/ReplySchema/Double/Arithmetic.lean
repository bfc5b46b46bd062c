import ReplySchema.Double.Basic

/-!
Sums and products of doubles: the exact result rounded to the nearest double, a tie to the even
mantissa.
-/

namespace ReplySchema.Double

def zero : Double := .finite false .zero

/-- The double nearest to `n / d` units; infinite when it is beyond the largest. -/
def ofUnits (negative : Bool) (n d : Nat) : Double :=
  match Magnitude.nearest? n d with
  | some m => .finite negative m
  | none => .infinity negative

/-- A sum that is zero is negative only if both parts are. -/
def add : Double → Double → Double
  | .nan, _ => .nan
  | _, .nan => .nan
  | .infinity a, .infinity b => if a = b then .infinity a else .nan
  | .infinity a, .finite .. => .infinity a
  | .finite .., .infinity b => .infinity b
  | .finite a m, .finite b n =>
    let sum := signedUnits a m + signedUnits b n
    if sum = 0 then .finite (a && b) .zero else ofUnits (decide (sum < 0)) sum.natAbs 1

def mul : Double → Double → Double
  | .nan, _ => .nan
  | _, .nan => .nan
  | .infinity a, .infinity b => .infinity (a != b)
  | .infinity a, .finite b m => if m.isZero then .nan else .infinity (a != b)
  | .finite a m, .infinity b => if m.isZero then .nan else .infinity (a != b)
  | .finite a m, .finite b n => ofUnits (a != b) (m.units * n.units) Magnitude.unitsPerOne

def neg : Double → Double
  | .nan => .nan
  | .infinity a => .infinity !a
  | .finite a m => .finite (!a) m

end ReplySchema.Double
