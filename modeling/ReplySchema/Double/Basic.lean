/-!
Binary floating point with 53 bits of precision, in exact integer arithmetic. All finite doubles are
multiples of one unit, `2 ^ -1074`, so a magnitude is a count of units with a short mantissa, and
rounding to a double is rounding a quotient of natural numbers.
-/

namespace ReplySchema

/-- The magnitude `mant * 2 ^ scale` units, in the one form that every double has. -/
structure Magnitude where
  mant : Nat
  scale : Nat
  mant_lt : mant < Nat.pow 2 53
  scale_le : scale ≤ 2045
  normal : scale = 0 ∨ Nat.pow 2 52 ≤ mant
deriving DecidableEq

inductive Double
  | nan
  | infinity (negative : Bool)
  | finite (negative : Bool) (magnitude : Magnitude)
deriving DecidableEq

/-- The quotient rounded to the nearest integer, a tie to the even one. -/
def roundDiv (n d : Nat) : Nat :=
  if 2 * (n % d) < d || (2 * (n % d) = d && n / d % 2 = 0) then n / d else n / d + 1

theorem div_le_roundDiv (n d : Nat) : n / d ≤ roundDiv n d := by
  unfold roundDiv
  split
  · exact Nat.le_refl _
  · exact Nat.le_succ _

theorem two_pow_le_div_of_log2 {m s : Nat} (hs : m.log2 - 52 = s) (h0 : s ≠ 0) :
    Nat.pow 2 52 ≤ m / Nat.pow 2 s := by
  have hm : m ≠ 0 := by
    rintro rfl
    simp at hs
    omega
  have hsum : 52 + s = m.log2 := by omega
  refine (Nat.le_div_iff_mul_le (Nat.pow_pos (by decide))).2 ?_
  exact Nat.le_trans (Nat.le_of_eq ((Nat.pow_add 2 52 s).symm.trans (congrArg (Nat.pow 2) hsum)))
    (Nat.log2_self_le hm)

namespace Magnitude

def zero : Magnitude := ⟨0, 0, by decide, by decide, .inl rfl⟩

/-- The value as a count of units of `2 ^ -1074`. -/
def units (m : Magnitude) : Nat := m.mant * Nat.pow 2 m.scale

/-- The unit is one halved this many times. -/
def unitExponent : Nat := 1074

/-- How many units make one. -/
def unitsPerOne : Nat := Nat.pow 2 unitExponent

/-- The magnitude nearest to `n / d` units, a tie to the even mantissa; none beyond the largest. -/
def nearest? (n d : Nat) : Option Magnitude :=
  let scale := (n / d).log2 - 52
  let mant := roundDiv n (d * Nat.pow 2 scale)
  if hs : scale ≤ 2045 then
    if hm : mant < Nat.pow 2 53 then
      some ⟨mant, scale, hm, hs, by
        by_cases h0 : scale = 0
        · exact .inl h0
        · right
          refine Nat.le_trans (two_pow_le_div_of_log2 rfl h0) ?_
          rw [Nat.div_div_eq_div_mul]
          exact div_le_roundDiv _ _⟩
    else if hs' : scale + 1 ≤ 2045 then
      some ⟨Nat.pow 2 52, scale + 1, by decide, hs', .inr (Nat.le_refl _)⟩
    else none
  else none

/-- The magnitude nearest to the fraction `n / d`. -/
def ofRatio? (n d : Nat) : Option Magnitude := nearest? (n * unitsPerOne) d

/--
The magnitude nearest to `digits * 10 ^ exp`. Exponents so large or so small that the answer is
settled by them are not raised to.
-/
def ofDecimal? (digits : Nat) (exp : Int) : Option Magnitude :=
  if digits = 0 then some zero
  else if 400 < exp then none
  else if exp < -(400 + digits.log2 : Int) then some zero
  else if 0 ≤ exp then ofRatio? (digits * Nat.pow 10 exp.toNat) 1
  else ofRatio? digits (Nat.pow 10 (-exp).toNat)

def isZero (m : Magnitude) : Bool := m.mant = 0

def isWhole (m : Magnitude) : Bool := m.units % unitsPerOne = 0

end Magnitude

namespace Double

/-- The double nearest to a magnitude written in decimal; infinite when it is beyond the largest. -/
def ofDecimal (negative : Bool) (digits : Nat) (exp : Int) : Double :=
  match Magnitude.ofDecimal? digits exp with
  | some m => .finite negative m
  | none => .infinity negative

def isFinite : Double → Bool
  | .finite .. => true
  | _ => false

def isZero : Double → Bool
  | .finite _ m => m.isZero
  | _ => false

/-- Whether the double is an integer. -/
def isWhole : Double → Bool
  | .finite _ m => m.isWhole
  | _ => false

/-- A finite double as a signed count of units. -/
def signedUnits (negative : Bool) (m : Magnitude) : Int :=
  if negative then -(m.units : Int) else m.units

/-- The order of the extended reals; a NaN is in no order with anything. -/
def compare? : Double → Double → Option Ordering
  | .nan, _ => none
  | _, .nan => none
  | .infinity a, .infinity b => some (if a = b then .eq else if a then .lt else .gt)
  | .infinity a, .finite .. => some (if a then .lt else .gt)
  | .finite .., .infinity b => some (if b then .gt else .lt)
  | .finite a m, .finite b n => some (compare (signedUnits a m) (signedUnits b n))

/-- The exact order of a double and an integer of any size. -/
def compareInt? : Double → Int → Option Ordering
  | .nan, _ => none
  | .infinity a, _ => some (if a then .lt else .gt)
  | .finite a m, k => some (compare (signedUnits a m) (k * Magnitude.unitsPerOne))

end Double

end ReplySchema
