import Mathlib.Tactic.Ring
import ReplySchema.Double.Basic

/-!
The nearest magnitude depends on the number alone, not on how it is written as a fraction or in
decimal, and every magnitude is the one nearest to itself. The bounds past which a decimal exponent
is not raised to change no answer.
-/

namespace ReplySchema

theorem roundDiv_mul_left {k : Nat} (hk : 0 < k) (n d : Nat) :
    roundDiv (k * n) (k * d) = roundDiv n d := by
  have hlt : 2 * (k * (n % d)) < k * d ↔ 2 * (n % d) < d := by
    rw [Nat.mul_left_comm]
    exact Nat.mul_lt_mul_left hk
  have heq : 2 * (k * (n % d)) = k * d ↔ 2 * (n % d) = d := by
    rw [Nat.mul_left_comm]
    exact Nat.mul_right_inj (Nat.ne_of_gt hk)
  simp only [roundDiv, Nat.mul_mod_mul_left, Nat.mul_div_mul_left _ _ hk, hlt, heq]

theorem roundDiv_mul_self {d : Nat} (hd : 0 < d) (n : Nat) : roundDiv (n * d) d = n := by
  rw [roundDiv, Nat.mul_mod_left, Nat.mul_div_cancel _ hd, if_pos]
  simp [hd]

theorem roundDiv_of_small {n d : Nat} (h : 2 * n < d) : roundDiv n d = 0 := by
  have hn : n < d := by omega
  rw [roundDiv, Nat.mod_eq_of_lt hn, Nat.div_eq_of_lt hn, if_pos]
  simp [h]

namespace Magnitude

theorem nearest?_congr {n d n' d' : Nat} (hq : n / d = n' / d')
    (hr : ∀ p, roundDiv n (d * p) = roundDiv n' (d' * p)) : nearest? n d = nearest? n' d' := by
  simp only [nearest?, hq, hr]

theorem nearest?_mul_left {k : Nat} (hk : 0 < k) (n d : Nat) :
    nearest? (k * n) (k * d) = nearest? n d :=
  nearest?_congr (Nat.mul_div_mul_left _ _ hk) fun p => by
    rw [Nat.mul_assoc, roundDiv_mul_left hk]

/-- Equal fractions have the same nearest magnitude. -/
theorem nearest?_eq_of_ratio {n d n' d' : Nat} (hd : 0 < d) (hd' : 0 < d')
    (h : n * d' = n' * d) : nearest? n d = nearest? n' d' := by
  rw [← nearest?_mul_left hd' n d, ← nearest?_mul_left hd n' d', Nat.mul_comm d' n, h,
    Nat.mul_comm n' d, Nat.mul_comm d' d]

theorem nearest?_of_small {n d : Nat} (h : 2 * n < d) : nearest? n d = some zero := by
  have hq : n / d = 0 := Nat.div_eq_of_lt (by omega)
  have hs : Nat.log2 0 - 52 = 0 := by decide
  have hr : roundDiv n (d * Nat.pow 2 0) = 0 := roundDiv_of_small (by simpa using h)
  simp only [nearest?, hq, hs, hr]
  rfl

theorem nearest?_of_large {n k : Nat} (hk : 2098 ≤ k) (h : 2 ^ k ≤ n) :
    nearest? n 1 = none := by
  have hn : n ≠ 0 := Nat.ne_of_gt (Nat.lt_of_lt_of_le (Nat.pow_pos (by decide)) h)
  have hlog : k ≤ (n / 1).log2 := by
    rw [Nat.div_one]
    exact (Nat.le_log2 hn).2 h
  rw [nearest?]
  exact dif_neg (by omega)

theorem log2_units (m : Magnitude) : m.units.log2 - 52 = m.scale := by
  rcases m.normal with h | h
  · rw [units, h]
    have hlt : m.mant * Nat.pow 2 0 < 2 ^ 53 := by simpa using m.mant_lt
    by_cases h0 : m.mant * Nat.pow 2 0 = 0
    · rw [h0]
      decide
    · have := (Nat.log2_lt h0).2 hlt
      omega
  · have hpos : m.units ≠ 0 := by
      refine Nat.ne_of_gt (Nat.mul_pos (Nat.lt_of_lt_of_le (by decide) h) ?_)
      exact Nat.pow_pos (by decide)
    have hlow : 2 ^ (52 + m.scale) ≤ m.units := by
      rw [Nat.pow_add]
      exact Nat.mul_le_mul_right _ h
    have hhigh : m.units < 2 ^ (53 + m.scale) := by
      rw [Nat.pow_add]
      exact Nat.mul_lt_mul_of_pos_right m.mant_lt (Nat.pow_pos (by decide))
    have h1 := (Nat.le_log2 hpos).2 hlow
    have h2 := (Nat.log2_lt hpos).2 hhigh
    omega

/-- Every magnitude is nearest to itself. -/
theorem nearest?_units (m : Magnitude) : nearest? m.units 1 = some m := by
  have hs : (m.units / 1).log2 - 52 = m.scale := by rw [Nat.div_one, log2_units]
  have hr : roundDiv m.units (1 * Nat.pow 2 m.scale) = m.mant := by
    rw [Nat.one_mul, units]
    exact roundDiv_mul_self (Nat.pow_pos (by decide)) _
  simp only [nearest?, hs, hr]
  rw [dif_pos m.scale_le, dif_pos m.mant_lt]

theorem unitsPerOne_eq : unitsPerOne = 2 ^ unitExponent := by
  -- the definition's own equation would have the power worked out
  delta unitsPerOne
  rw [Nat.pow_eq]

theorem ofRatio?_eq_of_ratio {n d n' d' : Nat} (hd : 0 < d) (hd' : 0 < d')
    (h : n * d' = n' * d) : ofRatio? n d = ofRatio? n' d' :=
  nearest?_eq_of_ratio hd hd' (by rw [Nat.mul_right_comm, h, Nat.mul_right_comm])

theorem two_pow_le_ten_pow (k : Nat) : 2 ^ (3 * k) ≤ 10 ^ k := by
  rw [Nat.pow_mul]
  exact Nat.pow_le_pow_left (by decide) k

theorem ofRatio?_of_large {n k : Nat} (hn : 0 < n) (hk : 401 ≤ k) :
    ofRatio? (n * 10 ^ k) 1 = none := by
  have hu : unitExponent = 1074 := rfl
  refine nearest?_of_large (k := 3 * k + unitExponent) (by omega) ?_
  rw [Nat.pow_add, ← unitsPerOne_eq]
  exact Nat.mul_le_mul_right _
    (Nat.le_trans (two_pow_le_ten_pow k) (Nat.le_mul_of_pos_left _ hn))

theorem ofRatio?_of_small {n k : Nat} (hn : n ≠ 0) (hk : 401 + n.log2 ≤ k) :
    ofRatio? n (10 ^ k) = some zero := by
  have hu : unitExponent = 1074 := rfl
  refine nearest?_of_small ?_
  have hlog : n < 2 ^ (n.log2 + 1) := (Nat.log2_lt hn).1 (Nat.lt_succ_self _)
  calc 2 * (n * unitsPerOne) = n * 2 ^ (unitExponent + 1) := by rw [unitsPerOne_eq]; ring
    _ < 2 ^ (n.log2 + 1) * 2 ^ (unitExponent + 1) :=
      Nat.mul_lt_mul_of_pos_right hlog (Nat.pow_pos (by decide))
    _ = 2 ^ (n.log2 + 1 + (unitExponent + 1)) := (Nat.pow_add ..).symm
    _ ≤ 2 ^ (3 * (401 + n.log2)) := Nat.pow_le_pow_right (by decide) (by omega)
    _ ≤ 10 ^ (401 + n.log2) := two_pow_le_ten_pow _
    _ ≤ 10 ^ k := Nat.pow_le_pow_right (by decide) hk

/-- Reading a decimal is rounding its value, whatever the exponent. -/
theorem ofDecimal?_eq (digits : Nat) (exp : Int) :
    ofDecimal? digits exp = ofRatio? (digits * 10 ^ exp.toNat) (10 ^ (-exp).toNat) := by
  rw [ofDecimal?]
  split
  · rename_i h
    rw [h, Nat.zero_mul, ofRatio?, Nat.zero_mul]
    exact (nearest?_of_small (Nat.pow_pos (by decide))).symm
  · rename_i h
    split
    · have he : (-exp).toNat = 0 := by omega
      rw [he]
      exact (ofRatio?_of_large (Nat.pos_of_ne_zero h) (by omega)).symm
    · split
      · have he : exp.toNat = 0 := by omega
        rw [he, Nat.pow_zero, Nat.mul_one]
        exact (ofRatio?_of_small h (by omega)).symm
      · split
        · have he : (-exp).toNat = 0 := by omega
          rw [he]
          rfl
        · have he : exp.toNat = 0 := by omega
          rw [he, Nat.pow_zero, Nat.mul_one]
          rfl

/-- Zeros moved between the digits and the exponent change nothing. -/
theorem ofDecimal?_shift (digits k : Nat) (exp : Int) :
    ofDecimal? (digits * 10 ^ k) (exp - k) = ofDecimal? digits exp := by
  rw [ofDecimal?_eq, ofDecimal?_eq]
  refine ofRatio?_eq_of_ratio (Nat.pow_pos (by decide)) (Nat.pow_pos (by decide)) ?_
  have he : k + (exp - k).toNat + (-exp).toNat = exp.toNat + (-(exp - k)).toNat := by omega
  rw [Nat.mul_assoc, Nat.mul_assoc, Nat.mul_assoc, ← Nat.pow_add, ← Nat.pow_add, ← Nat.pow_add,
    ← Nat.add_assoc, he]

end Magnitude

end ReplySchema
