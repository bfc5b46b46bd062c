import ReplySchema.Double.Shortest
import ReplySchema.Proofs.Double.Nearest

/-!
The shortest decimal of a magnitude reads back as the magnitude. Every candidate of the search is
tested, the exact expansion behind the search reads back by arithmetic, and dropping zeros at the
end keeps the value.
-/

namespace ReplySchema

namespace Magnitude

def ReadAs (m : Magnitude) (d : Decimal) : Prop := ofDecimal? d.digits d.exp = some m

theorem readsBack_iff {m : Magnitude} {d : Decimal} : m.readsBack d ↔ m.ReadAs d :=
  beq_iff_eq

theorem readAs_of_search {m : Magnitude} {point : Int} {n fuel : Nat} {d : Decimal}
    (h : m.search point n fuel = some d) : m.ReadAs d := by
  induction fuel generalizing n with
  | zero => cases h
  | succ fuel ih =>
    rw [search] at h
    rcases Option.or_eq_some_iff.1 h with h | ⟨-, h⟩
    · exact readsBack_iff.1 (List.find?_some h)
    · exact ih h

theorem readAs_expansion (m : Magnitude) : m.ReadAs m.expansion := by
  have hneg : (-(-(unitExponent : Int))).toNat = unitExponent := by omega
  have hpos : (-(unitExponent : Int)).toNat = 0 := by omega
  rw [ReadAs, expansion, ofDecimal?_eq, hneg, hpos, Nat.pow_zero, Nat.mul_one, ofRatio?,
    ← nearest?_units m, unitsPerOne_eq]
  refine nearest?_eq_of_ratio (Nat.pow_pos (by decide)) Nat.one_pos ?_
  rw [Nat.mul_one, Nat.mul_assoc, Nat.pow_eq, ← Nat.mul_pow]

theorem readAs_normalize {m : Magnitude} {d : Decimal} (h : m.ReadAs d) :
    m.ReadAs d.normalize := by
  fun_induction Decimal.normalize d with
  | case1 d hd ih =>
    refine ih ?_
    have hdiv : d.digits / 10 * 10 ^ 1 = d.digits := by omega
    have hexp : d.exp + 1 - (1 : Nat) = d.exp := by omega
    rw [ReadAs, ← ofDecimal?_shift _ 1, hdiv, hexp]
    exact h
  | case2 d hd => exact h

theorem isZero_iff {m : Magnitude} : m.isZero ↔ m = zero := by
  refine ⟨fun h => ?_, fun h => h ▸ rfl⟩
  obtain ⟨mant, scale, hlt, hle, hn⟩ := m
  have hmant : mant = 0 := of_decide_eq_true h
  subst hmant
  rcases hn with rfl | hn
  · rfl
  · exact absurd hn (by decide)

/-- What is chosen as the shortest decimal reads back. -/
theorem readAs_shortest (m : Magnitude) : m.ReadAs m.shortest := by
  rw [shortest]
  split
  · rename_i h
    rw [isZero_iff.1 h]
    rfl
  · refine readAs_normalize ?_
    cases hs : m.search m.decimalPoint 1 17 with
    | none => exact readAs_expansion m
    | some d => exact readAs_of_search hs

theorem shortest_zero : zero.shortest = ⟨0, 0⟩ := rfl

theorem digits_shortest_pos {m : Magnitude} (h : m ≠ zero) : 0 < m.shortest.digits := by
  refine Nat.pos_of_ne_zero fun h0 => h ?_
  have hr := readAs_shortest m
  rw [ReadAs, h0, ofDecimal?, if_pos rfl] at hr
  exact (Option.some.inj hr).symm

end Magnitude

end ReplySchema
