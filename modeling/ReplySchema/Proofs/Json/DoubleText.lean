import ReplySchema.Json.Print
import ReplySchema.Proofs.Double.Shortest
import ReplySchema.Proofs.Json.Literal

/-!
Doubles written out. The text of a finite double is the spelling of a number literal that has a
fraction or an exponent, and the literal denotes the double, its sign included.
-/

namespace ReplySchema

theorem isDigits_zeros (n : Int) : (DecimalLayout.zeros n).IsDigits := by
  intro c hc
  rw [(List.mem_replicate.1 hc).2]
  decide

theorem isDigits_append {s t : Text} (hs : s.IsDigits) (ht : t.IsDigits) : (s ++ t).IsDigits :=
  fun c hc => (List.mem_append.1 hc).elim (hs c) (ht c)

theorem Numeral.toNat_zeros_append (n : Int) (t : Text) :
    toNat (DecimalLayout.zeros n ++ t) = toNat t := by
  rw [toNat_append, DecimalLayout.zeros, toNat_zeros, Nat.zero_mul, Nat.zero_add]

theorem Numeral.toNat_append_zeros (t : Text) (n : Int) :
    toNat (t ++ DecimalLayout.zeros n) = toNat t * 10 ^ n.toNat := by
  rw [toNat_append, DecimalLayout.zeros, toNat_zeros, Nat.add_zero, List.length_replicate]

theorem Double.ofDecimal_shift (negative : Bool) (digits k : Nat) (exp : Int) :
    ofDecimal negative (digits * 10 ^ k) (exp - k) = ofDecimal negative digits exp := by
  rw [ofDecimal, Magnitude.ofDecimal?_shift, ofDecimal]

namespace Json.Literal

/-- The literal of digits with the point behind the first `point` of them. -/
def positional (negative : Bool) (digits : Text) (point : Int) : Literal :=
  if point ≤ 0 then ⟨negative, ['0'], DecimalLayout.zeros (-point) ++ digits, none⟩
  else if digits.length ≤ point then
    ⟨negative, digits ++ DecimalLayout.zeros (point - digits.length), ['0'], none⟩
  else ⟨negative, digits.take point.toNat, digits.drop point.toNat, none⟩

/-- The literal of digits with the point behind the first one, times ten to the power `e`. -/
def scientific (layout : DecimalLayout) (negative : Bool) (digits : Text) (e : Int) : Literal :=
  let power := Numeral.ofNat e.natAbs
  ⟨negative, digits.take 1, digits.drop 1,
    some (e < 0, DecimalLayout.zeros (layout.exponentWidth - power.length) ++ power)⟩

theorem pointed_of_ne_nil {f : Text} (h : f ≠ []) : pointed f = ('.' : CodePoint) :: f := by
  cases f with
  | nil => exact absurd rfl h
  | cons c t => rfl

theorem spelled_positional {digits : Text} (hne : digits ≠ []) (negative : Bool) (point : Int) :
    (positional negative digits point).spelled =
      minus negative ++ DecimalLayout.positional digits point := by
  rw [positional, DecimalLayout.positional]
  split
  · have hf : DecimalLayout.zeros (-point) ++ digits ≠ [] := by simp [hne]
    rw [spelled, pointed_of_ne_nil hf, powered, List.append_nil]
    rfl
  · split
    · rfl
    · have hf : digits.drop point.toNat ≠ [] := by
        rw [Ne, List.drop_eq_nil_iff]
        omega
      rw [spelled, pointed_of_ne_nil hf, powered, List.append_nil, List.append_assoc]
      rfl

theorem spelled_scientific {digits : Text} (hne : digits ≠ []) (layout : DecimalLayout)
    (negative : Bool) (e : Int) :
    (scientific layout negative digits e).spelled =
      minus negative ++ layout.scientific digits e := by
  have hmark : (if e < 0 then "e-" else "e+" : Text) =
      [('e' : CodePoint), if decide (e < 0) then '-' else '+'] := by
    by_cases he : e < 0
    · rw [if_pos he, decide_eq_true he]
      rfl
    · rw [if_neg he, decide_eq_false he]
      rfl
  match digits with
  | [c] =>
    simp only [spelled, scientific, DecimalLayout.scientific, DecimalLayout.exponent, powered,
      hmark]
    rfl
  | c :: d :: t =>
    simp only [spelled, scientific, DecimalLayout.scientific, DecimalLayout.exponent, powered,
      hmark]
    rfl

theorem isWhole_append_zeros {c : CodePoint} {t : Text} (h0 : c ≠ '0') (hd : Text.IsDigits (c :: t))
    (n : Int) : IsWhole (c :: t ++ DecimalLayout.zeros n) :=
  .inr ⟨c, t ++ DecimalLayout.zeros n, rfl, h0, isDigits_append hd (isDigits_zeros n)⟩

theorem isWhole_take {digits : Text} (hw : IsWhole digits) {k : Nat} (hk : 0 < k) :
    IsWhole (digits.take k) := by
  obtain ⟨k, rfl⟩ : ∃ j, k = j + 1 := ⟨k - 1, by omega⟩
  rcases hw with rfl | ⟨c, t, rfl, h0, hd⟩
  · exact .inl (by simp)
  · refine .inr ⟨c, t.take k, rfl, h0, fun d h => hd d ?_⟩
    exact List.mem_of_mem_take h

theorem isDigits_of_isWhole {digits : Text} (hw : IsWhole digits) : digits.IsDigits := by
  rcases hw with rfl | ⟨c, t, rfl, -, hd⟩
  · intro c hc
    rw [List.mem_singleton.1 hc]
    rfl
  · exact hd

/-- The digits of zero have no place but right before the point. -/
theorem wellFormed_positional {digits : Text} (hw : IsWhole digits) (negative : Bool) {point : Int}
    (h0 : digits = [('0' : CodePoint)] → point = 1) :
    (positional negative digits point).WellFormed := by
  have hd := isDigits_of_isWhole hw
  rw [positional]
  split
  · exact ⟨.inl rfl, isDigits_append (isDigits_zeros _) hd, nofun⟩
  · split
    · refine ⟨?_, isDigits_zeros 1, nofun⟩
      rcases hw with rfl | ⟨c, t, rfl, hc, -⟩
      · rw [h0 rfl]
        exact .inl rfl
      · exact isWhole_append_zeros hc hd _
    · refine ⟨isWhole_take hw (by omega), fun c h => hd c ?_, nofun⟩
      exact List.mem_of_mem_drop h

theorem wellFormed_scientific {digits : Text} (hw : IsWhole digits) (layout : DecimalLayout)
    (negative : Bool) (e : Int) : (scientific layout negative digits e).WellFormed := by
  refine ⟨isWhole_take hw Nat.one_pos, fun c h => isDigits_of_isWhole hw c ?_, ?_⟩
  · exact List.mem_of_mem_drop h
  · intro negative' ds h
    cases h
    obtain ⟨c, t, hn, -⟩ := Numeral.ofNat_eq_cons e.natAbs
    refine ⟨?_, isDigits_append (isDigits_zeros _) (Numeral.isDigits_ofNat _)⟩
    rw [hn]
    simp

theorem isFloat_positional {digits : Text} (hne : digits ≠ []) (negative : Bool) (point : Int) :
    (positional negative digits point).isFloat := by
  rw [positional]
  split
  · simp [isFloat, hne]
  · split
    · rfl
    · simp only [isFloat, Option.isSome_none, Bool.or_false, Bool.not_eq_true',
        List.isEmpty_eq_false_iff, Ne, List.drop_eq_nil_iff]
      omega

theorem toDouble_positional (digits : Text) (negative : Bool) (point : Int) :
    (positional negative digits point).toDouble =
      Double.ofDecimal negative (Numeral.toNat digits) (point - digits.length) := by
  rw [positional]
  split
  · have hlen : (0 : Int) - (DecimalLayout.zeros (-point) ++ digits).length =
        point - digits.length := by
      simp only [DecimalLayout.zeros, List.length_append, List.length_replicate]
      omega
    have hval : Numeral.toNat (('0' : CodePoint) :: (DecimalLayout.zeros (-point) ++ digits)) =
        Numeral.toNat digits := Numeral.toNat_zeros_append _ _
    simp only [toDouble, tenPower, List.singleton_append, hlen, hval]
  · split
    · rename_i h
      have hzeros : DecimalLayout.zeros (point - digits.length) ++ [('0' : CodePoint)] =
          DecimalLayout.zeros (point - digits.length + 1) := by
        have hn : (point - digits.length + 1).toNat = (point - digits.length).toNat + 1 := by omega
        rw [DecimalLayout.zeros, DecimalLayout.zeros, hn, List.replicate_succ']
      have hexp : (0 : Int) - [('0' : CodePoint)].length =
          point - digits.length - (point - digits.length + 1).toNat := by
        rw [List.length_singleton]
        omega
      simp only [toDouble, tenPower, List.append_assoc, hzeros, hexp]
      rw [Numeral.toNat_append_zeros, Double.ofDecimal_shift]
    · have hlen : (0 : Int) - (digits.drop point.toNat).length = point - digits.length := by
        rw [List.length_drop]
        omega
      simp only [toDouble, tenPower, List.take_append_drop, hlen]

theorem toDouble_scientific {digits : Text} (hne : digits ≠ []) (layout : DecimalLayout)
    (negative : Bool) (e : Int) :
    (scientific layout negative digits e).toDouble =
      Double.ofDecimal negative (Numeral.toNat digits) (e + 1 - digits.length) := by
  have hpow : (scientific layout negative digits e).tenPower = e := by
    simp only [scientific, tenPower, Numeral.toNat_zeros_append, Numeral.toNat_ofNat,
      decide_eq_true_eq]
    split <;> omega
  have hlen : e - (digits.drop 1).length = e + 1 - digits.length := by
    have := List.length_pos_iff.2 hne
    rw [List.length_drop]
    omega
  rw [toDouble, hpow]
  simp only [scientific, List.take_append_drop, hlen]

def ofDecimal (layout : DecimalLayout) (negative : Bool) (d : Decimal) : Literal :=
  let digits := Numeral.ofNat d.digits
  let point := digits.length + d.exp
  if layout.lowest ≤ point - 1 ∧ point - 1 < layout.highest then positional negative digits point
  else scientific layout negative digits (point - 1)

theorem ofNat_ne_nil (n : Nat) : Numeral.ofNat n ≠ [] := by
  obtain ⟨c, t, h, -⟩ := Numeral.ofNat_eq_cons n
  rw [h]
  exact List.cons_ne_nil _ _

theorem spelled_ofDecimal (layout : DecimalLayout) (negative : Bool) (d : Decimal) :
    (ofDecimal layout negative d).spelled = minus negative ++ layout.decimal d := by
  rw [ofDecimal, DecimalLayout.decimal]
  split
  · exact spelled_positional (ofNat_ne_nil _) ..
  · exact spelled_scientific (ofNat_ne_nil _) ..

theorem wellFormed_ofDecimal (layout : DecimalLayout) (negative : Bool) {d : Decimal}
    (h : d.digits = 0 → d.exp = 0) : (ofDecimal layout negative d).WellFormed := by
  rw [ofDecimal]
  split
  · refine wellFormed_positional (isWhole_ofNat _) negative fun h0 => ?_
    have hd : d.digits = 0 := by
      rw [← Numeral.toNat_ofNat d.digits, h0]
      rfl
    rw [h0, h hd]
    rfl
  · exact wellFormed_scientific (isWhole_ofNat _) ..

theorem isFloat_ofDecimal (layout : DecimalLayout) (negative : Bool) (d : Decimal) :
    (ofDecimal layout negative d).isFloat := by
  rw [ofDecimal]
  split
  · exact isFloat_positional (ofNat_ne_nil _) ..
  · simp [isFloat, scientific]

theorem toDouble_ofDecimal (layout : DecimalLayout) (negative : Bool) (d : Decimal) :
    (ofDecimal layout negative d).toDouble = Double.ofDecimal negative d.digits d.exp := by
  have hexp (n : Int) : n + d.exp - n = d.exp := by omega
  rw [ofDecimal]
  split
  · rw [toDouble_positional, Numeral.toNat_ofNat, hexp]
  · rw [toDouble_scientific (ofNat_ne_nil _), Numeral.toNat_ofNat, Int.sub_add_cancel, hexp]

def ofDouble (layout : DecimalLayout) (negative : Bool) (m : Magnitude) : Literal :=
  ofDecimal layout negative m.shortest

theorem spelled_ofDouble (layout : DecimalLayout) (negative : Bool) (m : Magnitude) :
    (ofDouble layout negative m).spelled = layout.double (.finite negative m) := by
  rw [ofDouble, spelled_ofDecimal]
  cases negative
  · rfl
  · rfl

theorem wellFormed_ofDouble (layout : DecimalLayout) (negative : Bool) (m : Magnitude) :
    (ofDouble layout negative m).WellFormed := by
  refine wellFormed_ofDecimal layout negative fun h0 => ?_
  by_cases hm : m = .zero
  · rw [hm, Magnitude.shortest_zero]
  · have := Magnitude.digits_shortest_pos hm
    omega

theorem isFloat_ofDouble (layout : DecimalLayout) (negative : Bool) (m : Magnitude) :
    (ofDouble layout negative m).isFloat :=
  isFloat_ofDecimal ..

/-- A double is the value of its text. -/
theorem toDouble_ofDouble (layout : DecimalLayout) (negative : Bool) (m : Magnitude) :
    (ofDouble layout negative m).toDouble = .finite negative m := by
  have hm : Magnitude.ofDecimal? m.shortest.digits m.shortest.exp = some m := m.readAs_shortest
  rw [ofDouble, toDouble_ofDecimal, Double.ofDecimal, hm]

end Json.Literal

end ReplySchema
