import Mathlib.Data.List.Induction
import Mathlib.Tactic.Ring
import ReplySchema.Text.Numeral

/-!
Numerals read back. The digits of a number have its value, there are as few of them as the number's
size allows, and only zero begins with a zero.
-/

namespace ReplySchema

def Text.IsDigits (t : Text) : Prop := ∀ c ∈ t, c.isDigit

namespace Numeral

theorem val_digit (d : Nat) : (digit d).val = 48 + d % 10 := by
  have : 48 + d % 10 < 0x110000 := by omega
  simp [digit, CodePoint.ofNat, Nat.mod_eq_of_lt this]

theorem isDigit_digit (d : Nat) : (digit d).isDigit := by
  simp only [CodePoint.isDigit, val_digit, Bool.and_eq_true, decide_eq_true_eq]
  omega

theorem digitValue_digit (d : Nat) : digitValue (digit d) = d % 10 := by
  rw [digitValue, val_digit, Nat.add_sub_cancel_left]

theorem digitValue_lt {c : CodePoint} (h : c.isDigit) : digitValue c < 10 := by
  simp only [CodePoint.isDigit, Bool.and_eq_true, decide_eq_true_eq] at h
  rw [digitValue]
  omega

theorem push_eq (n : Nat) (rest : Text) : push n rest = ofNat n ++ rest := by
  induction n using Nat.strongRecOn generalizing rest with
  | ind n ih =>
    have step (r : Text) : push n r =
        if n < 10 then digit n :: r else push (n / 10) (digit (n % 10) :: r) := by rw [push]
    rw [ofNat, step, step]
    split
    · rfl
    · rw [ih (n / 10) (by omega), ih (n / 10) (by omega) [digit (n % 10)], List.append_assoc]
      rfl

theorem ofNat_of_lt {n : Nat} (h : n < 10) : ofNat n = [digit n] := by
  rw [ofNat, push, if_pos h]

theorem ofNat_of_le {n : Nat} (h : 10 ≤ n) : ofNat n = ofNat (n / 10) ++ [digit (n % 10)] := by
  rw [ofNat, push, if_neg (by omega), push_eq]

theorem isDigits_ofNat (n : Nat) : (ofNat n).IsDigits := by
  induction n using Nat.strongRecOn with
  | ind n ih =>
    intro c hc
    by_cases h : n < 10
    · rw [ofNat_of_lt h] at hc
      rw [List.mem_singleton.1 hc]
      exact isDigit_digit n
    · rw [ofNat_of_le (by omega)] at hc
      rcases List.mem_append.1 hc with hc | hc
      · exact ih (n / 10) (by omega) c hc
      · rw [List.mem_singleton.1 hc]
        exact isDigit_digit _

theorem toNat_append_singleton (t : Text) (c : CodePoint) :
    toNat (t ++ [c]) = 10 * toNat t + digitValue c := by
  simp [toNat]

theorem toNat_append (s t : Text) : toNat (s ++ t) = toNat s * 10 ^ t.length + toNat t := by
  induction t using List.reverseRecOn with
  | nil => simp [toNat]
  | append_singleton t c ih =>
    rw [← List.append_assoc, toNat_append_singleton, toNat_append_singleton, ih,
      List.length_append, List.length_singleton, Nat.pow_succ]
    ring

theorem toNat_ofNat (n : Nat) : toNat (ofNat n) = n := by
  induction n using Nat.strongRecOn with
  | ind n ih =>
    by_cases h : n < 10
    · rw [ofNat_of_lt h, ← List.nil_append [digit n], toNat_append_singleton, digitValue_digit,
        Nat.mod_eq_of_lt h]
      simp [toNat]
    · rw [ofNat_of_le (by omega), toNat_append_singleton, ih (n / 10) (by omega),
        digitValue_digit]
      omega

theorem toNat_lt {t : Text} (h : t.IsDigits) : toNat t < 10 ^ t.length := by
  induction t using List.reverseRecOn with
  | nil => simp [toNat]
  | append_singleton t c ih =>
    have ht := ih fun d hd => h d (List.mem_append_left _ hd)
    have hc := digitValue_lt (h c (List.mem_append_right _ (List.mem_singleton_self c)))
    rw [toNat_append_singleton, List.length_append, List.length_singleton, Nat.pow_succ]
    omega

theorem toNat_zeros (k : Nat) : toNat (List.replicate k ('0' : CodePoint)) = 0 := by
  induction k with
  | zero => rfl
  | succ k ih =>
    rw [List.replicate_succ', toNat_append_singleton, ih]
    rfl

/-- As many digits as the powers of ten say. -/
theorem length_ofNat_le_iff {n k : Nat} : (ofNat n).length ≤ k + 1 ↔ n < 10 ^ (k + 1) := by
  induction n using Nat.strongRecOn generalizing k with
  | ind n ih =>
    by_cases h : n < 10
    · have : 10 ^ 1 ≤ 10 ^ (k + 1) := Nat.pow_le_pow_right (by omega) (by omega)
      rw [ofNat_of_lt h]
      simp only [List.length_singleton]
      omega
    · rw [ofNat_of_le (by omega), List.length_append, List.length_singleton,
        Nat.add_le_add_iff_right]
      cases k with
      | zero =>
        have : 0 < (ofNat (n / 10)).length := by
          rw [ofNat, push_eq]
          by_cases h10 : n / 10 < 10
          · rw [ofNat_of_lt h10]; simp
          · rw [ofNat_of_le (by omega)]; simp
        omega
      | succ k =>
        rw [ih (n / 10) (by omega), Nat.pow_succ 10 (k + 1)]
        omega

/-- Only zero begins with a zero, and it has no other digit. -/
theorem ofNat_eq_cons (n : Nat) :
    ∃ c t, ofNat n = c :: t ∧ c.isDigit ∧ (c = '0' → n = 0 ∧ t = []) := by
  induction n using Nat.strongRecOn with
  | ind n ih =>
    by_cases h : n < 10
    · refine ⟨digit n, [], ofNat_of_lt h, isDigit_digit n, fun h0 => ⟨?_, rfl⟩⟩
      have hv := congrArg Fin.val h0
      rw [val_digit] at hv
      have : ((CodePoint.ofChar '0').val) = 48 := rfl
      omega
    · obtain ⟨c, t, ht, hc, h0⟩ := ih (n / 10) (by omega)
      refine ⟨c, t ++ [digit (n % 10)], ?_, hc, fun h1 => ?_⟩
      · rw [ofNat_of_le (by omega), ht, List.cons_append]
      · have := (h0 h1).1
        omega

theorem hexValue?_hexDigit (d : Nat) : hexValue? (hexDigit d) = some (d % 16) := by
  have below : ∀ k < 16, hexValue? (hexDigit k) = some k := by decide
  have hd : hexDigit d = hexDigit (d % 16) := by rw [hexDigit, hexDigit, Nat.mod_mod]
  rw [hd, below _ (Nat.mod_lt d (by decide))]

theorem foldlM_hex (acc width n : Nat) :
    (hex width n).foldlM (fun n c => (hexValue? c).map fun d => 16 * n + d) acc =
      some (acc * 16 ^ width + n % 16 ^ width) := by
  induction width generalizing acc with
  | zero => simp [hex, Nat.mod_one]
  | succ w ih =>
    rw [hex, List.foldlM_cons, hexValue?_hexDigit, Nat.pow_eq, Option.map_some,
      Option.bind_eq_bind, Option.bind_some, ih, Nat.mod_pow_succ]
    congr 1
    ring

/-- A number below the limit is read back from its hexadecimal digits. -/
theorem hexToNat?_hex {width n : Nat} (h : n < 16 ^ width) :
    hexToNat? (hex width n) = some n := by
  rw [hexToNat?, foldlM_hex, Nat.zero_mul, Nat.zero_add, Nat.mod_eq_of_lt h]

theorem hexValue?_of_foldlM {digits : Text} {acc n : Nat}
    (h : digits.foldlM (fun n c => (hexValue? c).map fun d => 16 * n + d) acc = some n) :
    ∀ c ∈ digits, (hexValue? c).isSome := by
  induction digits generalizing acc with
  | nil => exact nofun
  | cons c digits ih =>
    rw [List.foldlM_cons] at h
    obtain ⟨m, hm, h⟩ := Option.bind_eq_some_iff.1 h
    obtain ⟨d, hd, -⟩ := Option.map_eq_some_iff.1 hm
    exact List.forall_mem_cons.2 ⟨Option.isSome_iff_exists.2 ⟨d, hd⟩, ih h⟩

/-- What has a hexadecimal value holds hexadecimal digits only. -/
theorem hexValue?_of_hexToNat? {digits : Text} {n : Nat} (h : hexToNat? digits = some n) :
    ∀ c ∈ digits, (hexValue? c).isSome :=
  hexValue?_of_foldlM h

end Numeral

end ReplySchema
