import ReplySchema.Proofs.Json.DoubleText
import ReplySchema.Proofs.Json.Encoding
import ReplySchema.Proofs.Json.Scanning

/-!
Scalars written out. No text of a number begins with one of the words, so a number is read as a
number, an integer as an integer and a double as a double, and the spellings of the doubles that are
not finite are read or refused as asked.
-/

namespace ReplySchema

namespace Json

/-- The text begins the way a value does, and not with space or a byte order mark. -/
def Opens (t : Text) : Prop :=
  ∃ c u, t = c :: u ∧ ¬ isSpace c ∧ c ≠ ']' ∧ ¬ c.isByteOrderMark

theorem Opens.append {t : Text} (h : Opens t) (r : Text) : Opens (t ++ r) := by
  obtain ⟨c, u, rfl, hc⟩ := h
  exact ⟨c, u ++ r, rfl, hc⟩

theorem Opens.dropSpace {t : Text} (h : Opens t) : dropSpace t = t := by
  obtain ⟨c, u, rfl, hc, -⟩ := h
  exact List.dropWhile_cons_of_neg hc

def OpensScalar (t : Text) : Prop :=
  ∃ c u, t = c :: u ∧ (c ≠ '"' ∧ c ≠ '[' ∧ c ≠ '{') ∧
    ¬ isSpace c ∧ c ≠ ']' ∧ ¬ c.isByteOrderMark

theorem OpensScalar.opens {t : Text} (h : OpensScalar t) : Opens t := by
  obtain ⟨c, u, ht, -, hc⟩ := h
  exact ⟨c, u, ht, hc⟩

theorem opensScalar_of_isDigit {c : CodePoint} (h : c.isDigit) (u : Text) :
    OpensScalar (c :: u) := by
  have hne (d : CodePoint) (hd : ¬ d.isDigit) : c ≠ d := CodePoint.isDigit_ne h hd
  have hs : ¬ isSpace c := by
    simp only [isSpace, Bool.or_eq_true, decide_eq_true_eq]
    rintro (((rfl | rfl) | rfl) | rfl) <;> exact absurd h (by decide)
  have hm : ¬ c.isByteOrderMark := by
    simp only [CodePoint.isDigit, CodePoint.isByteOrderMark, Bool.and_eq_true,
      decide_eq_true_eq] at h ⊢
    omega
  exact ⟨c, u, rfl, ⟨hne _ (by decide), hne _ (by decide), hne _ (by decide)⟩, hs,
    hne _ (by decide), hm⟩

namespace Literal

variable {l : Literal} {t : Text}

/-- A literal begins with a digit, or with a minus that a digit follows. -/
theorem Spells.eq_cons (h : l.Spells t) : ∃ c u, c.isDigit ∧ t = minus l.negative ++ c :: u := by
  obtain ⟨hw, -, -⟩ := h
  rcases hw with hw | ⟨c, t, hw, -, hd⟩
  · exact ⟨'0', _, by decide, by rw [hw, List.singleton_append]⟩
  · exact ⟨c, _, hd c (hw ▸ List.mem_cons_self ..), by rw [hw, List.cons_append]⟩

theorem Spells.opensScalar (h : l.Spells t) : OpensScalar t := by
  obtain ⟨c, u, hc, rfl⟩ := h.eq_cons
  cases l.negative with
  | false => exact opensScalar_of_isDigit hc u
  | true => exact ⟨'-', c :: u, rfl, by decide, by decide, by decide, by decide⟩

theorem Spells.scanWord? (h : l.Spells t) (r : Text) :
    scanWord? (t ++ r) words = none ∧ scanWord? (t ++ r) constants = none := by
  obtain ⟨c, u, hc, rfl⟩ := h.eq_cons
  have hn (d : CodePoint) (hd : ¬ d.isDigit) : d ≠ c := (CodePoint.isDigit_ne hc hd).symm
  cases l.negative with
  | false =>
    simp +decide [minus, words, constants, Json.scanWord?, Text.ofString, Text.dropLead?, hn]
  | true =>
    simp +decide [minus, words, constants, Json.scanWord?, Text.ofString, Text.dropLead?, hn]

theorem Spells.plain_scanScalar (h : l.Spells t) {r : Text} (hr : Stops r) (st : Strictness) :
    (scanScalar st (t ++ r)).plain =
      if l.isFloat then
        if l.toDouble.isFinite || st.allowNan then .ok (.float l.toDouble, r)
        else .error (.outOfRange ((t ++ r).take ((t ++ r).length - r.length)))
      else if maxIntegerDigits < l.whole.length then .error (.longInteger l.whole.length)
      else .ok (.int l.toInt, r) := by
  obtain ⟨hw, hc⟩ := h.scanWord? r
  rw [Json.plain_scanScalar, hw]
  dsimp only
  rw [hc]
  dsimp only
  rw [plain_scanNumber, scan?_append h hr]

end Literal

theorem plain_scanValue_of_scalar {t : Text} (h : OpensScalar t) (st : Strictness) (depth : Nat)
    (r : Text) : (scanValue st depth (t ++ r)).plain = (scanScalar st (t ++ r)).plain := by
  obtain ⟨c, u, rfl, ⟨h1, h2, h3⟩, -⟩ := h
  exact plain_scanValue_scalar st depth (u ++ r) h1 h2 h3

def answer {α : Type} (refused : Option Text) (a : α) (r : Text) : Except Stop (α × Text) :=
  match refused with
  | some name => .error (.constant name)
  | none => .ok (a, r)

def Strictness.refuse (st : Strictness) (constant : Option Text) : Option Text :=
  if st.allowNan then none else constant

def constant? : Double → Option Text
  | .nan => some "NaN"
  | .infinity false => some "Infinity"
  | .infinity true => some "-Infinity"
  | .finite .. => none

theorem constant?_eq_none {x : Double} (h : x.isFinite) : constant? x = none := by
  cases x with
  | nan | infinity => cases h
  | finite => rfl

theorem constant?_eq_some {x : Double} (h : ¬ x.isFinite) :
    constant? x = some (doubleLayout.double x) := by
  match x with
  | .nan | .infinity false | .infinity true => rfl
  | .finite .. => exact absurd rfl h

variable (st : Strictness) (depth : Nat)

theorem scanValue_null (r : Text) :
    (scanValue st depth ("null" ++ r)).plain = .ok (.null, r) := by
  have h : OpensScalar "null" := ⟨_, _, rfl, by decide⟩
  rw [plain_scanValue_of_scalar h, plain_scanScalar]
  rfl

theorem scanValue_bool (b : Bool) (r : Text) :
    (scanValue st depth ((if b then "true" else "false" : Text) ++ r)).plain =
      .ok (.bool b, r) := by
  have h : OpensScalar (if b then "true" else "false" : Text) := by
    cases b
    · exact ⟨_, _, rfl, by decide⟩
    · exact ⟨_, _, rfl, by decide⟩
  rw [plain_scanValue_of_scalar h, plain_scanScalar]
  cases b
  · rfl
  · rfl

theorem scanValue_int {n : Int} (h : ¬ IsLong n) {r : Text} (hr : Literal.Stops r) :
    (scanValue st depth (Numeral.ofInt n ++ r)).plain = .ok (.int n, r) := by
  have hl := Literal.spells_spelled (Literal.wellFormed_ofInt n)
  rw [← Literal.spelled_ofInt, plain_scanValue_of_scalar hl.opensScalar, hl.plain_scanScalar hr,
    Literal.isFloat_ofInt, if_neg (by decide), if_neg, Literal.toInt_ofInt]
  exact h

theorem opensScalar_double (x : Double) : OpensScalar (doubleLayout.double x) := by
  match x with
  | .nan => exact ⟨_, _, rfl, by decide⟩
  | .infinity false => exact ⟨_, _, rfl, by decide⟩
  | .infinity true => exact ⟨_, _, rfl, by decide⟩
  | .finite negative m =>
    rw [← Literal.spelled_ofDouble]
    exact (Literal.spells_spelled (Literal.wellFormed_ofDouble ..)).opensScalar

theorem scanValue_double (x : Double) {r : Text} (hr : Literal.Stops r) :
    (scanValue st depth (doubleLayout.double x ++ r)).plain =
      answer (st.refuse (constant? x)) (.float x) r := by
  obtain ⟨allowNan⟩ := st
  rw [plain_scanValue_of_scalar (opensScalar_double x)]
  match x with
  | .finite negative m =>
    have hl := Literal.spells_spelled (Literal.wellFormed_ofDouble doubleLayout negative m)
    rw [← Literal.spelled_ofDouble, hl.plain_scanScalar hr,
      if_pos (Literal.isFloat_ofDouble ..), Literal.toDouble_ofDouble]
    cases allowNan <;> rfl
  | .nan | .infinity false | .infinity true =>
    rw [plain_scanScalar]
    cases allowNan <;> rfl

end Json

end ReplySchema
