import ReplySchema.Text.Numeral
import ReplySchema.Value

/-!
Number literals: an optional minus, digits without a needless leading zero, then a fraction and an
exponent, each of which may be missing. A point or an exponent mark without digits after it does not
belong to the literal.
-/

namespace ReplySchema.Json

structure Literal where
  negative : Bool
  whole : Text
  /-- The digits after the point; empty when there is no point. -/
  fraction : Text
  /-- The sign and the digits of the exponent. -/
  exponent : Option (Bool × Text)

namespace Literal

def scanWhole? : Text → Option (Text × Text)
  | [] => none
  | c :: t =>
    if c = '0' then some ([c], t)
    else if c.isDigit then some (c :: t.takeWhile CodePoint.isDigit, t.dropWhile CodePoint.isDigit)
    else none

def scanFraction : Text → Text × Text
  | p :: c :: t =>
    if p = '.' && c.isDigit then
      (c :: t.takeWhile CodePoint.isDigit, t.dropWhile CodePoint.isDigit)
    else ([], p :: c :: t)
  | t => ([], t)

def scanSign : Text → Bool × Text
  | c :: t => if c = '-' then (true, t) else if c = '+' then (false, t) else (false, c :: t)
  | [] => (false, [])

def scanExponent : Text → Option (Bool × Text) × Text
  | [] => (none, [])
  | e :: t =>
    if e = 'e' || e = 'E' then
      let (negative, u) := scanSign t
      let digits := u.takeWhile CodePoint.isDigit
      if digits.isEmpty then (none, e :: t)
      else (some (negative, digits), u.dropWhile CodePoint.isDigit)
    else (none, e :: t)

def scanMinus : Text → Bool × Text
  | c :: t => if c = '-' then (true, t) else (false, c :: t)
  | [] => (false, [])

/-- The longest literal at the start of the text, and the text after it. -/
def scan? (s : Text) : Option (Literal × Text) :=
  (scanWhole? (scanMinus s).2).map fun whole =>
    let fraction := scanFraction whole.2
    let exponent := scanExponent fraction.2
    (⟨(scanMinus s).1, whole.1, fraction.1, exponent.1⟩, exponent.2)

/-- A literal with a fraction or an exponent denotes a double, even when its value is whole. -/
def isFloat (l : Literal) : Bool := !l.fraction.isEmpty || l.exponent.isSome

def toInt (l : Literal) : Int :=
  if l.negative then -(Numeral.toNat l.whole : Int) else Numeral.toNat l.whole

def tenPower (l : Literal) : Int :=
  match l.exponent with
  | none => 0
  | some (negative, digits) =>
    if negative then -(Numeral.toNat digits : Int) else Numeral.toNat digits

def toDouble (l : Literal) : Double :=
  Double.ofDecimal l.negative (Numeral.toNat (l.whole ++ l.fraction))
    (l.tenPower - l.fraction.length)

theorem length_scanWhole? {s ds r : Text} (h : scanWhole? s = some (ds, r)) :
    r.length < s.length := by
  unfold scanWhole? at h
  split at h
  · cases h
  · split at h
    · cases h
      simp
    · split at h
      · cases h
        simp only [List.length_cons]
        exact Nat.lt_succ_of_le (List.dropWhile_suffix _).length_le
      · cases h

theorem length_scanFraction (s : Text) : (scanFraction s).2.length ≤ s.length := by
  unfold scanFraction
  split
  · split
    · have := (List.dropWhile_suffix CodePoint.isDigit (l := by assumption)).length_le
      simp only [List.length_cons]
      omega
    · exact Nat.le_refl _
  · exact Nat.le_refl _

theorem length_scanSign (s : Text) : (scanSign s).2.length ≤ s.length := by
  unfold scanSign
  split
  · split
    · simp
    · split <;> simp
  · simp

theorem length_scanMinus (s : Text) : (scanMinus s).2.length ≤ s.length := by
  unfold scanMinus
  split
  · split <;> simp
  · simp

theorem length_scanExponent (s : Text) : (scanExponent s).2.length ≤ s.length := by
  unfold scanExponent
  split
  · exact Nat.le_refl _
  · rename_i e t
    split
    · dsimp only
      split
      · exact Nat.le_refl _
      · have h1 := length_scanSign t
        have h2 := (List.dropWhile_suffix CodePoint.isDigit (l := (scanSign t).2)).length_le
        simp only [List.length_cons]
        omega
    · exact Nat.le_refl _

theorem length_scan? {s r : Text} {l : Literal} (h : scan? s = some (l, r)) :
    r.length < s.length := by
  obtain ⟨⟨whole, u⟩, hw, he⟩ := Option.map_eq_some_iff.1 h
  have h1 := length_scanMinus s
  have h2 := length_scanWhole? hw
  have h3 := length_scanFraction u
  have h4 := length_scanExponent (scanFraction u).2
  have h5 : (scanExponent (scanFraction u).2).2 = r := congrArg Prod.snd he
  rw [← h5]
  omega

end Literal

end ReplySchema.Json
