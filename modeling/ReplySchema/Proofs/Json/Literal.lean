import ReplySchema.Json.Number
import ReplySchema.Proofs.Text.Numeral

/-!
Number literals written out. A literal has its spellings, of which one has an explicit sign in its
exponent. The scanner reads a literal from each of its spellings in front of anything that could not
be a part of it, and what it reads from a text is the literal that the text begins with.
-/

namespace ReplySchema

theorem takeWhile_isDigit {ds r : Text} (hd : ds.IsDigits) (hr : ∀ c ∈ r.head?, ¬ c.isDigit) :
    (ds ++ r).takeWhile CodePoint.isDigit = ds := by
  induction ds with
  | nil =>
    cases r with
    | nil => rfl
    | cons c r => rw [List.nil_append, List.takeWhile_cons_of_neg (hr c rfl)]
  | cons c ds ih =>
    rw [List.cons_append, List.takeWhile_cons_of_pos (hd c (List.mem_cons_self ..)),
      ih fun d h => hd d (List.mem_cons_of_mem _ h)]

theorem dropWhile_isDigit {ds r : Text} (hd : ds.IsDigits) (hr : ∀ c ∈ r.head?, ¬ c.isDigit) :
    (ds ++ r).dropWhile CodePoint.isDigit = r := by
  have h := List.takeWhile_append_dropWhile (p := CodePoint.isDigit) (l := ds ++ r)
  rw [takeWhile_isDigit hd hr] at h
  exact List.append_cancel_left h

theorem CodePoint.isDigit_ne {c d : CodePoint} (hc : c.isDigit) (hd : ¬ d.isDigit) : c ≠ d := by
  rintro rfl
  exact hd hc

namespace Json.Literal

/-- Nothing that a number literal could go on with. -/
def Stops (r : Text) : Prop :=
  ∀ c ∈ r.head?, ¬ c.isDigit ∧ c ≠ '.' ∧ c ≠ 'e' ∧ c ≠ 'E'

theorem stops_cons {c : CodePoint} (h : ¬ c.isDigit ∧ c ≠ '.' ∧ c ≠ 'e' ∧ c ≠ 'E') (r : Text) :
    Stops (c :: r) := by
  intro d hd
  cases hd
  exact h

def IsWhole (w : Text) : Prop :=
  w = [('0' : CodePoint)] ∨ ∃ c t, w = c :: t ∧ c ≠ '0' ∧ w.IsDigits

structure WellFormed (l : Literal) : Prop where
  whole : IsWhole l.whole
  fraction : l.fraction.IsDigits
  exponent : ∀ negative ds, l.exponent = some (negative, ds) → ds ≠ [] ∧ ds.IsDigits

def minus (negative : Bool) : Text := if negative then ['-'] else []

def pointed : Text → Text
  | [] => []
  | c :: t => '.' :: c :: t

def powered : Option (Bool × Text) → Text
  | none => []
  | some (negative, ds) => 'e' :: (if negative then '-' else '+') :: ds

def spelled (l : Literal) : Text :=
  minus l.negative ++ (l.whole ++ (pointed l.fraction ++ powered l.exponent))

/-- How an exponent is written: a mark in either case, a sign that may be missing, and digits. -/
inductive Powers : Option (Bool × Text) → Text → Prop
  | none : Powers none []
  | unsigned {mark : CodePoint} {ds : Text} (hm : mark = 'e' ∨ mark = 'E') (hne : ds ≠ [])
      (hd : ds.IsDigits) : Powers (some (false, ds)) (mark :: ds)
  | signed {mark : CodePoint} {ds : Text} (negative : Bool) (hm : mark = 'e' ∨ mark = 'E')
      (hne : ds ≠ []) (hd : ds.IsDigits) :
      Powers (some (negative, ds)) (mark :: (if negative then '-' else '+') :: ds)

/-- How a literal is written; where it has a point there are digits on both sides of it. -/
inductive Spells (l : Literal) : Text → Prop
  | mk {e : Text} (hw : IsWhole l.whole) (hf : l.fraction.IsDigits) (he : Powers l.exponent e) :
      Spells l (minus l.negative ++ (l.whole ++ (pointed l.fraction ++ e)))

theorem powers_powered {e : Option (Bool × Text)}
    (he : ∀ negative ds, e = some (negative, ds) → ds ≠ [] ∧ ds.IsDigits) :
    Powers e (powered e) := by
  cases e with
  | none => exact .none
  | some p =>
    obtain ⟨negative, ds⟩ := p
    obtain ⟨hne, hd⟩ := he negative ds rfl
    exact .signed negative (.inl rfl) hne hd

theorem spells_spelled {l : Literal} (hl : l.WellFormed) : l.Spells l.spelled :=
  .mk hl.whole hl.fraction (powers_powered hl.exponent)

theorem scanWhole?_append {w r : Text} (hw : IsWhole w) (hr : ∀ c ∈ r.head?, ¬ c.isDigit) :
    scanWhole? (w ++ r) = some (w, r) := by
  rcases hw with rfl | ⟨c, t, rfl, h0, hd⟩
  · rw [List.singleton_append, scanWhole?, if_pos rfl]
  · have ht : Text.IsDigits t := fun d h => hd d (List.mem_cons_of_mem _ h)
    rw [List.cons_append, scanWhole?, if_neg h0, if_pos (hd c (List.mem_cons_self ..)),
      takeWhile_isDigit ht hr, dropWhile_isDigit ht hr]

theorem scanFraction_append {f r : Text} (hf : f.IsDigits)
    (hr : ∀ c ∈ r.head?, ¬ c.isDigit ∧ c ≠ '.') : scanFraction (pointed f ++ r) = (f, r) := by
  cases f with
  | nil =>
    rw [pointed, List.nil_append]
    cases r with
    | nil => rfl
    | cons p r =>
      cases r with
      | nil => rfl
      | cons c t =>
        rw [scanFraction, if_neg]
        simp [(hr p rfl).2]
  | cons c t =>
    have ht : Text.IsDigits t := fun d h => hf d (List.mem_cons_of_mem _ h)
    have hn : ∀ d ∈ r.head?, ¬ d.isDigit := fun d h => (hr d h).1
    rw [pointed, List.cons_append, List.cons_append, scanFraction, if_pos,
      takeWhile_isDigit ht hn, dropWhile_isDigit ht hn]
    simp [hf c (List.mem_cons_self ..)]

theorem scanSign_sign (negative : Bool) (t : Text) :
    scanSign ((if negative then '-' else '+') :: t) = (negative, t) := by
  cases negative
  · rfl
  · rfl

theorem scanExponent_append {e : Option (Bool × Text)} {t r : Text} (he : Powers e t)
    (hr : Stops r) : scanExponent (t ++ r) = (e, r) := by
  have hn : ∀ d ∈ r.head?, ¬ d.isDigit := fun d h => (hr d h).1
  cases he with
  | none =>
    rw [List.nil_append]
    cases r with
    | nil => rfl
    | cons c t =>
      obtain ⟨-, -, h1, h2⟩ := hr c rfl
      rw [scanExponent, if_neg]
      simp [h1, h2]
  | @unsigned mark ds hm hne hd =>
    have hsign : scanSign (ds ++ r) = (false, ds ++ r) := by
      obtain ⟨c, u, rfl⟩ := List.exists_cons_of_ne_nil hne
      have hc := hd c (List.mem_cons_self ..)
      rw [List.cons_append, scanSign, if_neg (CodePoint.isDigit_ne hc (by decide)),
        if_neg (CodePoint.isDigit_ne hc (by decide))]
    rw [List.cons_append, scanExponent, if_pos (by simpa using hm)]
    simp only [hsign, takeWhile_isDigit hd hn, dropWhile_isDigit hd hn]
    rw [if_neg (by simpa using hne)]
  | signed negative hm hne hd =>
    rw [List.cons_append, List.cons_append, scanExponent, if_pos (by simpa using hm)]
    simp only [scanSign_sign, takeWhile_isDigit hd hn, dropWhile_isDigit hd hn]
    rw [if_neg (by simpa using hne)]

theorem stops_powers {e : Option (Bool × Text)} {t r : Text} (he : Powers e t) (hr : Stops r) :
    ∀ c ∈ (t ++ r).head?, ¬ c.isDigit ∧ c ≠ '.' := by
  intro c hc
  cases he with
  | none => exact ⟨(hr c hc).1, (hr c hc).2.1⟩
  | unsigned hm | signed _ hm =>
    cases hc
    rcases hm with rfl | rfl <;> decide

theorem stops_pointed {f r : Text} (hr : ∀ c ∈ r.head?, ¬ c.isDigit ∧ c ≠ '.') :
    ∀ c ∈ (pointed f ++ r).head?, ¬ c.isDigit := by
  intro c hc
  cases f with
  | nil => exact (hr c hc).1
  | cons d t =>
    cases hc
    decide

theorem scanMinus_append {w : Text} (hw : IsWhole w) (negative : Bool) (r : Text) :
    scanMinus (minus negative ++ (w ++ r)) = (negative, w ++ r) := by
  cases negative with
  | true => rfl
  | false =>
    rcases hw with rfl | ⟨c, t, rfl, -, hd⟩
    · rfl
    · have hc : c ≠ '-' := CodePoint.isDigit_ne (hd c (List.mem_cons_self ..)) (by decide)
      simp [minus, scanMinus, hc]

/-- A literal is read from each of its spellings. -/
theorem scan?_append {l : Literal} {t : Text} (h : l.Spells t) {r : Text} (hr : Stops r) :
    scan? (t ++ r) = some (l, r) := by
  obtain ⟨hw, hf, he⟩ := h
  have hpow := stops_powers he hr
  have hpt := stops_pointed (f := l.fraction) hpow
  rw [scan?]
  simp only [List.append_assoc]
  rw [scanMinus_append hw, scanWhole?_append hw hpt]
  simp only [Option.map_some, scanFraction_append hf hpow, scanExponent_append he hr]

section Reading

variable {s r : Text}

theorem isDigits_takeWhile (s : Text) : Text.IsDigits (s.takeWhile CodePoint.isDigit) :=
  List.all_eq_true.1 List.all_takeWhile

theorem eq_append_of_scanWhole? {w : Text} (h : scanWhole? s = some (w, r)) :
    s = w ++ r ∧ IsWhole w := by
  unfold scanWhole? at h
  split at h
  · cases h
  · split at h
    · rename_i c t h0
      cases h
      exact ⟨rfl, .inl (by rw [h0])⟩
    · split at h
      · rename_i c t h0 hc
        cases h
        refine ⟨by rw [List.cons_append, List.takeWhile_append_dropWhile], .inr ⟨c, _, rfl, h0, ?_⟩⟩
        exact List.forall_mem_cons.2 ⟨hc, isDigits_takeWhile t⟩
      · cases h

theorem eq_append_of_scanFraction (s : Text) :
    s = pointed (scanFraction s).1 ++ (scanFraction s).2 ∧ (scanFraction s).1.IsDigits := by
  unfold scanFraction
  split
  · rename_i p c t
    split
    · rename_i h
      obtain ⟨hp, hc⟩ := Bool.and_eq_true_iff.1 h
      refine ⟨?_, List.forall_mem_cons.2 ⟨hc, isDigits_takeWhile t⟩⟩
      rw [of_decide_eq_true hp]
      simp only [pointed, List.cons_append, List.takeWhile_append_dropWhile]
    · exact ⟨rfl, fun c hc => absurd hc List.not_mem_nil⟩
  · exact ⟨rfl, fun c hc => absurd hc List.not_mem_nil⟩

theorem scanSign_cases (s : Text) :
    scanSign s = (false, s) ∨ ∃ negative, s = (if negative then '-' else '+') :: (scanSign s).2 ∧
      (scanSign s).1 = negative := by
  unfold scanSign
  split
  · rename_i c t
    split
    · rename_i hc
      exact .inr ⟨true, by rw [hc]; rfl, rfl⟩
    · split
      · rename_i hc
        exact .inr ⟨false, by rw [hc]; rfl, rfl⟩
      · exact .inl rfl
  · exact .inl rfl

theorem eq_append_of_scanExponent (s : Text) :
    ∃ t, s = t ++ (scanExponent s).2 ∧ Powers (scanExponent s).1 t := by
  unfold scanExponent
  split
  · exact ⟨[], rfl, .none⟩
  · rename_i e t
    split
    · rename_i he
      have hm : e = 'e' ∨ e = 'E' := by simpa using he
      dsimp only
      split
      · exact ⟨[], rfl, .none⟩
      · rename_i hne
        have hne : (scanSign t).2.takeWhile CodePoint.isDigit ≠ [] := by simpa using hne
        have hd := isDigits_takeWhile (scanSign t).2
        have hsplit := List.takeWhile_append_dropWhile (p := CodePoint.isDigit) (l := (scanSign t).2)
        rcases scanSign_cases t with hsign | ⟨negative, ht, hn⟩
        · refine ⟨e :: (scanSign t).2.takeWhile CodePoint.isDigit, ?_, ?_⟩
          · rw [List.cons_append, hsplit, hsign]
          · rw [hsign] at hne hd ⊢
            exact .unsigned hm hne hd
        · refine ⟨e :: (if negative then '-' else '+') ::
            (scanSign t).2.takeWhile CodePoint.isDigit, ?_, ?_⟩
          · rw [List.cons_append, List.cons_append, hsplit, ← ht]
          · rw [hn]
            exact .signed negative hm hne hd
    · exact ⟨[], rfl, .none⟩

theorem eq_append_of_scanMinus (s : Text) : s = minus (scanMinus s).1 ++ (scanMinus s).2 := by
  unfold scanMinus
  split
  · split
    · rename_i hc
      rw [hc]
      rfl
    · rfl
  · rfl

/-- What is read begins the text, in one of the spellings of the literal. -/
theorem spells_of_scan? {l : Literal} (h : scan? s = some (l, r)) :
    ∃ t, s = t ++ r ∧ l.Spells t := by
  obtain ⟨⟨w, u⟩, hw, he⟩ := Option.map_eq_some_iff.1 h
  cases he
  obtain ⟨hrest, hwhole⟩ := eq_append_of_scanWhole? hw
  obtain ⟨hu, hf⟩ := eq_append_of_scanFraction u
  obtain ⟨e, hv, hpow⟩ := eq_append_of_scanExponent (scanFraction u).2
  refine ⟨_, ?_, .mk hwhole hf hpow⟩
  calc
    s = minus (scanMinus s).1 ++ (w ++ u) := by rw [← hrest, ← eq_append_of_scanMinus]
    _ = minus (scanMinus s).1 ++ (w ++ (pointed (scanFraction u).1 ++
          (e ++ (scanExponent (scanFraction u).2).2))) := by rw [← hv, ← hu]
    _ = _ := by simp only [List.append_assoc]

end Reading

def ofInt (n : Int) : Literal := ⟨n < 0, Numeral.ofNat n.natAbs, [], none⟩

theorem isWhole_ofNat (n : Nat) : IsWhole (Numeral.ofNat n) := by
  obtain ⟨c, t, ht, hc, h0⟩ := Numeral.ofNat_eq_cons n
  by_cases h : c = '0'
  · rw [ht, h, (h0 h).2]
    exact .inl rfl
  · exact .inr ⟨c, t, ht, h, Numeral.isDigits_ofNat n⟩

theorem wellFormed_ofInt (n : Int) : (ofInt n).WellFormed :=
  ⟨isWhole_ofNat _, nofun, nofun⟩

theorem spelled_ofInt (n : Int) : (ofInt n).spelled = Numeral.ofInt n := by
  cases n with
  | ofNat n => simp [ofInt, spelled, minus, pointed, powered, Numeral.ofInt]
  | negSucc n => simp [ofInt, spelled, minus, pointed, powered, Numeral.ofInt, Int.negSucc_lt_zero]

theorem toInt_ofInt (n : Int) : (ofInt n).toInt = n := by
  rw [toInt, ofInt]
  simp only [Numeral.toNat_ofNat, decide_eq_true_eq]
  split <;> omega

theorem isFloat_ofInt (n : Int) : (ofInt n).isFloat = false := rfl

end Json.Literal

end ReplySchema
