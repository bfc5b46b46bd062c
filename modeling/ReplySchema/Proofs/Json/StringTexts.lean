import ReplySchema.Json.Print
import ReplySchema.Proofs.Json.Grammar
import ReplySchema.Proofs.Json.Strings
import ReplySchema.Proofs.Text.Search

/-!
Strings read by the grammar. Between two quotes the scanner takes one step for each plain code point,
each escape and each pair of surrogates, so it reads exactly the bodies of strings, and what it reads
is what they denote. What is printed for a string is a literal of it: only control characters are
spelled by number, so no two halves of a pair meet in escapes and join.
-/

namespace ReplySchema.Json

theorem UnitEscape.ne {u : Text} {c d : CodePoint} (h : UnitEscape u c) (hb : d ≠ '\\')
    (hu : d ≠ 'u') (hd : Numeral.hexValue? d = none) : d ∉ u := by
  obtain ⟨-, hn⟩ := h
  intro hmem
  rcases List.mem_cons.1 hmem with rfl | hmem
  · exact hb rfl
  · rcases List.mem_cons.1 hmem with rfl | hmem
    · exact hu rfl
    · have := Numeral.hexValue?_of_hexToNat? hn d hmem
      rw [hd] at this
      cases this

theorem scanUnit?_append {digits : Text} {n : Nat} (hl : digits.length = 4)
    (hn : Numeral.hexToNat? digits = some n) (e : CodePoint) (s : Text) :
    scanUnit? (digits ++ e :: s) = some (.ofNat n, e :: s) := by
  match digits, hl with
  | [a, b, c, d], _ =>
    simp only [List.cons_append, List.nil_append, scanUnit?, hn, Option.map_some]

theorem unitEscape_of_scanUnit? {s r : Text} {c : CodePoint} (h : scanUnit? s = some (c, r)) :
    ∃ digits, s = digits ++ r ∧ UnitEscape ('\\' :: 'u' :: digits) c := by
  unfold scanUnit? at h
  split at h
  · rename_i a b c d e t
    obtain ⟨n, hn, he⟩ := Option.map_eq_some_iff.1 h
    cases he
    exact ⟨[a, b, c, d], rfl, .mk rfl hn⟩
  · cases h

theorem scanLowSurrogate?_append {u : Text} {low : CodePoint} (hu : UnitEscape u low)
    (hl : low.isLowSurrogate) (e : CodePoint) (s : Text) :
    scanLowSurrogate? (u ++ e :: s) = some (low, e :: s) := by
  obtain ⟨hlen, hn⟩ := hu
  have hlead (t : Text) : Text.dropLead? "\\u" ('\\' :: 'u' :: t) = some t := rfl
  rw [List.cons_append, List.cons_append, scanLowSurrogate?, hlead]
  simp only [scanUnit?_append hlen hn, hl, if_true]

theorem unitEscape_of_scanLowSurrogate? {s r : Text} {low : CodePoint}
    (h : scanLowSurrogate? s = some (low, r)) :
    ∃ u, UnitEscape u low ∧ low.isLowSurrogate ∧ s = u ++ r := by
  unfold scanLowSurrogate? at h
  split at h
  · rename_i t ht
    split at h
    · rename_i c v hv
      split at h
      · rename_i hl
        cases h
        obtain ⟨digits, rfl, hu⟩ := unitEscape_of_scanUnit? hv
        exact ⟨_, hu, hl, (Text.dropLead?_eq_some_iff.1 ht).trans rfl⟩
      · cases h
    · cases h
  · cases h

/-- No escape reaches over a quote. -/
theorem lowAhead_of_scanLowSurrogate? {b r : Text} {p : CodePoint × Text}
    (h : scanLowSurrogate? (b ++ ('"' : CodePoint) :: r) = some p) : LowAhead b := by
  obtain ⟨low, v⟩ := p
  obtain ⟨u, hu, hl, hb⟩ := unitEscape_of_scanLowSurrogate? h
  have hquote : ('"' : CodePoint) ∉ u := hu.ne (by decide) (by decide) (by decide)
  rcases List.append_eq_append_iff.1 hb with ⟨a, rfl, ha⟩ | ⟨a, rfl, -⟩
  · cases a with
    | nil => exact ⟨b, low, [], by simpa using hu, hl, (List.append_nil b).symm⟩
    | cons d a =>
      cases ha
      exact absurd (List.mem_append_right b (List.mem_cons_self ..)) hquote
  · exact ⟨u, low, a, hu, hl, rfl⟩

theorem scanLowSurrogate?_of_lowAhead {b : Text} (h : LowAhead b) (r : Text) :
    ∃ p, scanLowSurrogate? (b ++ ('"' : CodePoint) :: r) = some p := by
  obtain ⟨u, low, rest, hu, hl, rfl⟩ := h
  rw [List.append_assoc]
  cases rest with
  | nil => exact ⟨_, scanLowSurrogate?_append hu hl '"' r⟩
  | cons e rest => exact ⟨_, scanLowSurrogate?_append hu hl e _⟩

theorem shortEscape?_eq_some_iff {e c : CodePoint} :
    shortEscape? e = some c ↔ (e, c) ∈ shortEscapes := by
  refine ⟨fun h => ?_, fun h => ?_⟩
  · unfold shortEscape? at h
    split_ifs at h with h1 h2 h3 h4 h5 h6
    · simp only [Bool.or_eq_true, decide_eq_true_eq] at h1
      cases h
      rcases h1 with (rfl | rfl) | rfl <;> decide
    · cases h; rw [h2]; decide
    · cases h; rw [h3]; decide
    · cases h; rw [h4]; decide
    · cases h; rw [h5]; decide
    · cases h; rw [h6]; decide
  · simp only [shortEscapes, List.mem_cons, List.not_mem_nil, or_false, Prod.mk.injEq] at h
    rcases h with ⟨rfl, rfl⟩ | ⟨rfl, rfl⟩ | ⟨rfl, rfl⟩ | ⟨rfl, rfl⟩ | ⟨rfl, rfl⟩ | ⟨rfl, rfl⟩ |
      ⟨rfl, rfl⟩ | ⟨rfl, rfl⟩ <;> rfl

/-- What the scanner has read up to a quote is the body of a string. -/
theorem stringBody_of_scanString {opening done s t r : Text}
    (h : scanString opening done s = .ok (t, r)) :
    ∃ b u, s = b ++ ('"' : CodePoint) :: r ∧ StringBody b u ∧ t = done.reverse ++ u := by
  fun_induction scanString opening done s generalizing t with
  | case1 | case3 | case4 | case9 | case10 => cases h
  | case2 done s =>
    cases h
    exact ⟨[], [], rfl, .nil, (List.append_nil _).symm⟩
  | case5 done s unit v hunit _ hhigh low w hlow _ _ ih =>
    obtain ⟨b, u, rfl, hb, rfl⟩ := ih h
    obtain ⟨digits, rfl, hdigits⟩ := unitEscape_of_scanUnit? hunit
    obtain ⟨x, hx, hl, rfl⟩ := unitEscape_of_scanLowSurrogate? hlow
    refine ⟨_, _, ?_, .pair hdigits hhigh hx hl hb, by simp⟩
    simp
  | case6 done s unit v hunit _ hhigh hlow _ ih =>
    obtain ⟨b, u, rfl, hb, rfl⟩ := ih h
    obtain ⟨digits, rfl, hdigits⟩ := unitEscape_of_scanUnit? hunit
    refine ⟨_, _, ?_, .unit hdigits (fun _ hahead => ?_) hb, by simp⟩
    · simp
    · obtain ⟨p, hp⟩ := scanLowSurrogate?_of_lowAhead hahead r
      rw [hlow] at hp
      cases hp
  | case7 done s unit v hunit _ hhigh _ ih =>
    obtain ⟨b, u, rfl, hb, rfl⟩ := ih h
    obtain ⟨digits, rfl, hdigits⟩ := unitEscape_of_scanUnit? hunit
    refine ⟨_, _, ?_, .unit hdigits (fun hc => absurd hc hhigh) hb, by simp⟩
    simp
  | case8 done e s _ d hd _ ih =>
    obtain ⟨b, u, rfl, hb, rfl⟩ := ih h
    exact ⟨_, _, rfl, .short (shortEscape?_eq_some_iff.1 hd) hb, by simp⟩
  | case11 done c s hquote hslash hc ih =>
    obtain ⟨b, u, rfl, hb, rfl⟩ := ih h
    exact ⟨_, _, rfl, .plain hquote hslash (Nat.not_lt.1 hc) hb, by simp⟩

theorem append_quote_eq_cons (b r : Text) :
    ∃ e s, b ++ ('"' : CodePoint) :: r = e :: s := by
  cases b with
  | nil => exact ⟨_, _, rfl⟩
  | cons e b => exact ⟨_, _, rfl⟩

theorem scanString_unitEscape {u : Text} {c : CodePoint} (h : UnitEscape u c)
    (opening done : Text) (e : CodePoint) (s : Text) :
    scanString opening done (u ++ e :: s) =
      match if c.isHighSurrogate then scanLowSurrogate? (e :: s) else none with
      | some (low, v) => scanString opening (c.joinSurrogates low :: done) v
      | none => scanString opening (c :: done) (e :: s) := by
  obtain ⟨hl, hn⟩ := h
  exact scanString_number opening done (scanUnit?_append hl hn e s)

/-- The body of a string is read up to the quote behind it. -/
theorem scanString_append {b u : Text} (h : StringBody b u) (opening done r : Text) :
    scanString opening done (b ++ ('"' : CodePoint) :: r) = .ok (done.reverse ++ u, r) := by
  induction h generalizing done with
  | nil => rw [List.nil_append, scanString_quote, List.append_nil]
  | plain hq hb hc h ih =>
    rw [List.cons_append, scanString_plain opening done hq hb (Nat.not_lt.2 hc), ih,
      List.reverse_cons, List.append_assoc, List.singleton_append]
  | short he h ih =>
    rw [List.cons_append, List.cons_append,
      scanString_short opening done (shortEscape?_eq_some_iff.2 he), ih, List.reverse_cons,
      List.append_assoc, List.singleton_append]
  | @unit u b t c hu hc h ih =>
    have hlow : (if c.isHighSurrogate then scanLowSurrogate? (b ++ ('"' : CodePoint) :: r)
        else none) = none := by
      by_cases hhigh : c.isHighSurrogate
      · rw [if_pos hhigh]
        cases hp : scanLowSurrogate? (b ++ ('"' : CodePoint) :: r) with
        | none => rfl
        | some p => exact absurd (lowAhead_of_scanLowSurrogate? hp) (hc hhigh)
      · rw [if_neg hhigh]
    have ih := ih (c :: done)
    obtain ⟨e, s, hs⟩ := append_quote_eq_cons b r
    rw [hs] at hlow ih
    rw [List.append_assoc, hs, scanString_unitEscape hu, hlow]
    dsimp only
    rw [ih, List.reverse_cons, List.append_assoc, List.singleton_append]
  | @pair u w b t high low hu hh hw hl h ih =>
    have ih := ih (high.joinSurrogates low :: done)
    obtain ⟨e, s, hs⟩ := append_quote_eq_cons b r
    obtain ⟨d, x, hx⟩ : ∃ d x, w ++ e :: s = d :: x := by
      cases hw
      exact ⟨_, _, rfl⟩
    have hlow := scanLowSurrogate?_append hw hl e s
    rw [hs] at ih
    rw [List.append_assoc, List.append_assoc, hs, hx, scanString_unitEscape hu, if_pos hh, ← hx,
      hlow]
    dsimp only
    rw [ih, List.reverse_cons, List.append_assoc, List.singleton_append]

section Printed

/-- What is written for a code point is one step of a body. -/
theorem StringBody.escape (c : CodePoint) {b t : Text} (h : StringBody b t) :
    StringBody (escape c ++ b) (c :: t) := by
  -- a short escape, a number for any other control character, or the code point itself
  unfold Json.escape
  split_ifs with h1 h2 h3 h4 h5 h6 h7 h8
  · exact .short (by rw [h1]; decide) h
  · exact .short (by rw [h2]; decide) h
  · exact .short (by rw [h3]; decide) h
  · exact .short (by rw [h4]; decide) h
  · exact .short (by rw [h5]; decide) h
  · exact .short (by rw [h6]; decide) h
  · exact .short (by rw [h7]; decide) h
  · have hn : Numeral.hexToNat? (Numeral.hex 4 c.val) = some c.val :=
      Numeral.hexToNat?_hex (by omega)
    have hc : CodePoint.ofNat c.val = c := Fin.ext (Nat.mod_eq_of_lt c.isLt)
    have hunit : UnitEscape ('\\' :: 'u' :: Numeral.hex 4 c.val) (.ofNat c.val) := .mk rfl hn
    rw [hc] at hunit
    have hhigh : ¬ c.isHighSurrogate := by
      simp only [CodePoint.isHighSurrogate, Bool.and_eq_true, decide_eq_true_eq]
      omega
    exact .unit hunit (fun hc => absurd hc hhigh) h
  · exact .plain h1 h2 (Nat.not_lt.1 h8) h

theorem stringBody_flatMap_escape (t : Text) : StringBody (t.flatMap escape) t := by
  induction t with
  | nil => exact .nil
  | cons c t ih => exact ih.escape c

theorem stringText_printString (t : Text) : StringText (printString t) t :=
  .mk (stringBody_flatMap_escape t)

theorem printString_append (t r : Text) :
    printString t ++ r = ('"' : CodePoint) :: (t.flatMap escape ++ ('"' : CodePoint) :: r) := by
  simp only [printString, List.append_assoc]
  rfl

end Printed

end ReplySchema.Json
