import ReplySchema.Proofs.Json.Acceptance

/-!
What documents are made of: strings, the spaces of gaps, and between them ASCII characters that show
and are neither quotes nor backticks. So a property that appending keeps holds of every document once
it holds of these. Each string and each key of a value is spelled by a string literal that stands in
the text of the value.
-/

namespace ReplySchema.Json

theorem Literal.Powers.mem {e : Option (Bool × Text)} {t : Text} (h : Powers e t) :
    ∀ c ∈ t, c.isDigit ∨ c ∈ (['e', 'E', '-', '+'] : Text) := by
  have hdigits {ds : Text} (hd : ds.IsDigits) :
      ∀ c ∈ ds, c.isDigit ∨ c ∈ (['e', 'E', '-', '+'] : Text) := fun c hc => .inl (hd c hc)
  cases h with
  | none => exact nofun
  | unsigned hm _ hd =>
    refine List.forall_mem_cons.2 ⟨.inr ?_, hdigits hd⟩
    rcases hm with rfl | rfl <;> decide
  | signed negative hm _ hd =>
    refine List.forall_mem_cons.2 ⟨.inr ?_, List.forall_mem_cons.2 ⟨.inr ?_, hdigits hd⟩⟩
    · rcases hm with rfl | rfl <;> decide
    · cases negative <;> decide

theorem Literal.Spells.mem {l : Literal} {t : Text} (h : l.Spells t) :
    ∀ c ∈ t, c.isDigit ∨ c ∈ (['.', 'e', 'E', '-', '+'] : Text) := by
  obtain ⟨hw, hf, he⟩ := h
  intro c hc
  simp only [List.mem_append] at hc
  rcases hc with hc | hc | hc | hc
  · refine .inr ?_
    cases hn : l.negative with
    | false =>
      rw [hn] at hc
      cases hc
    | true =>
      rw [hn] at hc
      rw [List.mem_singleton.1 hc]
      decide
  · exact .inl (isDigits_of_isWhole hw c hc)
  · cases hfraction : l.fraction with
    | nil =>
      rw [hfraction] at hc
      cases hc
    | cons d ds =>
      rw [hfraction] at hc hf
      rcases List.mem_cons.1 hc with rfl | hc
      · exact .inr (by decide)
      · exact .inl (hf c hc)
  · exact (he.mem c hc).imp_right (List.mem_cons_of_mem _)

section Visible

variable {st : Strictness} {t x : Text} {v : Value}

def isBare (c : CodePoint) : Bool := 0x20 ≤ c.val && c.val < 0x80 && c ≠ '"' && c ≠ '\x60'

theorem isBare_of_isDigit {c : CodePoint} (h : c.isDigit) : isBare c := by
  have hquote : c ≠ '"' := CodePoint.isDigit_ne h (by decide)
  have htick : c ≠ '\x60' := CodePoint.isDigit_ne h (by decide)
  simp only [CodePoint.isDigit, Bool.and_eq_true, decide_eq_true_eq] at h
  simp [isBare, hquote, htick]
  omega

theorem visible_of_isBare {c : CodePoint} (h : isBare c) : 0x20 ≤ c.val := by
  simp only [isBare, Bool.and_eq_true, decide_eq_true_eq] at h
  exact h.1.1.1

theorem ascii_of_isBare {c : CodePoint} (h : isBare c) : c.val < 0x80 := by
  simp only [isBare, Bool.and_eq_true, decide_eq_true_eq] at h
  exact h.1.1.2

theorem UnitEscape.visible {u : Text} {c : CodePoint} (h : UnitEscape u c) :
    ∀ d ∈ u, 0x20 ≤ d.val := by
  intro d hd
  by_contra hlow
  have hdigit : Numeral.hexValue? d = none := by
    simp only [Numeral.hexValue?, Bool.and_eq_true, decide_eq_true_eq]
    rw [if_neg (by omega), if_neg (by omega), if_neg (by omega)]
  refine h.ne ?_ ?_ hdigit hd
  · rintro rfl
    exact hlow (by decide)
  · rintro rfl
    exact hlow (by decide)

/-- Between two quotes no control character stands. -/
theorem StringBody.visible {b : Text} (h : StringBody b x) : ∀ c ∈ b, 0x20 ≤ c.val := by
  induction h with
  | nil => exact nofun
  | plain _ _ hc _ ih => exact List.forall_mem_cons.2 ⟨hc, ih⟩
  | @short e c b t he _ ih =>
    have hletter : shortEscapes.all (fun p => 0x20 ≤ p.1.val) = true := by decide
    have hc := of_decide_eq_true (List.all_eq_true.1 hletter _ he)
    exact List.forall_mem_cons.2 ⟨by decide, List.forall_mem_cons.2 ⟨hc, ih⟩⟩
  | unit hu _ _ ih => exact List.forall_mem_append.2 ⟨hu.visible, ih⟩
  | pair hu _ hw _ _ ih =>
    exact List.forall_mem_append.2 ⟨hu.visible, List.forall_mem_append.2 ⟨hw.visible, ih⟩⟩

theorem StringText.visible (h : StringText t x) : ∀ c ∈ t, 0x20 ≤ c.val := by
  obtain ⟨hb⟩ := h
  have hquote : 0x20 ≤ ('"' : CodePoint).val := by decide
  refine List.forall_mem_cons.2 ⟨hquote, List.forall_mem_append.2 ⟨hb.visible, ?_⟩⟩
  exact List.forall_mem_singleton.2 hquote

/-- The text of a scalar is bare or a string literal. -/
theorem Scalar.bare_or_string (h : Scalar st t v) :
    (∀ c ∈ t, isBare c) ∨ ∃ x, StringText t x := by
  have hnumber {l : Literal} (hl : l.Spells t) : ∀ c ∈ t, isBare c := by
    have hmarks : List.all (['.', 'e', 'E', '-', '+'] : Text) isBare = true := by decide
    exact fun c hc => (hl.mem c hc).elim isBare_of_isDigit (List.all_eq_true.1 hmarks c)
  cases h with
  | null => exact .inl (List.all_eq_true.1 (by decide))
  | bool b => cases b <;> exact .inl (List.all_eq_true.1 (by decide))
  | integer hl => exact .inl (hnumber hl)
  | double hl => exact .inl (hnumber hl)
  | string hs => exact .inr ⟨_, hs⟩
  | constant hc =>
    have hwords : constants.all (fun p => p.1.all isBare) = true := by decide
    exact .inl (List.all_eq_true.1 (List.all_eq_true.1 hwords _ hc))

theorem Scalar.visible (h : Scalar st t v) : ∀ c ∈ t, 0x20 ≤ c.val := by
  rcases h.bare_or_string with hbare | ⟨x, hs⟩
  · exact fun c hc => visible_of_isBare (hbare c hc)
  · exact hs.visible

end Visible

section Composition

variable {st : Strictness} {t : Text} {v : Value}

/-- A property of texts that documents have, because their pieces have it. -/
structure Composes (P : Text → Prop) : Prop where
  append : ∀ a b, P a → P b → P (a ++ b)
  bare : ∀ a, (∀ c ∈ a, isBare c) → P a
  gap : ∀ a, Gap a → P a
  string : ∀ a x, StringText a x → P a

variable {P : Text → Prop} {α : Type} {Elem : Text → α → Prop}

theorem Composes.cons (h : Composes P) {c : CodePoint} (hc : isBare c) {t : Text} (ht : P t) :
    P (c :: t) :=
  h.append [c] t (h.bare [c] (List.forall_mem_singleton.2 hc)) ht

theorem Composes.scalar (h : Composes P) (hs : Scalar st t v) : P t := by
  rcases hs.bare_or_string with hbare | ⟨x, hx⟩
  · exact h.bare t hbare
  · exact h.string t x hx

theorem Composes.series (h : Composes P) (he : ∀ t a, Elem t a → P t) {as : List α}
    (hs : Series Elem t as) : P t := by
  induction hs with
  | last ha hg => exact h.append _ _ (he _ _ ha) (h.gap _ hg)
  | more ha hg hg' _ ih =>
    have hcomma := h.cons (c := ',') (by decide) (h.append _ _ (h.gap _ hg') ih)
    exact h.append _ _ (he _ _ ha) (h.append _ _ (h.gap _ hg) hcomma)

theorem Composes.enclosed (h : Composes P) (he : ∀ t a, Elem t a → P t) {left right : CodePoint}
    (hl : isBare left) (hr : isBare right) {as : List α}
    (hs : Enclosed Elem left right t as) : P t := by
  have hnil : P [] := h.bare [] nofun
  have hright : P [right] := h.cons hr hnil
  cases hs with
  | empty hg => exact h.cons hl (h.append _ _ (h.gap _ hg) hright)
  | filled hg hs =>
    exact h.cons hl (h.append _ _ (h.gap _ hg) (h.append _ _ (h.series he hs) hright))

theorem Composes.denotes (h : Composes P) {depth : Nat} (hd : Denotes st depth t v) : P t := by
  induction depth generalizing t v with
  | zero => exact h.scalar hd
  | succ depth ih =>
    have hvalue : ∀ t v, Denotes st depth t v → P t := fun t v => ih
    have hmember : ∀ t m, Member (Denotes st depth) t m → P t := by
      rintro _ _ ⟨hn, hg, hg', ht⟩
      have hcolon := h.cons (c := ':') (by decide) (h.append _ _ (h.gap _ hg') (hvalue _ _ ht))
      exact h.append _ _ (h.string _ _ hn) (h.append _ _ (h.gap _ hg) hcolon)
    rcases hd with hs | ⟨ha⟩ | ⟨ho, -⟩
    · exact h.scalar hs
    · exact h.enclosed hvalue (by decide) (by decide) ha
    · exact h.enclosed hmember (by decide) (by decide) ho

theorem Composes.document (h : Composes P) (hd : Document st t v) : P t := by
  obtain ⟨hb, hd, ha⟩ := hd
  exact h.append _ _ (h.gap _ hb) (h.append _ _ (h.denotes hd) (h.gap _ ha))

end Composition

section Literals

variable {st : Strictness} {depth : Nat} {t x : Text} {v : Value}
variable {α : Type} {Elem : Text → α → Prop}

theorem Scalar.stringText (h : Scalar st t v) (hx : v.Speaks x) : StringText t x := by
  cases h with
  | @string s y h =>
    obtain rfl : x = y := by simpa [Value.Speaks, Value.parts, Value.members?] using hx
    exact h
  | null | bool | integer | double | constant =>
    simp [Value.Speaks, Value.parts, Value.members?] at hx

theorem Series.exists_part {as : List α} (h : Series Elem t as) {a : α} (ha : a ∈ as) :
    ∃ u, Elem u a ∧ u <:+: t := by
  induction h with
  | @last t g b hb _ =>
    obtain rfl := List.mem_singleton.1 ha
    exact ⟨t, hb, (List.prefix_append t g).isInfix⟩
  | @more t g g' rest b as hb _ _ _ ih =>
    rcases List.mem_cons.1 ha with rfl | ha
    · exact ⟨t, hb, (List.prefix_append t _).isInfix⟩
    · obtain ⟨u, hu, hrest⟩ := ih ha
      refine ⟨u, hu, hrest.trans ?_⟩
      exact ⟨t ++ (g ++ (',' : CodePoint) :: g'), [], by simp⟩

theorem Enclosed.exists_part {left right : CodePoint} {as : List α}
    (h : Enclosed Elem left right t as) {a : α} (ha : a ∈ as) : ∃ u, Elem u a ∧ u <:+: t := by
  cases h with
  | empty => cases ha
  | @filled g series _ hg hs =>
    obtain ⟨u, hu, hin⟩ := hs.exists_part ha
    exact ⟨u, hu, hin.trans ⟨left :: g, [right], by simp⟩⟩

theorem Keeps.nodup {members kept : List (Text × Value)} (h : Keeps members kept) :
    (kept.map Prod.fst).Nodup := by
  have hkept : members.foldl (fun ms m => assign m.1 m.2 ms) [] = kept :=
    Value.object.inj (objectOf_eq_iff.2 h)
  exact hkept ▸ nodup_keys_foldl_assign members

/-- An object keeps nothing that is not one of its members. -/
theorem Keeps.mem {members kept : List (Text × Value)} (h : Keeps members kept) {m : Text × Value}
    (hm : m ∈ kept) : m ∈ members := by
  have hfound : find? m.1 members.reverse = some m.2 := by
    rw [← h.values, find?_of_mem h.nodup hm]
  exact List.mem_reverse.1 (find?_mem hfound)

/-- What a value speaks stands in its text as a string literal. -/
theorem Denotes.exists_literal (h : Denotes st depth t v) (hx : v.Speaks x) :
    ∃ u, StringText u x ∧ u <:+: t := by
  induction depth generalizing t v with
  | zero => exact ⟨t, Scalar.stringText h hx, List.infix_rfl⟩
  | succ depth ih =>
    rcases h with h | ⟨ha⟩ | ⟨ho, hk⟩
    · exact ⟨t, h.stringText hx, List.infix_rfl⟩
    · obtain ⟨w, hw, hx⟩ := Value.speaks_array_iff.1 hx
      obtain ⟨y, hy, hyt⟩ := ha.exists_part hw
      obtain ⟨u, hu, huy⟩ := ih hy hx
      exact ⟨u, hu, huy.trans hyt⟩
    · rcases Value.speaks_object_iff.1 hx with hkey | ⟨m, hm, hx⟩
      · obtain ⟨m, hm, rfl⟩ := List.mem_map.1 hkey
        obtain ⟨y, ⟨hn, -, -, -⟩, hyt⟩ := ho.exists_part (hk.mem hm)
        exact ⟨_, hn, (List.prefix_append _ _).isInfix.trans hyt⟩
      · obtain ⟨_, @⟨n, g, g', y, _, _, -, -, -, hy⟩, hyt⟩ := ho.exists_part (hk.mem hm)
        obtain ⟨u, hu, huy⟩ := ih hy hx
        refine ⟨u, hu, huy.trans (List.IsInfix.trans ?_ hyt)⟩
        exact ⟨n ++ (g ++ (':' : CodePoint) :: g'), [], by simp⟩

theorem Document.exists_literal (h : Document st t v) (hx : v.Speaks x) :
    ∃ u, StringText u x ∧ u <:+: t := by
  obtain @⟨before, y, after, _, -, hy, -⟩ := h
  obtain ⟨u, hu, huy⟩ := hy.exists_literal hx
  exact ⟨u, hu, huy.trans ⟨before, after, by simp⟩⟩

end Literals

end ReplySchema.Json
