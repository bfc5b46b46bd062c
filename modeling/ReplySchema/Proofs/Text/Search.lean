import Mathlib.Data.List.Infix
import ReplySchema.Text.Basic

/-!
Searching a text. A word that is taken off the front was the front; a text is split at the first
place where the word begins; and what stands between two marks that are not blank stays when the
blanks at both ends go.
-/

namespace ReplySchema.Text

variable {word t r : Text}

theorem dropLead?_eq_some_iff {lead s : Text} : dropLead? lead s = some r ↔ s = lead ++ r := by
  induction lead generalizing s with
  | nil => exact ⟨fun h => Option.some.inj h, fun h => congrArg some h⟩
  | cons c lead ih =>
    cases s with
    | nil =>
      constructor
      · intro h
        cases h
      · intro h
        cases h
    | cons d s =>
      rw [dropLead?, List.cons_append, List.cons.injEq, ← ih]
      by_cases hc : c = d
      · rw [if_pos hc]
        exact ⟨fun h => ⟨hc.symm, h⟩, And.right⟩
      · rw [if_neg hc]
        constructor
        · intro h
          cases h
        · intro h
          exact absurd h.1.symm hc

theorem dropLead?_append (lead r : Text) : dropLead? lead (lead ++ r) = some r :=
  dropLead?_eq_some_iff.2 rfl

theorem splitAt?_of_dropLead? (h : dropLead? word t = some r) : splitAt? word t = some ([], r) := by
  cases t with
  | nil => rw [splitAt?, h, Option.map_some]
  | cons c t => rw [splitAt?, h]

theorem eq_append_of_splitAt? {before : Text} (h : splitAt? word t = some (before, r)) :
    t = before ++ (word ++ r) := by
  induction t generalizing before with
  | nil =>
    rw [splitAt?] at h
    obtain ⟨rest, hrest, he⟩ := Option.map_eq_some_iff.1 h
    cases he
    rw [List.nil_append]
    exact dropLead?_eq_some_iff.1 hrest
  | cons c t ih =>
    rw [splitAt?] at h
    split at h
    · rename_i hrest
      cases h
      rw [List.nil_append]
      exact dropLead?_eq_some_iff.1 hrest
    · obtain ⟨⟨b, rest⟩, hrest, he⟩ := Option.map_eq_some_iff.1 h
      cases he
      rw [List.cons_append, ← ih hrest]

/-- The text is split behind `a` when the word begins nowhere in `a`. -/
theorem splitAt?_append {a : Text} (h : ∀ b, b ≠ [] → b <:+ a → ¬ word <+: b ++ (word ++ r)) :
    splitAt? word (a ++ (word ++ r)) = some (a, r) := by
  induction a with
  | nil => exact splitAt?_of_dropLead? (dropLead?_append word r)
  | cons c a ih =>
    have hnot : dropLead? word (c :: (a ++ (word ++ r))) = none := by
      cases hlead : dropLead? word (c :: (a ++ (word ++ r))) with
      | none => rfl
      | some x =>
        refine absurd ?_ (h (c :: a) (List.cons_ne_nil c a) List.suffix_rfl)
        exact ⟨x, (dropLead?_eq_some_iff.1 hlead).symm⟩
    have hrest := ih fun b hne hb => h b hne (hb.trans (List.suffix_cons c a))
    rw [List.cons_append, splitAt?, hnot, hrest, Option.map_some]

/-- What stands behind any place of the word stands behind its first one as well. -/
theorem suffix_of_splitAt? {a x before : Text}
    (h : splitAt? word (a ++ (word ++ x)) = some (before, r)) : x <:+ r := by
  induction a generalizing before with
  | nil =>
    rw [List.nil_append, splitAt?_of_dropLead? (dropLead?_append word x)] at h
    cases h
    exact List.suffix_rfl
  | cons c a ih =>
    rw [List.cons_append, splitAt?] at h
    split at h
    · rename_i hlead
      cases h
      have heq := dropLead?_eq_some_iff.1 hlead
      have hx : x <:+ c :: (a ++ (word ++ x)) := ⟨c :: (a ++ word), by simp⟩
      have hr : r <:+ c :: (a ++ (word ++ x)) := heq ▸ List.suffix_append word r
      refine List.suffix_of_suffix_length_le hx hr ?_
      have hlength := congrArg List.length heq
      simp only [List.length_cons, List.length_append] at hlength
      omega
    · obtain ⟨⟨b, rest⟩, hrest, he⟩ := Option.map_eq_some_iff.1 h
      cases he
      exact ih hrest

/-- The word stands nowhere before its first place. -/
theorem not_infix_of_splitAt? {before : Text} (hne : word ≠ [])
    (h : splitAt? word t = some (before, r)) : ¬ word <:+: before := by
  rintro ⟨l, m, rfl⟩
  rw [eq_append_of_splitAt? h, List.append_assoc, List.append_assoc] at h
  have hlength := (suffix_of_splitAt? h).length_le
  have hword := List.length_pos_iff.2 hne
  simp only [List.length_append] at hlength
  omega

theorem splitAt?_eq_none_iff {word t : Text} : splitAt? word t = none ↔ ¬ word <:+: t := by
  refine ⟨?_, ?_⟩
  · intro h
    induction t with
    | nil =>
      rintro ⟨a, r, hr⟩
      obtain ⟨rfl, rfl⟩ : a = [] ∧ word = [] := by simp_all
      cases h
    | cons c t ih =>
      rw [splitAt?] at h
      split at h
      · cases h
      · rename_i hlead
        rw [List.infix_cons_iff, not_or]
        refine ⟨?_, ih (Option.map_eq_none_iff.1 h)⟩
        rintro ⟨r, hr⟩
        rw [dropLead?_eq_some_iff.2 hr.symm] at hlead
        cases hlead
  · intro h
    cases hs : splitAt? word t with
    | none => rfl
    | some p =>
      refine absurd ?_ h
      exact ⟨p.1, p.2, by rw [eq_append_of_splitAt? hs, List.append_assoc]⟩

theorem contains_eq_false_iff {t word : Text} : t.contains word = false ↔ ¬ word <:+: t := by
  rw [contains, ← splitAt?_eq_none_iff, Option.isSome_eq_false_iff, Option.isNone_iff_eq_none]

/-- A text is split in one way at the first place of a code point. -/
theorem append_cons_inj {c : CodePoint} {a b x y : Text} (ha : c ∉ a) (hb : c ∉ b)
    (h : a ++ c :: x = b ++ c :: y) : a = b ∧ x = y := by
  induction a generalizing b with
  | nil =>
    cases b with
    | nil =>
      cases h
      exact ⟨rfl, rfl⟩
    | cons d b =>
      cases h
      exact absurd (List.mem_cons_self ..) hb
  | cons d a ih =>
    cases b with
    | nil =>
      cases h
      exact absurd (List.mem_cons_self ..) ha
    | cons e b =>
      obtain ⟨rfl, hrest⟩ : d = e ∧ a ++ c :: x = b ++ c :: y := List.cons.inj h
      obtain ⟨rfl, rfl⟩ := ih (fun hc => ha (List.mem_cons_of_mem _ hc))
        (fun hc => hb (List.mem_cons_of_mem _ hc)) hrest
      exact ⟨rfl, rfl⟩

/-- An infix without `c` stands on one side of it. -/
theorem infix_append_cons {x a b : Text} {c : CodePoint} (hc : c ∉ x) (h : x <:+: a ++ c :: b) :
    x <:+: a ∨ x <:+: b := by
  obtain ⟨l, r, h⟩ := h
  rcases List.append_eq_append_iff.1 h with ⟨k, ha, -⟩ | ⟨k, hk, hb⟩
  · exact .inl ⟨l, k, ha.symm⟩
  · cases k with
    | nil => exact .inl ⟨l, [], by rw [List.append_nil, hk, List.append_nil]⟩
    | cons d k =>
      obtain ⟨rfl, rfl⟩ : c = d ∧ b = k ++ r := List.cons.inj hb
      rcases List.append_eq_append_iff.1 hk with ⟨m, -, rfl⟩ | ⟨m, -, hm⟩
      · exact absurd (List.mem_append_right m (List.mem_cons_self ..)) hc
      · cases m with
        | nil =>
          rw [List.nil_append] at hm
          rw [← hm] at hc
          exact absurd (List.mem_cons_self ..) hc
        | cons e m =>
          obtain ⟨-, rfl⟩ : c = e ∧ k = m ++ x := List.cons.inj hm
          exact .inr ⟨m, r, rfl⟩

theorem infix_of_infix_cons {x b : Text} {c : CodePoint} (hc : c ∉ x) (h : x <:+: c :: b) :
    x <:+: b := by
  rcases infix_append_cons (a := []) hc h with h | h
  · rw [List.eq_nil_of_infix_nil h]
    exact List.nil_infix
  · exact h

/-- An infix stands behind what has no code point in common with it. -/
theorem infix_of_infix_append {x a b : Text} (ha : ∀ c ∈ a, c ∉ x) (h : x <:+: a ++ b) :
    x <:+: b := by
  induction a with
  | nil => exact h
  | cons c a ih =>
    obtain ⟨hc, ha⟩ := List.forall_mem_cons.1 ha
    exact ih ha (infix_of_infix_cons hc h)

/-- A separator that has nothing in common with a word keeps it inside the pieces. -/
theorem infix_join_iff {separator x : Text} {ts : List Text} (hx : x ≠ []) (hsep : separator ≠ [])
    (hapart : ∀ c ∈ separator, c ∉ x) :
    x <:+: join separator ts ↔ ∃ t ∈ ts, x <:+: t := by
  obtain ⟨c, rest, rfl⟩ := List.exists_cons_of_ne_nil hsep
  obtain ⟨hc, hrest⟩ := List.forall_mem_cons.1 hapart
  induction ts with
  | nil => simp [join, hx]
  | cons t ts ih =>
    cases ts with
    | nil => simp [join]
    | cons u ts =>
      have hsplit : join (c :: rest) (t :: u :: ts) =
          t ++ c :: (rest ++ join (c :: rest) (u :: ts)) := by simp [join]
      rw [hsplit, List.exists_mem_cons_iff, ← ih]
      constructor
      · intro h
        exact (infix_append_cons hc h).imp_right (infix_of_infix_append hrest)
      · rintro (h | h)
        · exact h.trans (List.prefix_append _ _).isInfix
        · refine h.trans (List.IsSuffix.isInfix ⟨t ++ c :: rest, ?_⟩)
          simp

theorem dropBlanks_suffix (t : Text) : dropBlanks t <:+ t := List.dropWhile_suffix _

theorem prefix_of_trimEnd (t : Text) : trimEnd t <+: t := by
  have h := (dropBlanks_suffix t.reverse).reverse
  rwa [List.reverse_reverse] at h

theorem infix_of_trim (t : Text) : trim t <:+: t :=
  (prefix_of_trimEnd _).isInfix.trans (dropBlanks_suffix t).isInfix

structure Tight (t : Text) : Prop where
  first : ∃ c u, t = c :: u ∧ ¬ c.isBlank
  last : ∃ u c, t = u ++ [c] ∧ ¬ c.isBlank

theorem Tight.not_isBlank {m : Text} (h : Tight m) : ¬ m.isBlank := by
  obtain ⟨c, u, rfl, hc⟩ := h.first
  exact fun hblank => hc (List.all_eq_true.1 hblank c (List.mem_cons_self ..))

theorem dropBlanks_append {c : CodePoint} (hc : ¬ c.isBlank) (p t : Text) :
    dropBlanks (p ++ c :: t) = dropBlanks p ++ c :: t := by
  rw [dropBlanks, dropBlanks, List.dropWhile_append]
  split
  · rename_i hp
    rw [List.isEmpty_iff.1 hp, List.dropWhile_cons_of_neg hc, List.nil_append]
  · rfl

theorem trimEnd_append {c : CodePoint} (hc : ¬ c.isBlank) (t q : Text) :
    trimEnd (t ++ c :: q) = t ++ c :: trimEnd q := by
  have hreverse : (t ++ c :: q).reverse = q.reverse ++ c :: t.reverse := by simp
  rw [trimEnd, hreverse, dropBlanks_append hc, trimEnd]
  simp

theorem Tight.trim_append {m : Text} (h : Tight m) (p q : Text) :
    trim (p ++ (m ++ q)) = dropBlanks p ++ (m ++ trimEnd q) := by
  obtain ⟨c, u, hm, hc⟩ := h.first
  obtain ⟨v, d, hm', hd⟩ := h.last
  have hfirst : dropBlanks (p ++ (m ++ q)) = dropBlanks p ++ (m ++ q) := by
    rw [hm, List.cons_append, dropBlanks_append hc]
  have hlast : dropBlanks p ++ (m ++ q) = dropBlanks p ++ v ++ d :: q := by
    rw [hm']
    simp
  rw [trim, hfirst, hlast, trimEnd_append hd, hm']
  simp

theorem Tight.trim {m : Text} (h : Tight m) : trim m = m := by
  have hm := h.trim_append [] []
  rw [List.append_nil, List.nil_append] at hm
  exact hm.trans (List.append_nil m)

end ReplySchema.Text
