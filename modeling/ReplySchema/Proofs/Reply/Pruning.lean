import Mathlib.Logic.Relation
import ReplySchema.Proofs.Reply.Folding

/-!
Taking sections out of a text. What is left of a text comes from it by taking out one section after
another, and no section is left, so exactly the texts without sections are left alone. A part of what
is left is what is left of a part of the text, and only the inside of that part has lost sections.
-/

namespace ReplySchema.Reply

variable {s : Text}

/-- One section, up to its first closing tag, is taken out of the text. -/
inductive Cut : Text → Text → Prop
  | mk {u : Text} (before after : Text) (h : Sealed u) :
      Cut (before ++ (u ++ after)) (before ++ after)

abbrev Pruned : Text → Text → Prop := Relation.ReflTransGen Cut

theorem Cut.cons {t u : Text} (h : Cut t u) (c : CodePoint) : Cut (c :: t) (c :: u) := by
  obtain ⟨before, after, hs⟩ := h
  exact .mk (c :: before) after hs

theorem Pruned.cons {t u : Text} (h : Pruned t u) (c : CodePoint) : Pruned (c :: t) (c :: u) :=
  h.lift (c :: ·) fun _ _ hcut => hcut.cons c

theorem Cut.sublist {t u : Text} (h : Cut t u) : u.Sublist t := by
  obtain ⟨before, after, -⟩ := h
  exact (List.Sublist.refl before).append (List.sublist_append_right _ after)

/-- What is left of a text stands in it, in the same order. -/
theorem Pruned.sublist {t u : Text} (h : Pruned t u) : u.Sublist t := by
  induction h with
  | refl => exact List.Sublist.refl t
  | tail _ hcut ih => exact hcut.sublist.trans ih

theorem pruned_dropSections (s : Text) : Pruned s (dropSections s) := by
  fun_induction dropSections s with
  | case1 => exact .refl
  | case2 c t rest hsection _ ih =>
    obtain ⟨u, hu, hs⟩ := section?_eq_some_iff.1 hsection
    rw [hs]
    exact .head (.mk [] rest hu) ih
  | case3 c t hsection ih => exact Pruned.cons ih c

theorem pruned_dropReasoning (s : Text) : Pruned s (dropReasoning s) := by
  fun_induction dropReasoning s with
  | case1 s hshort ih => exact (pruned_dropSections s).trans ih
  | case2 s => exact .refl

theorem Pruned.eq_of_not_holdsSection {t u : Text} (h : Pruned t u) (ht : ¬ HoldsSection t) :
    u = t := by
  cases h using Relation.ReflTransGen.head_induction_on with
  | refl => rfl
  | head hcut =>
    obtain ⟨before, after, hs⟩ := hcut
    exact absurd ⟨_, hs.toSection, before, after, List.append_assoc ..⟩ ht

/-- A pass over a text with a section in it takes something away. -/
theorem length_dropSections_lt (h : HoldsSection s) : (dropSections s).length < s.length := by
  have hle (t : Text) : (dropSections t).length ≤ t.length := (pruned_dropSections t).sublist.length_le
  fun_induction dropSections s with
  | case1 =>
    obtain ⟨u, hu, hin⟩ := h
    exact absurd (List.eq_nil_of_infix_nil hin) (List.ne_nil_of_mem hu.mem)
  | case2 c t rest hsection hshort =>
    exact Nat.lt_of_le_of_lt (hle rest) hshort
  | case3 c t hsection ih =>
    obtain ⟨u, hu, hin⟩ := h
    rcases List.infix_cons_iff.1 hin with hprefix | hin
    · exact absurd hprefix (section?_eq_none_iff.1 hsection u hu)
    · exact Nat.succ_lt_succ (ih ⟨u, hu, hin⟩)

theorem not_holdsSection_dropReasoning (s : Text) : ¬ HoldsSection (dropReasoning s) := by
  fun_induction dropReasoning s with
  | case1 s hshort ih => exact ih
  | case2 s hsame => exact fun h => hsame (length_dropSections_lt h)

theorem dropReasoning_eq_self_iff : dropReasoning s = s ↔ ¬ HoldsSection s :=
  ⟨fun h => h ▸ not_holdsSection_dropReasoning s,
    fun h => (pruned_dropReasoning s).eq_of_not_holdsSection h⟩

theorem dropSections_eq_self_iff : dropSections s = s ↔ ¬ HoldsSection s := by
  constructor
  · intro h hs
    have hshort := length_dropSections_lt hs
    rw [h] at hshort
    exact Nat.lt_irrefl _ hshort
  · exact (pruned_dropSections s).eq_of_not_holdsSection

/-- A pass that leaves no section is the only one that takes something away. -/
theorem dropReasoning_of_pass {t : Text} (h : dropSections s = t) (ht : ¬ HoldsSection t) :
    dropReasoning s = t := by
  rw [dropReasoning, h]
  split
  · exact dropReasoning_eq_self_iff.2 ht
  · rename_i hsame
    have hclean : ¬ HoldsSection s := fun hs => hsame (h ▸ length_dropSections_lt hs)
    rw [← h, dropSections_eq_self_iff.2 hclean]

theorem section?_eq_none_of_prefix {t u : Text} (h : t <+: u)
    (hu : section? u = none) : section? t = none := by
  rw [section?_eq_none_iff] at hu ⊢
  exact fun v hv hvt => hu v hv (hvt.trans h)

theorem dropSections_of_none {c : CodePoint} {t : Text} (h : section? (c :: t) = none) :
    dropSections (c :: t) = c :: dropSections t := by
  rw [dropSections]
  split
  · rename_i hsome
    rw [h] at hsome
    cases hsome
  · rfl

theorem dropSections_of_some {t rest : Text} (h : section? t = some rest) :
    dropSections t = dropSections rest := by
  cases t with
  | nil => cases h
  | cons c t =>
    rw [dropSections]
    split
    · rename_i hsome
      rw [h] at hsome
      cases hsome
      rfl
    · rename_i hnone
      rw [h] at hnone
      cases hnone

theorem dropSections_append {a : Text} (ha : ('<' : CodePoint) ∉ a) (t : Text) :
    dropSections (a ++ t) = a ++ dropSections t := by
  induction a with
  | nil => rfl
  | cons c a ih =>
    obtain ⟨hc, ha⟩ := not_or.1 (mt List.mem_cons.2 ha)
    have hnone : section? (c :: (a ++ t)) = none := by
      rw [section?_eq_none_iff]
      rintro _ ⟨body, -, -⟩ ⟨r, hr⟩
      exact hc (List.cons.inj hr).1
    rw [List.cons_append, dropSections_of_none hnone, ih ha, List.cons_append]

/-- A section without another one around it is taken out, and nothing else. -/
theorem dropReasoning_section {a u b : Text} (ha : ('<' : CodePoint) ∉ a)
    (hb : ('<' : CodePoint) ∉ b) (hu : section? (u ++ b) = some b) :
    dropReasoning (a ++ (u ++ b)) = a ++ b := by
  have hrest := dropSections_eq_self_iff.2 (not_holdsSection hb)
  have hpass : dropSections (a ++ (u ++ b)) = a ++ b := by
    rw [dropSections_append ha, dropSections_of_some hu, hrest]
  exact dropReasoning_of_pass hpass
    (not_holdsSection fun h => (List.mem_append.1 h).elim ha hb)

/-- One section is taken out of the inside of the text: something stands before it and behind it. -/
inductive InnerCut : Text → Text → Prop
  | mk {u before after : Text} (hb : before ≠ []) (ha : after ≠ []) (h : Sealed u) :
      InnerCut (before ++ (u ++ after)) (before ++ after)

abbrev Hollowed : Text → Text → Prop := Relation.ReflTransGen InnerCut

theorem Hollowed.cons {t u : Text} (h : Hollowed t u) (c : CodePoint) :
    Hollowed (c :: t) (c :: u) := by
  refine h.lift (c :: ·) ?_
  rintro _ _ ⟨-, ha, hs⟩
  exact .mk (List.cons_ne_nil c _) ha hs

/-- A start of what a pass leaves comes from a start of the text, and behind `c` from its inside. -/
theorem exists_start_of_pass {x : Text} (hx : x <+: dropSections s) :
    ∃ y, y <+: s ∧ dropSections y = x ∧ ∀ c : CodePoint, Hollowed (c :: y) (c :: x) := by
  fun_induction dropSections s generalizing x with
  | case1 =>
    obtain rfl := List.prefix_nil.1 hx
    exact ⟨[], List.nil_prefix, by rw [dropSections], fun _ => .refl⟩
  | case2 c t rest hsection _ ih =>
    by_cases hnil : x = []
    · subst hnil
      exact ⟨[], List.nil_prefix, by rw [dropSections], fun _ => .refl⟩
    · obtain ⟨y, ⟨r, rfl⟩, hpass, hinside⟩ := ih hx
      obtain ⟨u, hu, hs⟩ := section?_eq_some_iff.1 hsection
      have hy : y ≠ [] := by
        rintro rfl
        rw [dropSections] at hpass
        exact hnil hpass.symm
      refine ⟨u ++ y, ⟨r, by rw [hs, List.append_assoc]⟩, ?_, fun d => ?_⟩
      · rw [dropSections_of_some (hu.section?_append y), hpass]
      · exact .head (.mk (List.cons_ne_nil d []) hy hu) (hinside d)
  | case3 c t hsection ih =>
    rcases List.prefix_cons_iff.1 hx with rfl | ⟨x, rfl, hrest⟩
    · exact ⟨[], List.nil_prefix, by rw [dropSections], fun _ => .refl⟩
    · obtain ⟨y, hy, hpass, hinside⟩ := ih hrest
      have hstart : c :: y <+: c :: t := (List.prefix_cons_inj c).2 hy
      have hnone := section?_eq_none_of_prefix hstart hsection
      exact ⟨c :: y, hstart, by rw [dropSections_of_none hnone, hpass], fun d => (hinside c).cons d⟩

/-- A part of what a pass leaves is what it leaves of a part of the text, whose ends it keeps. -/
theorem exists_part_of_pass {x : Text} (hx : x <:+: dropSections s) :
    ∃ y, y <:+: s ∧ dropSections y = x ∧ Hollowed y x := by
  fun_induction dropSections s with
  | case1 =>
    obtain rfl := List.eq_nil_of_infix_nil hx
    exact ⟨[], List.infix_rfl, by rw [dropSections], .refl⟩
  | case2 c t rest hsection _ ih =>
    obtain ⟨y, hy, hpart⟩ := ih hx
    obtain ⟨u, -, hs⟩ := section?_eq_some_iff.1 hsection
    exact ⟨y, hs ▸ hy.trans (List.suffix_append u rest).isInfix, hpart⟩
  | case3 c t hsection ih =>
    rcases List.infix_cons_iff.1 hx with hx | hx
    · rcases List.prefix_cons_iff.1 hx with rfl | ⟨x, rfl, hrest⟩
      · exact ⟨[], List.nil_infix, by rw [dropSections], .refl⟩
      · obtain ⟨y, hy, hpass, hinside⟩ := exists_start_of_pass hrest
        have hstart : c :: y <+: c :: t := (List.prefix_cons_inj c).2 hy
        have hnone := section?_eq_none_of_prefix hstart hsection
        exact ⟨c :: y, hstart.isInfix, by rw [dropSections_of_none hnone, hpass], hinside c⟩
    · obtain ⟨y, hy, hpart⟩ := ih hx
      exact ⟨y, hy.trans (List.suffix_cons c t).isInfix, hpart⟩

theorem dropReasoning_dropSections (s : Text) :
    dropReasoning (dropSections s) = dropReasoning s := by
  by_cases hs : HoldsSection s
  · conv_rhs => rw [dropReasoning, if_pos (length_dropSections_lt hs)]
  · rw [dropSections_eq_self_iff.2 hs]

/-- A part of what is left is what removal leaves of a part of the text, whose ends it keeps. -/
theorem exists_part_of_removal {x : Text} (hx : x <:+: dropReasoning s) :
    ∃ y, y <:+: s ∧ dropReasoning y = x ∧ Hollowed y x := by
  fun_induction dropReasoning s with
  | case1 s _ ih =>
    obtain ⟨z, hz, hremoval, hzx⟩ := ih hx
    obtain ⟨y, hy, hpass, hyz⟩ := exists_part_of_pass hz
    refine ⟨y, hy, ?_, hyz.trans hzx⟩
    rw [← dropReasoning_dropSections, hpass, hremoval]
  | case2 s hsame =>
    have hclean : ¬ HoldsSection x := fun h => hsame (length_dropSections_lt (h.mono hx))
    exact ⟨x, hx, dropReasoning_eq_self_iff.2 hclean, .refl⟩

end ReplySchema.Reply
