import Mathlib.Data.List.TakeWhile
import ReplySchema.Proofs.Text.Search
import ReplySchema.Reply.Reasoning

/-!
Reasoning sections, said without a search: an opening tag with one of the names, anything, and a
closing tag that folds to the same name. What the search finds is a section at the start of the text,
and it finds one wherever one begins.
-/

namespace ReplySchema.Reply

variable {s r : Text}

def Spelling (word spelled : Text) : Prop :=
  List.Forall₂ (fun letter c => spellsLetter letter c) word spelled

def Names (opened : Text) : Prop := ∃ name ∈ reasoningNames, Spelling name opened

/-- A closing tag for the name that stands in the opening one. -/
inductive Closing (opened : Text) : Text → Prop
  | mk {before closed after : Text} (hb : ∀ c ∈ before, c.isBlank)
      (hc : closed.map foldCase = opened.map foldCase) (ha : ∀ c ∈ after, c.isBlank) :
      Closing opened ("</" ++ (before ++ (closed ++ (after ++ ">"))))

/-- The whole text is one section, whatever its body is. -/
inductive Section : Text → Prop
  | mk {opened tag : Text} (body : Text) (ho : Names opened) (hc : Closing opened tag) :
      Section ("<" ++ (opened ++ (">" ++ (body ++ tag))))

def HoldsSection (t : Text) : Prop := ∃ u, Section u ∧ u <:+: t

theorem HoldsSection.mono {t u : Text} (h : HoldsSection t) (htu : t <:+: u) : HoldsSection u := by
  obtain ⟨x, hx, hxt⟩ := h
  exact ⟨x, hx, hxt.trans htu⟩

theorem Section.mem {u : Text} (h : Section u) : ('<' : CodePoint) ∈ u := by
  obtain ⟨-, -, -⟩ := h
  exact List.mem_cons_self ..

theorem not_holdsSection {t : Text} (h : ('<' : CodePoint) ∉ t) : ¬ HoldsSection t := by
  rintro ⟨u, hu, hut⟩
  exact h (hut.subset hu.mem)

section Tags

theorem spelling?_eq_some_iff {word spelled : Text} :
    spelling? word s = some (spelled, r) ↔ Spelling word spelled ∧ s = spelled ++ r := by
  induction word generalizing s spelled with
  | nil =>
    constructor
    · intro h
      cases h
      exact ⟨.nil, rfl⟩
    · rintro ⟨hs, rfl⟩
      cases hs
      rfl
  | cons letter word ih =>
    cases s with
    | nil =>
      refine ⟨nofun, ?_⟩
      rintro ⟨hs, h⟩
      cases hs
      cases h
    | cons c s =>
      rw [spelling?]
      constructor
      · intro h
        split at h
        · rename_i hc
          obtain ⟨⟨x, y⟩, hx, he⟩ := Option.map_eq_some_iff.1 h
          cases he
          obtain ⟨hword, rfl⟩ := ih.1 hx
          exact ⟨.cons hc hword, rfl⟩
        · cases h
      · rintro ⟨hs, h⟩
        cases hs with
        | @cons _ d _ spelled hc hword =>
          obtain ⟨hd, hs⟩ : c = d ∧ s = spelled ++ r := List.cons.inj h
          rw [hd, if_pos hc, ih.2 ⟨hword, hs⟩]
          rfl

theorem openingOf?_eq_some_iff {name opened : Text} :
    openingOf? name s = some (opened, r) ↔
      Spelling name opened ∧ s = "<" ++ (opened ++ (">" ++ r)) := by
  unfold openingOf?
  constructor
  · intro h
    split at h
    · cases h
    · rename_i t ht
      rw [Text.dropLead?_eq_some_iff] at ht
      split at h
      · cases h
      · rename_i x u hx
        obtain ⟨hname, rfl⟩ := spelling?_eq_some_iff.1 hx
        obtain ⟨rest, hrest, he⟩ := Option.map_eq_some_iff.1 h
        cases he
        rw [Text.dropLead?_eq_some_iff] at hrest
        exact ⟨hname, by rw [ht, hrest]⟩
  · rintro ⟨hname, rfl⟩
    rw [Text.dropLead?_append]
    dsimp only
    rw [spelling?_eq_some_iff.2 ⟨hname, rfl⟩]
    dsimp only
    rw [Text.dropLead?_append, Option.map_some]

/-- What folding changes becomes a small ASCII letter. -/
theorem foldCase_cases (c : CodePoint) :
    (foldCase c).isAsciiLower ∨ foldCase c = c ∧ ¬ c.isAsciiUpper := by
  unfold foldCase
  split
  · exact .inl (by decide)
  · split
    · exact .inl (by decide)
    · unfold CodePoint.asciiLower
      split
      · rename_i hupper
        simp only [CodePoint.isAsciiUpper, Bool.and_eq_true, decide_eq_true_eq] at hupper
        have hlower : (CodePoint.ofNat (c.val + 32)).val = c.val + 32 :=
          Nat.mod_eq_of_lt (by omega)
        simp only [CodePoint.isAsciiLower, hlower, Bool.and_eq_true, decide_eq_true_eq]
        omega
      · rename_i hupper
        exact .inr ⟨rfl, hupper⟩

theorem foldCase_eq_self {c : CodePoint} (hupper : ¬ c.isAsciiUpper)
    (hc : c.val ≠ 0x212A ∧ c.val ≠ 0x130) : foldCase c = c := by
  rw [foldCase, if_neg hc.1, if_neg hc.2, CodePoint.asciiLower, if_neg hupper]

theorem foldCase_of_isBlank {c : CodePoint} (h : c.isBlank) : foldCase c = c := by
  refine foldCase_eq_self ?_ ?_
  · simp only [CodePoint.isBlank, CodePoint.isAsciiUpper, Bool.or_eq_true, Bool.and_eq_true,
      decide_eq_true_eq] at h ⊢
    omega
  · simp only [CodePoint.isBlank, Bool.or_eq_true, Bool.and_eq_true, decide_eq_true_eq] at h
    omega

theorem isBlank_of_foldCase {c : CodePoint} (h : (foldCase c).isBlank) : c.isBlank := by
  rcases foldCase_cases c with hlower | ⟨hsame, -⟩
  · simp only [CodePoint.isBlank, CodePoint.isAsciiLower, Bool.or_eq_true, Bool.and_eq_true,
      decide_eq_true_eq] at h hlower
    omega
  · rwa [hsame] at h

theorem reasoningNames_lower : ∀ name ∈ reasoningNames, name ≠ [] ∧ ∀ l ∈ name, l.isAsciiLower := by
  have h : reasoningNames.all fun name => !name.isEmpty && name.all CodePoint.isAsciiLower := rfl
  simpa using h

/-- What spells a small letter is neither a blank nor the end of a tag. -/
theorem plain_of_spellsLetter {letter c : CodePoint} (hl : letter.isAsciiLower)
    (h : spellsLetter letter c) : ¬ c.isBlank ∧ c ≠ '>' := by
  simp only [spellsLetter, Bool.or_eq_true, Bool.and_eq_true, decide_eq_true_eq] at h
  rcases h with (hc | ⟨-, hc⟩) | ⟨-, hc⟩
  · refine ⟨fun hblank => ?_, ?_⟩
    · rw [← hc, foldCase_of_isBlank hblank] at hl
      simp only [CodePoint.isBlank, CodePoint.isAsciiLower, Bool.or_eq_true, Bool.and_eq_true,
        decide_eq_true_eq] at hblank hl
      omega
    · rintro rfl
      rw [← hc] at hl
      exact absurd hl (by decide)
  · obtain rfl : c = ⟨0x17F, by decide⟩ := Fin.ext hc
    decide
  · obtain rfl : c = ⟨0x131, by decide⟩ := Fin.ext hc
    decide

theorem Names.ne_nil {opened : Text} (h : Names opened) : opened ≠ [] := by
  obtain ⟨name, hn, hs⟩ := h
  rintro rfl
  cases hs
  exact (reasoningNames_lower [] hn).1 rfl

theorem Names.exists_letter {opened : Text} (h : Names opened) :
    ∀ c ∈ opened, ∃ letter : CodePoint, letter.isAsciiLower ∧ spellsLetter letter c := by
  obtain ⟨name, hn, hs⟩ := h
  have hlower := (reasoningNames_lower name hn).2
  clear hn
  induction hs with
  | nil => exact nofun
  | cons hc _ ih =>
    obtain ⟨hl, hlower⟩ := List.forall_mem_cons.1 hlower
    exact List.forall_mem_cons.2 ⟨⟨_, hl, hc⟩, ih hlower⟩

theorem Names.plain {opened : Text} (h : Names opened) :
    ∀ c ∈ opened, ¬ c.isBlank ∧ c ≠ '>' := by
  intro c hc
  obtain ⟨letter, hl, hspelled⟩ := h.exists_letter c hc
  exact plain_of_spellsLetter hl hspelled

theorem opening?_eq_some_iff {opened : Text} :
    opening? s = some (opened, r) ↔ Names opened ∧ s = "<" ++ (opened ++ (">" ++ r)) := by
  constructor
  · intro h
    obtain ⟨name, hn, hname⟩ := List.exists_of_findSome?_eq_some h
    obtain ⟨hs, ht⟩ := openingOf?_eq_some_iff.1 hname
    exact ⟨⟨name, hn, hs⟩, ht⟩
  · rintro ⟨hopened, hs⟩
    obtain ⟨name, hn, hspelled⟩ := hopened
    have hsome : (opening? s).isSome := by
      rw [opening?, List.findSome?_isSome_iff]
      exact ⟨name, hn, by rw [openingOf?_eq_some_iff.2 ⟨hspelled, hs⟩]; rfl⟩
    obtain ⟨⟨other, rest⟩, ho⟩ := Option.isSome_iff_exists.1 hsome
    -- another name might open the text as well, but then the tags are the same
    obtain ⟨m, hm, hother⟩ := List.exists_of_findSome?_eq_some ho
    obtain ⟨hmspelled, hs'⟩ := openingOf?_eq_some_iff.1 hother
    have hfree (x : Text) (hx : Names x) : ('>' : CodePoint) ∉ x := fun hc => (hx.plain _ hc).2 rfl
    have heq := List.append_cancel_left (hs.symm.trans hs')
    obtain ⟨rfl, rfl⟩ := Text.append_cons_inj (hfree opened ⟨name, hn, hspelled⟩)
      (hfree other ⟨m, hm, hmspelled⟩) heq
    exact ho

theorem dropFolded?_eq_some_iff {spelled : Text} :
    dropFolded? spelled s = some r ↔
      ∃ u, u.map foldCase = spelled.map foldCase ∧ s = u ++ r := by
  induction spelled generalizing s with
  | nil =>
    constructor
    · intro h
      cases h
      exact ⟨[], rfl, rfl⟩
    · rintro ⟨u, hu, rfl⟩
      obtain rfl := List.map_eq_nil_iff.1 hu
      rfl
  | cons d spelled ih =>
    cases s with
    | nil =>
      refine ⟨nofun, ?_⟩
      rintro ⟨u, hu, h⟩
      obtain ⟨rfl, -⟩ := List.append_eq_nil_iff.1 h.symm
      cases hu
    | cons c s =>
      rw [dropFolded?]
      constructor
      · intro h
        split at h
        · rename_i hc
          obtain ⟨u, hu, rfl⟩ := ih.1 h
          exact ⟨c :: u, by rw [List.map_cons, List.map_cons, hc, hu], rfl⟩
        · cases h
      · rintro ⟨u, hu, h⟩
        cases u with
        | nil => cases hu
        | cons e u =>
          cases h
          obtain ⟨hc, hu⟩ := List.cons.inj hu
          rw [if_pos hc.symm]
          exact ih.2 ⟨u, hu, rfl⟩

theorem exists_blanks (t : Text) : ∃ b, (∀ c ∈ b, c.isBlank) ∧ t = b ++ t.dropBlanks := by
  refine ⟨t.takeWhile CodePoint.isBlank, List.all_eq_true.1 List.all_takeWhile, ?_⟩
  rw [Text.dropBlanks, List.takeWhile_append_dropWhile]

theorem dropBlanks_blanks {b : Text} (hb : ∀ c ∈ b, c.isBlank) {c : CodePoint} (hc : ¬ c.isBlank)
    (t : Text) : Text.dropBlanks (b ++ c :: t) = c :: t := by
  have hnil : Text.dropBlanks b = [] := List.dropWhile_eq_nil_iff.2 hb
  rw [Text.dropBlanks_append hc, hnil, List.nil_append]

theorem closing?_eq_some_iff {opened : Text} (ho : Names opened) :
    closing? opened s = some r ↔ ∃ tag, Closing opened tag ∧ s = tag ++ r := by
  unfold closing?
  constructor
  · intro h
    split at h
    · cases h
    · rename_i t ht
      rw [Text.dropLead?_eq_some_iff] at ht
      split at h
      · cases h
      · rename_i u hu
        obtain ⟨closed, hclosed, hdrop⟩ := dropFolded?_eq_some_iff.1 hu
        rw [Text.dropLead?_eq_some_iff] at h
        obtain ⟨before, hb, ht'⟩ := exists_blanks t
        obtain ⟨after, ha, hu'⟩ := exists_blanks u
        refine ⟨_, .mk hb hclosed ha, ?_⟩
        rw [ht, ht', hdrop, hu', h]
        simp only [List.append_assoc]
  · rintro ⟨_, ⟨hb, hclosed, ha⟩, rfl⟩
    rename_i before closed after
    -- the name is not empty and begins with no blank, for it folds to one of the names
    obtain ⟨c, u, rfl, hc⟩ : ∃ c u, closed = c :: u ∧ ¬ c.isBlank := by
      cases closed with
      | nil => exact absurd (List.map_eq_nil_iff.1 hclosed.symm) ho.ne_nil
      | cons c u =>
        refine ⟨c, u, rfl, fun hblank => ?_⟩
        have hmem : foldCase c ∈ opened.map foldCase := hclosed ▸ List.mem_cons_self ..
        obtain ⟨d, hd, hfold⟩ := List.mem_map.1 hmem
        rw [foldCase_of_isBlank hblank] at hfold
        exact (ho.plain d hd).1 (isBlank_of_foldCase (hfold ▸ hblank))
    simp only [List.append_assoc]
    rw [Text.dropLead?_append]
    dsimp only
    rw [List.cons_append, dropBlanks_blanks hb hc, ← List.cons_append,
      dropFolded?_eq_some_iff.2 ⟨c :: u, hclosed, rfl⟩]
    dsimp only
    have hmark : (">" : Text) ++ r = ('>' : CodePoint) :: r := rfl
    rw [hmark, dropBlanks_blanks ha (by decide)]
    exact Text.dropLead?_append ">" r

theorem Closing.eq_cons {opened tag : Text} (h : Closing opened tag) :
    ∃ c u, tag = c :: u := by
  obtain ⟨-, -, -⟩ := h
  exact ⟨_, _, rfl⟩

/-- What is found is the first closing tag: none stands in the text before it. -/
theorem closing_of_afterClosing? {opened : Text} (ho : Names opened)
    (h : afterClosing? opened s = some r) :
    ∃ body tag, Closing opened tag ∧ (∀ other, Closing opened other → ¬ other <:+: body) ∧
      s = body ++ (tag ++ r) := by
  induction s with
  | nil => cases h
  | cons c s ih =>
    rw [afterClosing?] at h
    split at h
    · rename_i hclosing
      cases h
      obtain ⟨tag, htag, hs⟩ := (closing?_eq_some_iff ho).1 hclosing
      refine ⟨[], tag, htag, fun other hother hin => ?_, hs⟩
      obtain ⟨d, u, rfl⟩ := hother.eq_cons
      exact absurd (List.eq_nil_of_infix_nil hin) (List.cons_ne_nil d u)
    · rename_i hnone
      obtain ⟨body, tag, htag, hbody, rfl⟩ := ih h
      refine ⟨c :: body, tag, htag, fun other hother hin => ?_, rfl⟩
      rcases List.infix_cons_iff.1 hin with ⟨k, hk⟩ | hin
      · have hsome := (closing?_eq_some_iff (r := k ++ (tag ++ r)) ho).2 ⟨other, hother, rfl⟩
        rw [← List.append_assoc, hk, List.cons_append, hnone] at hsome
        cases hsome
      · exact hbody other hother hin

theorem isSome_afterClosing? {opened tag : Text} (ho : Names opened) (h : Closing opened tag)
    (body r : Text) : (afterClosing? opened (body ++ (tag ++ r))).isSome := by
  have hclosing : closing? opened (tag ++ r) = some r :=
    (closing?_eq_some_iff ho).2 ⟨tag, h, rfl⟩
  induction body with
  | nil =>
    obtain ⟨c, u, rfl⟩ := h.eq_cons
    rw [List.nil_append, List.cons_append, afterClosing?]
    rw [List.cons_append] at hclosing
    rw [hclosing]
    rfl
  | cons c body ih =>
    rw [List.cons_append, afterClosing?]
    split
    · rfl
    · exact ih

/-- What is found is a section at the start of the text, and the text goes on behind it. -/
theorem section_of_section? (h : section? s = some r) : ∃ u, Section u ∧ s = u ++ r := by
  obtain ⟨⟨opened, t⟩, ho, hc⟩ := Option.bind_eq_some_iff.1 h
  obtain ⟨hopened, rfl⟩ := opening?_eq_some_iff.1 ho
  obtain ⟨body, tag, htag, -, rfl⟩ := closing_of_afterClosing? hopened hc
  refine ⟨_, .mk body hopened htag, ?_⟩
  simp only [List.append_assoc]

theorem Section.isSome_section? {u : Text} (h : Section u) (r : Text) :
    (section? (u ++ r)).isSome := by
  obtain ⟨body, ho, hc⟩ := h
  simp only [List.append_assoc]
  rw [section?, opening?_eq_some_iff.2 ⟨ho, rfl⟩]
  exact isSome_afterClosing? ho hc body r

theorem section?_eq_none_iff : section? s = none ↔ ∀ u, Section u → ¬ u <+: s := by
  constructor
  · rintro h u hu ⟨r, rfl⟩
    have hsome := hu.isSome_section? r
    rw [h] at hsome
    cases hsome
  · intro h
    cases hs : section? s with
    | none => rfl
    | some r =>
      obtain ⟨u, hu, hur⟩ := section_of_section? hs
      exact absurd ⟨r, hur.symm⟩ (h u hu)

end Tags

end ReplySchema.Reply
