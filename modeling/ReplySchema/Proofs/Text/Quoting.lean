import ReplySchema.Proofs.Text.Comments
import ReplySchema.Proofs.Text.Numeral
import ReplySchema.Text.Printable

/-!
Words in quoted text. Where each code point is written as itself or with code points that a word does
not hold, the word stands in what is written exactly if it stands in the text. The end of a comment is
such a word for quoted text, so quoting neither makes nor hides one.
-/

namespace ReplySchema

namespace Text

variable {word t : Text}

/-- `Shows f word`: a code point of the word is written as itself, and as a part of no other. -/
def Shows (f : CodePoint → Text) (word : Text) : Prop :=
  ∀ c, f c = [c] ∨ (f c ≠ [] ∧ c ∉ word ∧ ∀ d ∈ f c, d ∉ word)

theorem Shows.eq_singleton {f : CodePoint → Text} (hf : Shows f word) {c : CodePoint}
    (hc : c ∈ word) : f c = [c] :=
  (hf c).resolve_right fun h => h.2.1 hc

theorem Shows.flatMap_eq {f : CodePoint → Text} (hf : Shows f word) : word.flatMap f = word := by
  have hall : ∀ u : Text, u ⊆ word → u.flatMap f = u := by
    intro u hu
    induction u with
    | nil => rfl
    | cons c u ih =>
      obtain ⟨hc, hu⟩ := List.cons_subset.1 hu
      rw [List.flatMap_cons, hf.eq_singleton hc, ih hu, List.singleton_append]
  exact hall word (List.Subset.refl word)

/-- What is written begins with a word of such code points only if the text does. -/
theorem Shows.prefix_of_flatMap {f : CodePoint → Text} (hf : Shows f word) {u : Text}
    (hu : u ⊆ word) (h : u <+: t.flatMap f) : u <+: t := by
  induction u generalizing t with
  | nil => exact List.nil_prefix
  | cons d u ih =>
    obtain ⟨hd, hu⟩ := List.cons_subset.1 hu
    cases t with
    | nil => exact absurd (List.prefix_nil.1 h) (List.cons_ne_nil d u)
    | cons c t =>
      rw [List.flatMap_cons] at h
      rcases hf c with hc | ⟨hne, -, hapart⟩
      · rw [hc, List.singleton_append, List.cons_prefix_cons] at h
        exact List.cons_prefix_cons.2 ⟨h.1, ih hu h.2⟩
      · obtain ⟨e, rest, he⟩ := List.exists_cons_of_ne_nil hne
        rw [he, List.cons_append, List.cons_prefix_cons] at h
        have he' : e ∈ f c := by simp [he]
        exact absurd (h.1 ▸ hd) (hapart e he')

theorem Shows.infix_flatMap_iff {f : CodePoint → Text} (hf : Shows f word) :
    word <:+: t.flatMap f ↔ word <:+: t := by
  constructor
  · intro h
    induction t with
    | nil => exact h
    | cons c t ih =>
      rw [List.infix_cons_iff]
      rcases hf c with hc | ⟨-, -, hapart⟩
      · have hwhole : (c :: t).flatMap f = c :: t.flatMap f := by
          rw [List.flatMap_cons, hc, List.singleton_append]
        rw [hwhole, List.infix_cons_iff] at h
        refine h.imp (fun hstart => ?_) ih
        exact hf.prefix_of_flatMap (List.Subset.refl word) (hwhole ▸ hstart)
      · exact .inr (ih (infix_of_infix_append hapart h))
  · rintro ⟨a, b, rfl⟩
    rw [List.flatMap_append, List.flatMap_append, hf.flatMap_eq]
    exact ⟨a.flatMap f, b.flatMap f, rfl⟩

end Text

namespace Numeral

theorem hexValue?_of_hex {width n : Nat} : ∀ c ∈ hex width n, (hexValue? c).isSome := by
  induction width with
  | zero => simp [hex]
  | succ w ih => exact List.forall_mem_cons.2 ⟨by simp [hexValue?_hexDigit], ih⟩

end Numeral

namespace Quoted

theorem mark_eq (t : Text) : mark t = '"' ∨ mark t = '\'' := by
  unfold mark
  split
  · exact .inl rfl
  · exact .inr rfl

theorem mem_closing_iff {c : CodePoint} : c ∈ ("*/" : Text) ↔ c = '*' ∨ c = '/' := by
  have hspelled : ("*/" : Text) = [('*' : CodePoint), ('/' : CodePoint)] := rfl
  simp [hspelled]

/-- What is quoted by an escape, or written in one, does not end a comment. -/
theorem not_mem_closing {c : CodePoint}
    (h : c ∈ [('\\' : CodePoint), '\'', '"', 'n', 'r', 't', 'x', 'u', 'U', '\n', '\r', '\t']) :
    c ∉ ("*/" : Text) := by
  rw [mem_closing_iff]
  simp only [List.mem_cons, List.not_mem_nil, or_false] at h
  rcases h with rfl | rfl | rfl | rfl | rfl | rfl | rfl | rfl | rfl | rfl | rfl | rfl <;> decide

theorem not_mem_closing_of_hex {width n : Nat} {d : CodePoint} (h : d ∈ Numeral.hex width n) :
    d ∉ ("*/" : Text) := by
  rw [mem_closing_iff]
  have hsome := Numeral.hexValue?_of_hex d h
  rintro (rfl | rfl) <;> exact absurd hsome (by decide)

theorem not_mem_closing_of_hidden {c : CodePoint} (h : ¬ c.isPrintable) : c ∉ ("*/" : Text) := by
  rw [mem_closing_iff]
  rintro (rfl | rfl) <;> exact h (by decide)

theorem apart_of_escaped {c letter : CodePoint} {digits : Text} (hc : c ∉ ("*/" : Text))
    (hletter : letter ∉ ("*/" : Text)) (hdigits : ∀ d ∈ digits, d ∉ ("*/" : Text)) :
    ('\\' : CodePoint) :: letter :: digits ≠ [] ∧ c ∉ ("*/" : Text) ∧
      ∀ d ∈ ('\\' : CodePoint) :: letter :: digits, d ∉ ("*/" : Text) := by
  have hbackslash : ('\\' : CodePoint) ∉ ("*/" : Text) := not_mem_closing (by simp)
  refine ⟨List.cons_ne_nil _ _, hc, ?_⟩
  exact List.forall_mem_cons.2 ⟨hbackslash, List.forall_mem_cons.2 ⟨hletter, hdigits⟩⟩

/-- The marks that end a comment show as themselves, and no escape holds one. -/
theorem shows_escape {quote : CodePoint} (hq : quote = '"' ∨ quote = '\'') :
    Text.Shows (escape quote) "*/" := by
  intro c
  unfold escape
  split_ifs with hspecial hfeed hreturn htab hshown hbyte hword
  · have hc : c ∉ ("*/" : Text) := by
      apply not_mem_closing
      simp only [Bool.or_eq_true, decide_eq_true_eq] at hspecial
      rcases hspecial with rfl | rfl
      · rcases hq with rfl | rfl <;> simp
      · simp
    exact .inr (apart_of_escaped hc hc (by simp))
  · subst hfeed
    refine .inr (apart_of_escaped ?_ ?_ (by simp)) <;> exact not_mem_closing (by simp)
  · subst hreturn
    refine .inr (apart_of_escaped ?_ ?_ (by simp)) <;> exact not_mem_closing (by simp)
  · subst htab
    refine .inr (apart_of_escaped ?_ ?_ (by simp)) <;> exact not_mem_closing (by simp)
  · exact .inl rfl
  all_goals
    refine .inr (apart_of_escaped (not_mem_closing_of_hidden hshown) ?_ ?_)
    · exact not_mem_closing (by simp)
    · exact fun d hd => not_mem_closing_of_hex hd

/-- The end of a comment stands in a quoted text exactly if it stands in the text. -/
theorem closing_infix_encode_iff {t : Text} :
    ("*/" : Text) <:+: encode t ↔ ("*/" : Text) <:+: t := by
  have hmark : mark t ∉ ("*/" : Text) := by
    apply not_mem_closing
    rcases mark_eq t with h | h <;> simp [h]
  rw [← (shows_escape (mark_eq t)).infix_flatMap_iff (t := t), encode]
  constructor
  · intro h
    rcases Text.infix_append_cons hmark h with h | h
    · exact Text.infix_of_infix_cons hmark h
    · exact absurd (List.eq_nil_of_infix_nil h) (List.cons_ne_nil _ _)
  · intro h
    exact h.trans ⟨[mark t], [mark t], rfl⟩

end Quoted

end ReplySchema
