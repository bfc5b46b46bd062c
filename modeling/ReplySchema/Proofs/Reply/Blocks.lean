import ReplySchema.Proofs.Reply.Fenced
import ReplySchema.Proofs.Text.Comments

/-!
The shape of a block. Whatever a reply consists of, its block begins with a bracket and ends with the
closing one of that kind, and neither a section nor a fence with its end is left in it. In such a text
there is nothing more to find, so the block of a block is the block itself.
-/

namespace ReplySchema

namespace Reply

variable {t u b : Text}

section Fences

def HoldsFence (t : Text) : Prop := ∃ a b c, t = a ++ (fence ++ (b ++ (fence ++ c)))

theorem HoldsFence.mono (h : HoldsFence t) (htu : t <:+: u) : HoldsFence u := by
  obtain ⟨a, b, c, rfl⟩ := h
  obtain ⟨l, r, rfl⟩ := htu
  exact ⟨l ++ a, b, c ++ r, by simp only [List.append_assoc]⟩

theorem HoldsFence.fence_infix (h : HoldsFence t) : fence <:+: t := by
  obtain ⟨a, b, c, rfl⟩ := h
  exact ⟨a, b ++ (fence ++ c), List.append_assoc ..⟩

theorem not_holdsFence (h : ('\x60' : CodePoint) ∉ t) : ¬ HoldsFence t :=
  fun hf => no_fence_of_not_mem h hf.fence_infix

theorem not_mem_of_spelling {word spelled : Text} {c : CodePoint} (h : Spelling word spelled)
    (hc : ∀ letter ∈ word, ¬ spellsLetter letter c) : c ∉ spelled := by
  induction h with
  | nil => exact List.not_mem_nil
  | cons hd _ ih =>
    obtain ⟨hletter, hword⟩ := List.forall_mem_cons.1 hc
    rw [List.mem_cons, not_or]
    refine ⟨?_, ih hword⟩
    rintro rfl
    exact hletter hd

theorem not_spellsLetter_tick : ∀ letter ∈ ("json" : Text), ¬ spellsLetter letter '\x60' := by
  have h : ("json" : Text).all fun letter => !spellsLetter letter '\x60' := rfl
  intro letter hl
  simpa using List.all_eq_true.1 h letter hl

/-- A fence is not lost with the word for the language and the blanks behind it. -/
theorem fence_infix_inside (h : fence <:+: t) :
    fence <:+: Text.dropBlanks (((spelling? "json" t).map Prod.snd).getD t) := by
  have hword : fence <:+: ((spelling? "json" t).map Prod.snd).getD t := by
    cases hs : spelling? "json" t with
    | none => exact h
    | some p =>
      obtain ⟨spelled, u⟩ := p
      obtain ⟨hspelled, rfl⟩ := spelling?_eq_some_iff.1 hs
      refine Text.infix_of_infix_append (fun c hc hmem => ?_) h
      rw [mem_fence hmem] at hc
      exact not_mem_of_spelling hspelled not_spellsLetter_tick hc
  obtain ⟨blanks, hblanks, hsplit⟩ :=
    exists_blanks (((spelling? "json" t).map Prod.snd).getD t)
  rw [hsplit] at hword
  refine Text.infix_of_infix_append (fun c hc hmem => ?_) hword
  rw [mem_fence hmem] at hc
  exact absurd (hblanks _ hc) (by decide)

theorem fenced?_eq_none_iff : fenced? t = none ↔ ¬ HoldsFence t := by
  constructor
  · rintro h ⟨a, b, c, rfl⟩
    unfold fenced? at h
    split at h
    · rename_i hnone
      exact Text.splitAt?_eq_none_iff.1 hnone ⟨a, b ++ (fence ++ c), List.append_assoc ..⟩
    · rename_i before rest hsplit
      -- the first fence may begin before the one given, but the other one stands behind it as well
      have hbehind : b ++ (fence ++ c) <:+ rest := Text.suffix_of_splitAt? hsplit
      have hfence : fence <:+: b ++ (fence ++ c) := ⟨b, c, List.append_assoc ..⟩
      have hnone := Text.splitAt?_eq_none_iff.1 (Option.map_eq_none_iff.1 h)
      exact hnone (fence_infix_inside (hfence.trans hbehind.isInfix))
  · intro h
    cases hf : fenced? t with
    | none => rfl
    | some inside =>
      obtain ⟨⟨before, skipped, after, ht⟩, -⟩ := eq_append_of_fenced? hf
      refine absurd ⟨before, skipped ++ inside, after, ?_⟩ h
      rw [ht]
      simp only [List.append_assoc]

/-- No fence with its end stands where the brackets are looked for. -/
theorem not_holdsFence_searched (cleaned : Text) : ¬ HoldsFence (searched cleaned) := by
  unfold searched
  cases hf : fenced? cleaned with
  | none => exact fenced?_eq_none_iff.1 hf
  | some inside =>
    intro h
    exact (eq_append_of_fenced? hf).2 (h.fence_infix.trans (Text.infix_of_trim inside))

/-- Without fences and sections the block is looked for in the reply itself, but for blanks around. -/
theorem block_eq_bracketed (ht : ¬ t.isBlank) (hf : ¬ HoldsFence t) (hs : ¬ HoldsSection t) :
    block t = bracketed t.trim.trim := by
  have hsection := fun h : HoldsSection t.trim => hs (h.mono (Text.infix_of_trim t))
  have hinfix := (Text.infix_of_trim t.trim).trans (Text.infix_of_trim t)
  have hfence := fenced?_eq_none_iff.2 fun h : HoldsFence t.trim.trim => hf (h.mono hinfix)
  rw [block_of_not_blank ht, dropReasoning_eq_self_iff.2 hsection, searched, hfence]
  rfl

end Fences

section Shape

theorem exists_before_of_upToLast? {c : CodePoint} (h : upToLast? c t = some b) :
    ∃ a, b = a ++ [c] := by
  have hhead := List.head?_dropWhile_not (fun d => decide (d ≠ c)) t.reverse
  unfold upToLast? at h
  cases hdrop : t.reverse.dropWhile (fun d => decide (d ≠ c)) with
  | nil =>
    rw [hdrop] at h
    cases h
  | cons d r =>
    rw [hdrop] at h hhead
    cases h
    obtain rfl : d = c := by simpa using hhead
    exact ⟨r.reverse, List.reverse_cons ..⟩

theorem exists_inside_of_upToLast? {left right : CodePoint} (hne : left ≠ right)
    (h : upToLast? right (left :: t) = some b) : ∃ m, b = left :: (m ++ [right]) := by
  obtain ⟨r, hr⟩ := prefix_of_upToLast? h
  obtain ⟨a, rfl⟩ := exists_before_of_upToLast? h
  cases a with
  | nil => exact absurd (List.cons.inj hr).1.symm hne
  | cons c m =>
    obtain ⟨rfl, -⟩ := List.cons.inj hr
    exact ⟨m, rfl⟩

theorem isBracketed_of_bracketed (h : bracketed t = .ok b) : IsBracketed b := by
  unfold bracketed at h
  have hhead := List.head?_dropWhile_not (fun c : CodePoint => c ≠ '\x7b' && c ≠ '[') t
  split at h
  · cases h
  · rename_i c u hdrop
    rw [hdrop] at hhead
    have hopening : c = '\x7b' ∨ c = '[' := by simpa [or_iff_not_imp_left] using hhead
    split at h
    · rename_i x hx
      cases h
      rcases hopening with rfl | rfl
      · rw [if_pos rfl] at hx
        obtain ⟨m, rfl⟩ := exists_inside_of_upToLast? (by decide) hx
        exact ⟨m, .inl rfl⟩
      · rw [if_neg (by decide)] at hx
        obtain ⟨m, rfl⟩ := exists_inside_of_upToLast? (by decide) hx
        exact ⟨m, .inr rfl⟩
    · cases h

/--
A block begins with a bracket and ends with the closing one of that kind, it holds no section and no
fence with its end, and it is its own block.
-/
theorem block_idempotent (h : block t = .ok b) :
    IsBracketed b ∧ ¬ HoldsSection b ∧ ¬ HoldsFence b ∧ block b = .ok b := by
  have hbracketed := bracketed_of_block h
  have hshape := isBracketed_of_bracketed hbracketed
  have hsections : ¬ HoldsSection b := fun hs =>
    not_holdsSection_dropReasoning _ (hs.mono (infix_of_block h))
  have hfences : ¬ HoldsFence b := fun hf =>
    not_holdsFence_searched _ (hf.mono (infix_of_bracketed hbracketed))
  refine ⟨hshape, hsections, hfences, ?_⟩
  rw [block_eq_bracketed hshape.tight.not_isBlank hfences hsections, hshape.tight.trim,
    hshape.tight.trim]
  have hself : bracketed ([] ++ b) = .ok b := bracketed_append nofun hshape
  exact hself

/-- A section that only forms when another one is gone, in a fence that other fences follow. -/
def deepReply : Text :=
  "Sure \x60\x60\x60JSON \x7b\"a\": [<th<think>x</think>ink>y</THINK >1]\x7d ]\n\x60\x60\x60 or \x60\x60\x60[]"

def deepBlock : Text := "\x7b\"a\": [1]\x7d"

theorem block_deepBlock :
    block deepReply = .ok deepBlock ∧ IsBracketed deepBlock ∧ ¬ HoldsSection deepBlock ∧
      ¬ HoldsFence deepBlock ∧ block deepBlock = .ok deepBlock := by
  have hblock : block deepReply = .ok deepBlock := by decide +kernel
  exact ⟨hblock, block_idempotent hblock⟩

end Shape

end Reply

end ReplySchema
