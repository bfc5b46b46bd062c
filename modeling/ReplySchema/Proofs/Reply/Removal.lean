import ReplySchema.Proofs.Reply.Pruning

/-!
What the removal of sections comes to. Passes follow one another until one takes nothing away, and
since each of them takes out whole sections, there are few. Sections that stand in a text one after
another are taken out exactly: the pattern begins at the first mark `<`, and it goes on to the first
closing tag of the name that was opened, whatever other tags stand before it.
-/

namespace ReplySchema.Reply

variable {s t y z : Text} {n m : Nat}

section Passes

/-- From `s` on, `n` passes that take something away lead to `y`, and one more leaves it as it is. -/
inductive Passes : Nat → Text → Text → Prop
  | stop {s : Text} (h : dropSections s = s) : Passes 0 s s
  | again {n : Nat} {s y : Text} (h : dropSections s ≠ s) (hrest : Passes n (dropSections s) y) :
      Passes (n + 1) s y

theorem Passes.unique (h : Passes n s y) (h' : Passes m s z) : m = n ∧ z = y := by
  induction h generalizing m with
  | stop h =>
    cases h' with
    | stop => exact ⟨rfl, rfl⟩
    | again hne => exact absurd h hne
  | again h _ ih =>
    cases h' with
    | stop hsame => exact absurd hsame h
    | again _ hrest =>
      obtain ⟨rfl, rfl⟩ := ih hrest
      exact ⟨rfl, rfl⟩

theorem reasoningNames_length : ∀ name ∈ reasoningNames, 5 ≤ name.length := by
  have h : reasoningNames.all fun name => Nat.ble 5 name.length := rfl
  simpa using h

theorem Names.length_ge {opened : Text} (h : Names opened) : 5 ≤ opened.length := by
  obtain ⟨name, hn, hs⟩ := h
  rw [← hs.length_eq]
  exact reasoningNames_length name hn

theorem Section.length_ge {u : Text} (h : Section u) : 15 ≤ u.length := by
  obtain ⟨body, ho, ⟨-, hc, -⟩⟩ := h
  have hopened := ho.length_ge
  have hclosed := congrArg List.length hc
  have hmarks : ("<" : Text).length = 1 ∧ ("</" : Text).length = 2 ∧ (">" : Text).length = 1 :=
    ⟨rfl, rfl, rfl⟩
  simp only [List.length_append, List.length_map] at hclosed ⊢
  omega

/-- Something was taken out, so at least one whole section was. -/
theorem Pruned.length_of_ne (h : Pruned s t) (hne : t ≠ s) : t.length + 15 ≤ s.length := by
  cases h using Relation.ReflTransGen.head_induction_on with
  | refl => exact absurd rfl hne
  | head hcut hrest =>
    obtain ⟨before, after, hs⟩ := hcut
    have hlength := hs.toSection.length_ge
    have hle := (Pruned.sublist hrest).length_le
    simp only [List.length_append] at hle ⊢
    omega

theorem exists_passes (s : Text) :
    ∃ n, Passes n s (dropReasoning s) ∧ 15 * n + (dropReasoning s).length ≤ s.length := by
  fun_induction dropReasoning s with
  | case1 s hshort ih =>
    obtain ⟨n, hpasses, hbound⟩ := ih
    have hne : dropSections s ≠ s := fun h => by simp [h] at hshort
    have hlength := (pruned_dropSections s).length_of_ne hne
    exact ⟨n + 1, .again hne hpasses, by omega⟩
  | case2 s hsame =>
    have hclean : ¬ HoldsSection s := fun h => hsame (length_dropSections_lt h)
    exact ⟨0, .stop (dropSections_eq_self_iff.2 hclean), by omega⟩

end Passes

section Sections

variable {pieces : List (Text × Text)}

/-- One pass takes out the sections between the pieces, and nothing else. -/
theorem dropSections_pieces (ht : ('<' : CodePoint) ∉ t)
    (hpieces : ∀ p ∈ pieces, Sealed p.1 ∧ ('<' : CodePoint) ∉ p.2) :
    dropSections (t ++ pieces.flatMap fun p => p.1 ++ p.2) = t ++ pieces.flatMap Prod.snd := by
  induction pieces generalizing t with
  | nil =>
    rw [List.flatMap_nil, List.flatMap_nil, List.append_nil]
    exact dropSections_eq_self_iff.2 (not_holdsSection ht)
  | cons p pieces ih =>
    obtain ⟨⟨hsealed, hp⟩, hpieces⟩ := List.forall_mem_cons.1 hpieces
    rw [List.flatMap_cons, List.append_assoc, dropSections_append ht,
      dropSections_of_some (hsealed.section?_append _), ih hp hpieces, List.flatMap_cons]

theorem dropReasoning_pieces (ht : ('<' : CodePoint) ∉ t)
    (hpieces : ∀ p ∈ pieces, Sealed p.1 ∧ ('<' : CodePoint) ∉ p.2) :
    dropReasoning (t ++ pieces.flatMap fun p => p.1 ++ p.2) = t ++ pieces.flatMap Prod.snd := by
  have hmark : ('<' : CodePoint) ∉ t ++ pieces.flatMap Prod.snd := by
    intro hmem
    rcases List.mem_append.1 hmem with hmem | hmem
    · exact ht hmem
    · obtain ⟨p, hp, hmem⟩ := List.mem_flatMap.1 hmem
      exact (hpieces p hp).2 hmem
  exact dropReasoning_of_pass (dropSections_pieces ht hpieces) (not_holdsSection hmark)

/--
Removal comes to an end and is exact. Its passes lead to one result, after no more of them than a
fifteenth of the length; the result stands in the text in the same order, the pattern of a section has
no match in it, and just the texts without a match are left as they are. Where sections stand one after
another between pieces without the mark `<`, each with a body that holds no closing tag of its name,
what is left are the pieces.
-/
theorem dropReasoning_exact (x : Text) :
    (∃ n, 15 * n ≤ x.length ∧ ∀ m y, Passes m x y ↔ m = n ∧ y = dropReasoning x) ∧
      (dropReasoning x).Sublist x ∧ ¬ HasMatch (dropReasoning x) ∧
      dropReasoning (dropReasoning x) = dropReasoning x ∧
      (dropReasoning x = x ↔ ¬ HasMatch x) ∧
      ∀ (t : Text) (pieces : List (Text × Text)), ('<' : CodePoint) ∉ t →
        (∀ p ∈ pieces, Sealed p.1 ∧ ('<' : CodePoint) ∉ p.2) →
        x = t ++ (pieces.flatMap fun p => p.1 ++ p.2) →
          dropReasoning x = t ++ pieces.flatMap Prod.snd := by
  have hclean := not_holdsSection_dropReasoning x
  refine ⟨?_, (pruned_dropReasoning x).sublist, mt hasMatch_iff.1 hclean,
    dropReasoning_eq_self_iff.2 hclean, ?_, ?_⟩
  · obtain ⟨n, hpasses, hbound⟩ := exists_passes x
    refine ⟨n, by omega, fun m y => ⟨hpasses.unique, ?_⟩⟩
    rintro ⟨rfl, rfl⟩
    exact hpasses
  · rw [hasMatch_iff, dropReasoning_eq_self_iff]
  · rintro t pieces ht hpieces rfl
    exact dropReasoning_pieces ht hpieces

def knottedPieces : List (Text × Text) := [
  ("<thin\u212A>a </thinking> <thought>\x7b\x60\x60\x60</think x></ THINK\n>", ","),
  ("<ThinKing></think></Thin\u212Aing >", "2]")]

theorem dropReasoning_knottedPieces :
    (∀ p ∈ knottedPieces, Sealed p.1 ∧ ('<' : CodePoint) ∉ p.2) ∧
      dropReasoning ("[1" ++ knottedPieces.flatMap fun p => p.1 ++ p.2) = "[1,2]" := by
  have hsections : ∀ p ∈ knottedPieces, section? p.1 = some [] ∧ ('<' : CodePoint) ∉ p.2 := by
    decide +kernel
  have hpieces : ∀ p ∈ knottedPieces, Sealed p.1 ∧ ('<' : CodePoint) ∉ p.2 := by
    intro p hp
    obtain ⟨hsection, hmark⟩ := hsections p hp
    obtain ⟨u, hu, hp⟩ := section?_eq_some_iff.1 hsection
    rw [List.append_nil] at hp
    exact ⟨hp ▸ hu, hmark⟩
  obtain ⟨-, -, -, -, -, hexact⟩ := dropReasoning_exact
    ("[1" ++ knottedPieces.flatMap fun p => p.1 ++ p.2)
  exact ⟨hpieces, hexact "[1" knottedPieces (by decide) hpieces rfl⟩

end Sections

end ReplySchema.Reply
