import ReplySchema.Proofs.Reply.Pruning
import ReplySchema.Proofs.Results
import ReplySchema.Reply.Parse

/-!
What is taken out of a reply, and when. The block of a reply is a part of it, but for the reasoning
sections inside of it; and parsing tries the block only after a parse that complained about the JSON
of the reply, whoever raised that complaint.
-/

namespace ReplySchema.Reply

section Parts

variable {t b : Text}

theorem prefix_of_upToLast? {c : CodePoint} (h : upToLast? c t = some b) : b <+: t := by
  unfold upToLast? at h
  have hsuffix := List.dropWhile_suffix (fun d => decide (d ≠ c)) (l := t.reverse)
  split at h
  · cases h
  · cases h
    rename_i hdrop
    have hreverse := hsuffix.reverse
    rwa [List.reverse_reverse] at hreverse

theorem infix_of_bracketed (h : bracketed t = .ok b) : b <:+: t := by
  unfold bracketed at h
  split at h
  · cases h
  · rename_i c u hdrop
    split at h
    · rename_i x hx
      cases h
      have hsuffix : c :: u <:+ t := hdrop ▸ List.dropWhile_suffix _
      exact (prefix_of_upToLast? hx).isInfix.trans hsuffix.isInfix
    · cases h

/-- What is in the first fence: the next fence closes it, and none stands inside. -/
theorem eq_append_of_fenced? (h : fenced? t = some b) :
    (∃ before skipped after, t = before ++ (fence ++ (skipped ++ (b ++ (fence ++ after))))) ∧
      ¬ fence <:+: b := by
  unfold fenced? at h
  split at h
  · cases h
  · rename_i before rest hsplit
    have hinside : ((spelling? "json" rest).map Prod.snd).getD rest <:+ rest := by
      cases hs : spelling? "json" rest with
      | none => exact List.suffix_rfl
      | some p =>
        obtain ⟨word, u⟩ := p
        rw [(spelling?_eq_some_iff.1 hs).2]
        exact List.suffix_append word u
    obtain ⟨⟨inside, after⟩, hclosing, he⟩ := Option.map_eq_some_iff.1 h
    cases he
    obtain ⟨skipped, hskipped⟩ := (Text.dropBlanks_suffix _).trans hinside
    refine ⟨⟨before, skipped, after, ?_⟩, Text.not_infix_of_splitAt? (by decide) hclosing⟩
    rw [Text.eq_append_of_splitAt? hsplit, ← Text.eq_append_of_splitAt? hclosing, hskipped]

theorem infix_of_fenced? (h : fenced? t = some b) : b <:+: t := by
  obtain ⟨⟨before, skipped, after, rfl⟩, -⟩ := eq_append_of_fenced? h
  exact ⟨before ++ (fence ++ skipped), fence ++ after, by simp only [List.append_assoc]⟩

/-- Where the brackets of the block are looked for: in the first fence, or else everywhere. -/
def searched (cleaned : Text) : Text := ((fenced? cleaned).map Text.trim).getD cleaned

theorem infix_of_searched (cleaned : Text) : searched cleaned <:+: cleaned := by
  unfold searched
  cases hf : fenced? cleaned with
  | none => exact List.infix_rfl
  | some inside => exact (Text.infix_of_trim inside).trans (infix_of_fenced? hf)

theorem block_of_not_blank (h : ¬ t.isBlank) :
    block t = bracketed (searched (dropReasoning t.trim).trim) := by
  rw [block, if_neg h]
  rfl

theorem bracketed_of_block (h : block t = .ok b) :
    bracketed (searched (dropReasoning t.trim).trim) = .ok b := by
  by_cases hblank : t.isBlank
  · rw [block, if_pos hblank] at h
    cases h
  · rwa [block_of_not_blank hblank] at h

/-- A block is found in what is left of the reply without its reasoning sections. -/
theorem infix_of_block (h : block t = .ok b) : b <:+: dropReasoning t.trim :=
  (infix_of_bracketed (bracketed_of_block h)).trans
    ((infix_of_searched _).trans (Text.infix_of_trim _))

/-- The block is what removal leaves of a part of the reply, whose ends it keeps. -/
theorem exists_part_of_block (h : block t = .ok b) :
    ∃ part, part <:+: t ∧ dropReasoning part = b ∧ Hollowed part b := by
  obtain ⟨part, hpart, hremoval⟩ := exists_part_of_removal (infix_of_block h)
  exact ⟨part, hpart.trans (Text.infix_of_trim _), hremoval⟩

def IsBracketed (t : Text) : Prop :=
  ∃ m, t = ('\x7b' : CodePoint) :: (m ++ [('\x7d' : CodePoint)]) ∨
    t = ('[' : CodePoint) :: (m ++ [(']' : CodePoint)])

/-- The text is cut behind the last place of a code point. -/
theorem upToLast?_append_cons {c : CodePoint} {after : Text} (h : c ∉ after) (before : Text) :
    upToLast? c (before ++ c :: after) = some (before ++ [c]) := by
  have hreverse : (before ++ c :: after).reverse = after.reverse ++ c :: before.reverse := by simp
  have hafter : after.reverse.dropWhile (fun d => decide (d ≠ c)) = [] := by
    rw [List.dropWhile_eq_nil_iff]
    intro d hd
    have hne : d ≠ c := fun he => h (he ▸ List.mem_reverse.1 hd)
    exact decide_eq_true hne
  rw [upToLast?, hreverse, List.dropWhile_append, hafter, List.dropWhile_cons_of_neg (by simp)]
  simp

inductive Brackets : CodePoint → CodePoint → Prop
  | list : Brackets '[' ']'
  | object : Brackets '\x7b' '\x7d'

/-- Behind a text without opening brackets the first one decides which closing bracket ends the block. -/
theorem bracketed_append_cons {before u : Text} {left right : CodePoint}
    (hb : ∀ c ∈ before, c ≠ ('\x7b' : CodePoint) ∧ c ≠ ('[' : CodePoint))
    (h : Brackets left right) (hu : upToLast? right (left :: t) = some u) :
    bracketed (before ++ left :: t) = .ok u := by
  have hbefore : before.dropWhile (fun c : CodePoint => c ≠ '\x7b' && c ≠ '[') = [] := by
    rw [List.dropWhile_eq_nil_iff]
    intro c hc
    simpa using hb c hc
  rw [bracketed, List.dropWhile_append, hbefore]
  cases h <;> simp +decide [hu]

/-- Behind a text without brackets a bracketed text is found as a whole. -/
theorem bracketed_append {before : Text}
    (hb : ∀ c ∈ before, c ≠ ('\x7b' : CodePoint) ∧ c ≠ ('[' : CodePoint)) (ht : IsBracketed t) :
    bracketed (before ++ t) = .ok t := by
  obtain ⟨m, rfl | rfl⟩ := ht
  · exact bracketed_append_cons hb .object (upToLast?_append_cons List.not_mem_nil ('\x7b' :: m))
  · exact bracketed_append_cons hb .list (upToLast?_append_cons List.not_mem_nil ('[' :: m))

theorem IsBracketed.tight (h : IsBracketed t) : Text.Tight t := by
  obtain ⟨m, rfl | rfl⟩ := h
  · exact ⟨⟨_, _, rfl, by decide⟩, ⟨('\x7b' : CodePoint) :: m, '\x7d', rfl, by decide⟩⟩
  · exact ⟨⟨_, _, rfl, by decide⟩, ⟨('[' : CodePoint) :: m, ']', rfl, by decide⟩⟩

end Parts

section Parsing

variable {st : Json.Strictness} {repair : Bool} {s : Schema} {source : Json.Source}

def retried? : (repair : Bool) → (source : Json.Source) → Option Text
  | true, .text reply => (block reply).toOption
  | _, _ => none

theorem parse_document {v : Value} (h : Json.decode st source = .ok v) (s : Schema) :
    (s.parse st source).result = (s.check st.nesting v).result := by
  rw [Schema.parse, h]

theorem parse_of_ok {v : Value} (h : (s.parse st source).result = .ok v) :
    (parse st repair s source).result = .ok (v, []) := by
  rw [parse, h]

theorem parse_of_other {e : Raised} (h : (s.parse st source).result = .error e)
    (he : ∀ d, e ≠ .failure (.invalidJson d)) :
    (parse st repair s source).result = .error e := by
  rw [parse, h]
  split
  · rename_i hok
    cases hok
  · rename_i d hd
    exact absurd (Except.error.inj hd) (he d)
  · rename_i hother
    cases hother
    rfl

/-- A complaint about the JSON of the reply sends the block of the reply through the same schema. -/
theorem parse_of_invalidJson {d : Text}
    (h : (s.parse st source).result = .error (.failure (.invalidJson d))) :
    (parse st repair s source).result =
      match retried? repair source with
      | some b => (s.parse st (.text b)).result.map fun v => (v, [.repaired])
      | none => .error (.failure (.invalidJson d)) := by
  rw [parse, h]
  dsimp only
  cases repair with
  | false => rfl
  | true =>
    cases source with
    | text reply =>
      rw [recover, retried?]
      cases block reply with
      | error e => rfl
      | ok b =>
        dsimp only [Except.toOption]
        rw [parseBlock]
        cases (s.parse st (.text b)).result with
        | error e => rfl
        | ok v => rfl
    | bytes bs => rfl
    | other className => rfl

/-- A result comes from the reply itself, or with the warning from its block. -/
theorem parse_ok_cases {v : Value} {ws : List Warning}
    (h : (parse st repair s source).result = .ok (v, ws)) :
    (ws = [] ∧ (s.parse st source).result = .ok v) ∨
      ∃ b, ws = [.repaired] ∧ retried? repair source = some b ∧
        (s.parse st (.text b)).result = .ok v := by
  cases hrun : (s.parse st source).result with
  | ok w =>
    rw [parse_of_ok hrun] at h
    cases h
    exact .inl ⟨rfl, rfl⟩
  | error e =>
    by_cases he : ∃ d, e = .failure (.invalidJson d)
    · obtain ⟨d, rfl⟩ := he
      rw [parse_of_invalidJson hrun] at h
      cases hb : retried? repair source with
      | none =>
        rw [hb] at h
        cases h
      | some b =>
        rw [hb] at h
        obtain ⟨w, hw, hwarned⟩ := map_ok h
        cases hwarned
        exact .inr ⟨b, rfl, rfl, hw⟩
    · rw [parse_of_other hrun fun d hd => he ⟨d, hd⟩] at h
      cases h

/-- A result without a warning leaves one record, that of the whole stage. -/
theorem records_of_ok {v : Value} (h : (parse st repair s source).result = .ok (v, [])) :
    (parse st repair s source).records = stageRecord s false none := by
  rcases parse_ok_cases h with ⟨-, hrun⟩ | ⟨b, hwarned, -⟩
  · rw [parse, hrun]
  · cases hwarned

end Parsing

end ReplySchema.Reply
