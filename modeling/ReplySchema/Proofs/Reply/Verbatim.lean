import ReplySchema.Proofs.Reply.Fenced
import ReplySchema.Proofs.Schema.Passing

/-!
What repair leaves of a reply. The text that is parsed in place of a reply is what the removal of
reasoning sections leaves of one part of it, whose two ends are kept; a part without sections is
parsed letter by letter. Every string and every key of the result is spelled in the parsed text, and
in the reply but for sections that stood inside of its spelling.
-/

namespace ReplySchema

namespace Schema

/-- A check keeps no string and no key that the value does not have. -/
theorem speaks_of_project {s : Schema} {v : Value} {x : Text} (h : (s.project v).Speaks x) :
    v.Speaks x := by
  induction s using nodes generalizing v with
  | primitive m k =>
    rw [project] at h
    exact h
  | array m item ih =>
    cases v with
    | array vs =>
      rw [project] at h
      obtain ⟨w, hw, hx⟩ := Value.speaks_array_iff.1 h
      obtain ⟨u, hu, rfl⟩ := List.mem_map.1 hw
      exact Value.speaks_array_iff.2 ⟨u, hu, ih hx⟩
    | _ =>
      rw [project] at h
      · exact h
      · rintro _ ⟨⟩
  | object m fields ih =>
    rw [project] at h
    cases hv : v.members? with
    | some ms =>
      rw [hv] at h
      refine Value.speaks_of_members hv ?_
      rcases Value.speaks_object_iff.1 h with hkey | ⟨e, he, hx⟩
      · obtain ⟨e, he, rfl⟩ := List.mem_map.1 hkey
        obtain ⟨child, u, -, hu, -⟩ := mem_projectFields he
        exact .inl (List.mem_map.2 ⟨(e.1, u), find?_mem hu, rfl⟩)
      · obtain ⟨child, u, hc, hu, hp⟩ := mem_projectFields he
        rw [hp] at hx
        exact .inr ⟨(e.1, u), find?_mem hu, ih _ hc hx⟩
    | none =>
      rw [hv] at h
      exact h

theorem speaks_of_check {limit : Nat} {s : Schema} {v r : Value} {x : Text}
    (h : (s.check limit v).result = .ok r) (hx : r.Speaks x) : v.Speaks x := by
  rw [check_result] at h
  obtain ⟨-, rfl⟩ := outcome_eq_ok_iff.1 h
  exact speaks_of_project hx

end Schema

namespace Reply

variable {st : Json.Strictness} {s : Schema} {raw : Text} {v : Value}

/-- A result with the warning is the result of parsing the block. -/
theorem exists_block_of_repaired {repair : Bool} {source : Json.Source}
    (h : (parse st repair s source).result = .ok (v, [.repaired])) :
    ∃ b, retried? repair source = some b ∧ (s.parse st (.text b)).result = .ok v := by
  rcases parse_ok_cases h with ⟨hnil, -⟩ | ⟨b, -, hb, hr⟩
  · cases hnil
  · exact ⟨b, hb, hr⟩

/--
A repaired result is what the check keeps of one part of the reply, from whose inside the reasoning
sections were taken out, each up to its first closing tag, and nothing else; a part in which the
pattern of a section has no match is left as it is. Each string and each key of the result is spelled
in the text that was parsed, by a literal that came in the same way from a piece of this part.
-/
theorem repaired_value_spelled (h : (parse st true s (.text raw)).result = .ok (v, [.repaired])) :
    ∃ b w part, block raw = .ok b ∧ Json.decode st (.text b) = .ok w ∧
      (s.check st.nesting w).result = .ok v ∧ part <:+: raw ∧ Hollowed part b ∧
      dropReasoning part = b ∧ (¬ HasMatch part → b = part) ∧
      ∀ x, v.Speaks x → ∃ literal, Json.StringText literal x ∧ literal <:+: b ∧
        ∃ source, source <:+: part ∧ Hollowed source literal ∧ dropReasoning source = literal ∧
          (¬ HasMatch source → literal = source) := by
  obtain ⟨b, hretried, hrun⟩ := exists_block_of_repaired h
  have hb : block raw = .ok b := by
    rw [retried?] at hretried
    cases hblock : block raw with
    | error e =>
      rw [hblock] at hretried
      cases hretried
    | ok x =>
      rw [hblock] at hretried
      cases hretried
      rfl
  obtain ⟨w, hw, hv⟩ := Schema.parse_ok hrun
  have hsame {whole left : Text} (hremoval : dropReasoning whole = left) (hno : ¬ HasMatch whole) :
      left = whole :=
    hremoval.symm.trans (dropReasoning_eq_self_iff.2 (mt hasMatch_iff.2 hno))
  obtain ⟨part, hpart, hremoval, hhollow⟩ := exists_part_of_block hb
  refine ⟨b, w, part, hb, hw, hv, hpart, hhollow, hremoval, hsame hremoval, ?_⟩
  intro x hx
  obtain ⟨literal, hl, hlb⟩ :=
    (Json.decode_text_eq_ok_iff.1 hw).exists_literal (Schema.speaks_of_check hv hx)
  obtain ⟨source, hs, hspelled, hsl⟩ := exists_part_of_removal (hremoval ▸ hlb)
  exact ⟨literal, hl, hlb, source, hs, hsl, hspelled, hsame hspelled⟩

def hollowReply : Text := "\x60\x60\x60json\n[\"x<think>y</think>z\"]\n\x60\x60\x60"

def hollowBlock : Text := "[\"xz\"]"

theorem block_hollowReply : block hollowReply = .ok hollowBlock := by
  have hsplit : hollowReply.trim = "\x60\x60\x60json\n[\"x" ++
      (("<think>y</think>" : Text) ++ "z\"]\n\x60\x60\x60") := rfl
  have hdropped := dropReasoning_section (a := "\x60\x60\x60json\n[\"x")
    (u := "<think>y</think>") (b := "z\"]\n\x60\x60\x60") (by decide) (by decide) rfl
  rw [block, hsplit, hdropped]
  rfl

theorem parse_hollowReply :
    (parse ⟨false, 1000⟩ true strings (.text hollowReply)).result =
      .ok (.array [.string "xz"], [.repaired]) := by
  have hbad (w : Value) := mt Json.decode_text_eq_ok_iff.1 (Json.not_document_of_fence
    ⟨false, 1000⟩ [] "[\"x<think>y</think>z\"]\n\x60\x60\x60" w)
  have ht : Json.encode 1000 (.array (["xz"].map .string)) = .ok hollowBlock := rfl
  exact parse_of_block hbad block_hollowReply (Json.decode_strings (by decide) ["xz"] ht) strings

/-- The string of the result is spelled in the reply around the section. -/
theorem spelled_hollowReply :
    (parse ⟨false, 1000⟩ true strings (.text hollowReply)).result =
      .ok (.array [.string "xz"], [.repaired]) ∧
    ∃ literal source, Json.StringText literal "xz" ∧ source <:+: hollowReply ∧
      Hollowed source literal ∧ dropReasoning source = literal := by
  obtain ⟨b, w, part, -, -, -, hpart, -, -, -, hspelled⟩ := repaired_value_spelled parse_hollowReply
  have hx : Value.Speaks (.array [.string "xz"]) "xz" :=
    .inl (Value.parts_subset_array (List.mem_cons_self ..) (Value.mem_parts_self _))
  obtain ⟨literal, hl, -, source, hs, hsl, hremoval, -⟩ := hspelled "xz" hx
  exact ⟨parse_hollowReply, literal, source, hl, hs.trans hpart, hsl, hremoval⟩

/-- The text that was parsed stands nowhere in the reply. -/
theorem repaired_block_not_verbatim :
    ¬ ∀ (st : Json.Strictness) (s : Schema) (raw : Text) (v : Value) (b : Text),
      (parse st true s (.text raw)).result = .ok (v, [.repaired]) → block raw = .ok b →
        b <:+: raw := by
  intro h
  have hin := h _ _ _ _ _ parse_hollowReply block_hollowReply
  exact absurd hin (by decide)

end Reply

end ReplySchema
