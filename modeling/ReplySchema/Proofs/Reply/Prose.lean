import ReplySchema.Proofs.Reply.Blocks

/-!
Documents in prose. A list or an object that stands in a reply without fences is found by its first
bracket, and the block goes on to the last place where its closing bracket stands. So what follows the
document is discarded exactly if that bracket stands nowhere behind it.
-/

namespace ReplySchema

def Value.opener : Value → CodePoint
  | .object _ => '\x7b'
  | _ => '['

def Value.closer : Value → CodePoint
  | .object _ => '\x7d'
  | _ => ']'

namespace Text

/-- A text in which a code point stands, split at its last place. -/
theorem exists_last {c : CodePoint} {t : Text} (h : c ∈ t) : ∃ a b, t = a ++ c :: b ∧ c ∉ b := by
  obtain ⟨b, a, hrev, hb⟩ := List.eq_append_cons_of_mem (List.mem_reverse.2 h)
  refine ⟨a.reverse, b.reverse, ?_, mt List.mem_reverse.1 hb⟩
  have ht := congrArg List.reverse hrev
  simpa using ht

theorem trimEnd_subset (t : Text) : trimEnd t ⊆ t := (prefix_of_trimEnd t).subset

end Text

namespace Reply

theorem brackets_of_value (v : Value) : Brackets v.opener v.closer := by
  cases v with
  | object ms => exact .object
  | _ => exact .list

theorem exists_inside_of_encode {v : Value} {t : Text} {limit : Nat}
    (hv : (∃ vs, v = .array vs) ∨ ∃ ms, v = .object ms) (ht : Json.encode limit v = .ok t) :
    ∃ m, t = v.opener :: (m ++ [v.closer]) := by
  rcases hv with ⟨vs, rfl⟩ | ⟨ms, rfl⟩
  · obtain ⟨-, ts, -, -, rfl⟩ := Json.encode_array_ok ht
    exact ⟨Text.join "," ts, rfl⟩
  · obtain ⟨-, ts, -, -, rfl⟩ := Json.encode_object_ok ht
    exact ⟨Text.join "," ts, rfl⟩

theorem Brackets.not_isBlank {left right : CodePoint} (h : Brackets left right) :
    ¬ left.isBlank ∧ ¬ right.isBlank := by
  cases h <;> decide

section Prose

variable {p q raw m : Text} {left right : CodePoint}

/-- The block of prose: from its first bracket to the last closing one of that kind. -/
theorem block_of_brackets (h : Brackets left right) (hobject : ('\x7b' : CodePoint) ∉ p)
    (hlist : ('[' : CodePoint) ∉ p) (hq : right ∉ q)
    (hraw : raw = p ++ left :: (m ++ right :: q)) (hf : ¬ fence <:+: raw)
    (hs : ¬ HoldsSection raw) : block raw = .ok (left :: (m ++ [right])) := by
  obtain ⟨hleft, hright⟩ := h.not_isBlank
  have htight : Text.Tight (left :: (m ++ [right])) :=
    ⟨⟨left, _, rfl, hleft⟩, ⟨left :: m, right, rfl, hright⟩⟩
  have hsplit : raw = p ++ (left :: (m ++ [right]) ++ q) := by simp [hraw]
  have hp : ∀ c ∈ p, c ≠ ('\x7b' : CodePoint) ∧ c ≠ ('[' : CodePoint) :=
    fun c hc => ⟨ne_of_mem_of_not_mem hc hobject, ne_of_mem_of_not_mem hc hlist⟩
  have hblank : ¬ raw.isBlank := by
    intro hblank
    have hmem : left ∈ raw := by simp [hraw]
    exact hleft (List.all_eq_true.1 hblank left hmem)
  have htrim : raw.trim.trim =
      p.dropBlanks.dropBlanks ++ left :: (m ++ right :: q.trimEnd.trimEnd) := by
    rw [hsplit, htight.trim_append, htight.trim_append]
    simp
  rw [block_eq_bracketed hblank (fun h => hf h.fence_infix) hs, htrim]
  refine bracketed_append_cons (fun c hc => hp c ?_) h ?_
  · exact (Text.dropBlanks_suffix p).subset ((Text.dropBlanks_suffix _).subset hc)
  · have hend : right ∉ q.trimEnd.trimEnd :=
      fun hmem => hq (Text.trimEnd_subset q (Text.trimEnd_subset _ hmem))
    exact upToLast?_append_cons hend (left :: m)

/--
The block of a reply with a list or an object in prose is the text of that value exactly if its
closing bracket stands nowhere behind it. Otherwise the block goes on to the last such bracket, and
all that stands in between is kept.
-/
theorem block_of_prose {limit : Nat} {v : Value} {t : Text}
    (hv : (∃ vs, v = .array vs) ∨ ∃ ms, v = .object ms) (ht : Json.encode limit v = .ok t)
    (hobject : ('\x7b' : CodePoint) ∉ p) (hlist : ('[' : CodePoint) ∉ p)
    (hraw : raw = p ++ (t ++ q)) (hf : ¬ fence <:+: raw) (hs : ¬ HoldsSection raw) :
    (block raw = .ok t ↔ v.closer ∉ q) ∧
      ∀ a b, q = a ++ v.closer :: b → v.closer ∉ b →
        block raw = .ok (t ++ (a ++ [v.closer])) := by
  obtain ⟨inside, rfl⟩ := exists_inside_of_encode hv ht
  have hbrackets := brackets_of_value v
  have hlonger : ∀ a b, q = a ++ v.closer :: b → v.closer ∉ b →
      block raw = .ok (v.opener :: (inside ++ [v.closer]) ++ (a ++ [v.closer])) := by
    intro a b hq hb
    have hblock := block_of_brackets (m := inside ++ v.closer :: a) hbrackets hobject
      hlist hb (by simp [hraw, hq]) hf hs
    simpa using hblock
  refine ⟨⟨fun hblock hmem => ?_, fun hq => ?_⟩, hlonger⟩
  · obtain ⟨a, b, hq, hb⟩ := Text.exists_last hmem
    have hsame := Except.ok.inj (hblock.symm.trans (hlonger a b hq hb))
    simpa using congrArg List.length hsame
  · exact block_of_brackets hbrackets hobject hlist hq (by simp [hraw]) hf hs

/-- Brackets in strings before the end of the object, and the other kind of bracket behind it. -/
def proseReply : Text := "\x7d Here: \x7b\"\x7d\":[\"]\",\x7b\x7d]\x7d as asked [1]"

def proseValue : Value := .object [("\x7d", .array [.string "]", .object []])]

theorem encode_proseValue :
    Json.encode 1000 proseValue = .ok "\x7b\"\x7d\":[\"]\",\x7b\x7d]\x7d" := rfl

theorem block_proseReply :
    ¬ fence <:+: proseReply ∧ ¬ HoldsSection proseReply ∧
      block proseReply = .ok "\x7b\"\x7d\":[\"]\",\x7b\x7d]\x7d" := by
  have hf : ¬ fence <:+: proseReply := no_fence_of_not_mem (by decide)
  have hs : ¬ HoldsSection proseReply := not_holdsSection (by decide)
  obtain ⟨hblock, -⟩ := block_of_prose (v := proseValue) (p := "\x7d Here: ")
    (t := "\x7b\"\x7d\":[\"]\",\x7b\x7d]\x7d") (q := " as asked [1]") (.inr ⟨_, rfl⟩)
    encode_proseValue (by decide) (by decide) rfl hf hs
  exact ⟨hf, hs, hblock.2 (by decide)⟩

/-- Behind an object a second one keeps the text between them in the block. -/
theorem prose_suffix_kept :
    ¬ ∀ (limit : Nat) (v : Value) (p t q : Text),
      ((∃ vs, v = .array vs) ∨ ∃ ms, v = .object ms) → Json.encode limit v = .ok t →
      ('\x7b' : CodePoint) ∉ p → ('[' : CodePoint) ∉ p →
      ¬ fence <:+: p ++ (t ++ q) → ¬ HoldsSection (p ++ (t ++ q)) →
        block (p ++ (t ++ q)) = .ok t := by
  intro h
  have hf : ¬ fence <:+: ("\x7b\x7d or \x7b\x7d" : Text) := no_fence_of_not_mem (by decide)
  have hs : ¬ HoldsSection ("\x7b\x7d or \x7b\x7d" : Text) := not_holdsSection (by decide)
  have hfirst := h 1000 (.object []) [] "\x7b\x7d" " or \x7b\x7d" (.inr ⟨_, rfl⟩) rfl (by simp)
    (by simp) hf hs
  have hboth := block_of_brackets (m := "\x7d or \x7b") (p := []) (q := []) .object
    (by simp) (by simp) (by simp) rfl hf hs
  have hsame := Except.ok.inj (hfirst.symm.trans hboth)
  exact absurd (congrArg List.length hsame) (by decide)

end Prose

end Reply

end ReplySchema
