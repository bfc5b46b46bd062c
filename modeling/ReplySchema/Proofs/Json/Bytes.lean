import ReplySchema.Proofs.Json.Pieces
import ReplySchema.Proofs.Text.Codecs

/-!
Documents in bytes. Whatever a document is written in, its bytes decode to what the text decodes to:
no document holds a NUL, and the first character of each is an ASCII character, so the place of the
zeros among the first bytes gives the encoding away.
-/

namespace ReplySchema.Json

variable {st : Strictness} {t : Text} {v : Value}

/-- No document holds a NUL: what stands in a string shows, and so does what stands outside. -/
theorem composes_noNul : Composes fun t => ∀ c ∈ t, 0 < c.val where
  append _ _ ha hb := List.forall_mem_append.2 ⟨ha, hb⟩
  bare _ ha c hc := Nat.lt_of_lt_of_le (by decide) (visible_of_isBare (ha c hc))
  gap _ ha c hc := by
    rcases ha c hc with rfl | rfl | rfl | rfl <;> decide
  string _ _ ha c hc := Nat.lt_of_lt_of_le (by decide) (ha.visible c hc)

/-- Whatever a piece begins with is ASCII, though a string may go on with any code point. -/
theorem composes_asciiHead : Composes fun t => ∀ c ∈ t.head?, c.val < 0x80 where
  append a b ha hb c hc := by
    rw [List.head?_append] at hc
    cases a with
    | nil => exact hb c hc
    | cons d a => exact ha c hc
  bare _ ha c hc := ascii_of_isBare (ha c (List.mem_of_mem_head? hc))
  gap _ ha c hc := by
    rcases ha c (List.mem_of_mem_head? hc) with rfl | rfl | rfl | rfl <;> decide
  string _ _ ha c hc := by
    obtain ⟨-⟩ := ha
    cases hc
    decide

theorem Document.exists_head (h : Document st t v) : ∃ c ∈ t.head?, c.val < 0x80 := by
  cases hhead : t.head? with
  | some c => exact ⟨c, rfl, composes_asciiHead.document h c hhead⟩
  | none =>
    obtain @⟨before, s, after, _, -, hs, -⟩ := h
    obtain ⟨c, u, rfl, -⟩ := hs.opens
    simp at hhead

/--
Decoding bytes agrees with decoding text: a text that decodes to a value, however strictly, and
holds no surrogate, decodes to this value from its bytes too, in each encoding, with the mark of
the encoding in front or without.
-/
theorem decode_bytes_of_text (hsurrogates : ∀ c ∈ t, ¬ c.isSurrogate)
    (h : decode st (.text t) = .ok v) (codec : Codec) :
    decode st (.bytes (codec.encode t)) = .ok v ∧
    decode st (.bytes (codec.encodeMarked t)) = .ok v := by
  have hdocument := decode_text_eq_ok_iff.1 h
  obtain ⟨hplain, hmarked⟩ := Codec.decode_of_encode codec hsurrogates hdocument.exists_head
    (composes_noNul.document hdocument)
  rw [decode, decode, decodeBytes, decodeBytes, hplain, hmarked]
  exact ⟨decodeUnmarked_eq_ok_iff.2 hdocument, decodeUnmarked_eq_ok_iff.2 hdocument⟩

def smiling : Text := "\"é€😀\""

def smilingBig : List Byte :=
  [0x00, 0x22, 0x00, 0xE9, 0x20, 0xAC, 0xD8, 0x3D, 0xDE, 0x00, 0x00, 0x22].map Byte.ofNat

def smilingMarked : List Byte :=
  [0xEF, 0xBB, 0xBF, 0x22, 0xC3, 0xA9, 0xE2, 0x82, 0xAC, 0xF0, 0x9F, 0x98, 0x80, 0x22].map
    Byte.ofNat

theorem decode_smiling : (∀ c ∈ smiling, ¬ c.isSurrogate) ∧
    decode (strict 1000) (.text smiling) = .ok (.string "é€😀") ∧
    decode (strict 1000) (.bytes smilingBig) = .ok (.string "é€😀") ∧
    decode (strict 1000) (.bytes smilingMarked) = .ok (.string "é€😀") := by
  have hpoints : smiling.all (fun c => !c.isSurrogate) = true := by decide
  have hsurrogates : ∀ c ∈ smiling, ¬ c.isSurrogate := by simpa using hpoints
  have hbody : StringBody ("é€😀" : Text) ("é€😀" : Text) :=
    .plain (by decide) (by decide) (by decide) (.plain (by decide) (by decide) (by decide)
      (.plain (by decide) (by decide) (by decide) .nil))
  have htext : decode (strict 1000) (.text smiling) = .ok (.string "é€😀") :=
    decode_text_eq_ok_iff.2 (.mk .nil (.scalar (.string (.mk hbody)) _) .nil)
  have hbig : (Codec.utf16 .big).encode smiling = smilingBig := by decide
  have hmarked : Codec.utf8.encodeMarked smiling = smilingMarked := by decide
  refine ⟨hsurrogates, htext, ?_, ?_⟩
  · rw [← hbig]
    exact (decode_bytes_of_text hsurrogates htext (.utf16 .big)).1
  · rw [← hmarked]
    exact (decode_bytes_of_text hsurrogates htext .utf8).2

end ReplySchema.Json
