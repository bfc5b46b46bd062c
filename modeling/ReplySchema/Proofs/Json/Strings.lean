import ReplySchema.Proofs.Json.Scanning

/-!
The scan of a string, one step for each thing that may stand in front of it: the closing quote, a
code point, a short escape, and an escape by number with or without the other half of its pair.
-/

namespace ReplySchema.Json

theorem scanString_quote (opening done s : Text) :
    scanString opening done ('"' :: s) = .ok (done.reverse, s) := by
  rw [scanString.eq_def]
  dsimp only
  rw [if_pos rfl]

theorem scanString_plain (opening done : Text) {c : CodePoint} (hq : c ≠ '"') (hb : c ≠ '\\')
    (hc : ¬ c.val < 0x20) (s : Text) :
    scanString opening done (c :: s) = scanString opening (c :: done) s := by
  rw [scanString.eq_def]
  dsimp only
  rw [if_neg hq, if_neg hb, if_neg hc]

theorem scanString_short (opening done : Text) {e c : CodePoint} (h : shortEscape? e = some c)
    (s : Text) :
    scanString opening done ('\\' :: e :: s) = scanString opening (c :: done) s := by
  have hu : e ≠ 'u' := by
    rintro rfl
    cases h
  rw [scanString, if_neg (by decide), if_pos rfl]
  dsimp only
  rw [if_neg hu, h]

theorem scanString_number (opening done : Text) {c : CodePoint} {s r : Text}
    (h : scanUnit? s = some (c, r)) :
    scanString opening done ('\\' :: 'u' :: s) =
      match if c.isHighSurrogate then scanLowSurrogate? r else none with
      | some (low, v) => scanString opening (c.joinSurrogates low :: done) v
      | none => scanString opening (c :: done) r := by
  rw [scanString, if_neg (by decide), if_pos rfl]
  dsimp only
  rw [if_pos rfl]
  split
  · rename_i hn
    rw [hn] at h
    cases h
  · rename_i hs
    cases hs.symm.trans h
    by_cases hc : c.isHighSurrogate
    · rw [if_pos hc, if_pos hc]
      split
      · rename_i hl
        rw [hl]
      · rename_i hl
        rw [hl]
    · rw [if_neg hc, if_neg hc]

end ReplySchema.Json
