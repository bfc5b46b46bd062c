import ReplySchema.Proofs.Json.Alignment
import ReplySchema.Proofs.Json.Decoded

/-!
Strict and lax decoding of one document. The strict answer is the lax one, or it names the first
lexeme that is refused: also where the lax reader complains further on, and where a later member of
the same name takes the place of what was refused.
-/

namespace ReplySchema.Json

/-- Strict scanning of a document ends like lax scanning, or at the first refused lexeme. -/
theorem scanDocument_strict (limit : Nat) (s : Text) :
    (scanDocument (strict limit) s = scanDocument (lax limit) s ∧
      ∀ v, scanDocument (lax limit) s = .ok v → firstRefusal? s = none) ∨
    ∃ x, firstRefusal? s = some x ∧ scanDocument (strict limit) s = .error x.stop := by
  have hs := firstRefusal?_dropSpace s
  have h := @aligned_scanValue limit limit (dropSpace s)
  rw [scanDocument_eq, scanDocument_eq, strict, lax]
  rw [strict, lax] at h
  dsimp only
  generalize (scanValue ⟨false, limit⟩ limit (dropSpace s)).plain = x at h ⊢
  generalize (scanValue ⟨true, limit⟩ limit (dropSpace s)).plain = y at h ⊢
  cases h with
  | stopped e =>
    refine .inl ⟨rfl, fun v hv => ?_⟩
    cases hv
  | refused z y hz => exact .inr ⟨z, hs.symm.trans hz, rfl⟩
  | reached v r hr =>
    refine .inl ⟨rfl, ?_⟩
    dsimp only
    intro w hw
    cases hend : dropSpace r with
    | nil =>
      calc
        firstRefusal? s = firstRefusal? (dropSpace r) := by
          rw [← hs, hr, firstRefusal?_dropSpace]
        _ = none := by rw [hend, firstRefusal?_nil]
    | cons c t =>
      rw [hend] at hw
      cases hw

def Source.document : Source → Except DecodeError Text
  | .text s =>
    if s.head?.any CodePoint.isByteOrderMark then .error (.malformed .byteOrderMark (Place.of []))
    else .ok s
  | .bytes bs => (Codec.decode bs).mapError .undecodable
  | .other className => .error (.notText className)

theorem decode_eq_document (st : Strictness) (source : Source) : decode st source =
    match source.document with
    | .error e => .error e
    | .ok s => decodeUnmarked st s := by
  cases source with
  | text s =>
    rw [decode, decodeText, Source.document]
    split
    · rfl
    · rfl
  | bytes bs =>
    rw [decode, decodeBytes, Source.document]
    cases Codec.decode bs with
    | error e => rfl
    | ok s => rfl
  | other className => rfl

/-- The strict answer is the lax one, or names the first refused lexeme of the document. -/
theorem decode_strict_cases (limit : Nat) (source : Source) :
    (decode (strict limit) source = decode (lax limit) source ∧
      ∀ v, decode (lax limit) source = .ok v →
        ∃ s, source.document = .ok s ∧ firstRefusal? s = none) ∨
    ∃ s x, source.document = .ok s ∧ firstRefusal? s = some x ∧
      decode (strict limit) source = .error x.error := by
  rw [decode_eq_document, decode_eq_document]
  cases source.document with
  | error e => exact .inl ⟨rfl, nofun⟩
  | ok s =>
    dsimp only
    rw [decodeUnmarked, decodeUnmarked]
    rcases scanDocument_strict limit s with ⟨heq, hnone⟩ | ⟨x, hx, hstop⟩
    · refine .inl ⟨by rw [heq], fun v hv => ⟨s, rfl, ?_⟩⟩
      cases hlax : scanDocument (lax limit) s with
      | error e => rw [hlax] at hv; cases hv
      | ok w => exact hnone w hlax
    · refine .inr ⟨s, x, rfl, hx, ?_⟩
      rw [hstop, ← x.toError_stop s]
      rfl

/-- Without constants and with the doubles in range nothing is refused, whatever the integers are. -/
theorem firstRefusal?_of_inRange {s : Text} (hc : ∀ name, .constant name ∉ lexemes s)
    (hn : ∀ l spelling, .number l spelling ∈ lexemes s → l.isFloat → l.toDouble.isFinite) :
    firstRefusal? s = none := by
  rw [firstRefusal?, List.findSome?_eq_none_iff]
  intro x hmem
  cases x with
  | constant name => exact absurd hmem (hc name)
  | number l spelling =>
    rw [Lexeme.refusal?, if_neg]
    intro hrefused
    obtain ⟨hf, hx⟩ := Bool.and_eq_true_iff.1 hrefused
    rw [hn l spelling hmem hf] at hx
    cases hx
  | string | unclosed | word | mark => rfl

/--
Strict decoding refines lax decoding: it returns the same value, without a double that is not finite
at any depth, or the same error, or it names the first lexeme of the document that is a constant or
a number with a fraction or an exponent beyond the largest double. No integer makes a difference.
-/
theorem decode_strict_refines_lax (limit : Nat) (source : Source) :
    (∀ v, decode (strict limit) source = .ok v →
      decode (lax limit) source = .ok v ∧ ∀ x, .float x ∈ v.parts → x.isFinite) ∧
    (∀ e, decode (lax limit) source = .error e → decode (strict limit) source = .error e ∨
      ∃ s x, source.document = .ok s ∧ firstRefusal? s = some x ∧
        decode (strict limit) source = .error x.error ∧ x.error.message = x.detail) ∧
    (∀ v, decode (lax limit) source = .ok v → ∃ s, source.document = .ok s ∧
      match firstRefusal? s with
      | none => decode (strict limit) source = .ok v
      | some x => decode (strict limit) source = .error x.error ∧ x.error.message = x.detail) ∧
    (∀ s, source.document = .ok s → (∀ name, .constant name ∉ lexemes s) →
      (∀ l spelling, .number l spelling ∈ lexemes s → l.isFloat → l.toDouble.isFinite) →
      decode (strict limit) source = decode (lax limit) source) := by
  refine ⟨?_, ?_, ?_, ?_⟩
  · intro v hv
    refine ⟨?_, fun x hx => (decoded_of_decode hv).sound _ hx rfl⟩
    rcases decode_strict_cases limit source with ⟨heq, -⟩ | ⟨s, x, -, -, hx⟩
    · rw [← heq, hv]
    · rw [hv] at hx
      cases hx
  · intro e he
    rcases decode_strict_cases limit source with ⟨heq, -⟩ | ⟨s, x, hs, hfirst, hx⟩
    · exact .inl (heq.trans he)
    · exact .inr ⟨s, x, hs, hfirst, hx, x.message_error⟩
  · intro v hv
    rcases decode_strict_cases limit source with ⟨heq, hnone⟩ | ⟨s, x, hs, hfirst, hx⟩
    · obtain ⟨s, hs, hfirst⟩ := hnone v hv
      refine ⟨s, hs, ?_⟩
      rw [hfirst]
      exact heq.trans hv
    · refine ⟨s, hs, ?_⟩
      rw [hfirst]
      exact ⟨hx, x.message_error⟩
  · intro s hs hc hn
    rcases decode_strict_cases limit source with ⟨heq, -⟩ | ⟨s', x, hs', hfirst, -⟩
    · exact heq
    · cases hs.symm.trans hs'
      rw [firstRefusal?_of_inRange hc hn] at hfirst
      cases hfirst

/-- The first value of the member `k` in `overwritten`, and the text behind it. -/
def overwriting (k : Text) : Text :=
  ("NaN" : Text) ++ (',' : CodePoint) ::
    (printString k ++ (':' : CodePoint) :: (("true" : Text) ++ [('}' : CodePoint)]))

/-- An object whose member `k` is a constant at first, and `true` in the end. -/
def overwritten (k : Text) : Text :=
  ('{' : CodePoint) :: (printString k ++ (':' : CodePoint) :: overwriting k)

theorem firstRefusal?_printString (k r : Text) :
    firstRefusal? (printString k ++ r) = firstRefusal? r := by
  rw [printString_append]
  exact firstRefusal?_string (scanString_append (stringBody_flatMap_escape k) _ [] r)

theorem firstRefusal?_overwritten (k : Text) :
    firstRefusal? (overwritten k) = some (.constant "NaN") := by
  have hl : lexeme 'N' (overwriting k).tail = (.constant "NaN", (overwriting k).drop 3) := rfl
  rw [overwritten, firstRefusal?_mark (by decide), firstRefusal?_printString,
    firstRefusal?_mark (by decide)]
  exact firstRefusal?_of_refused hl rfl

theorem document_overwritten (limit : Nat) (k : Text) :
    Document (lax (limit + 1)) (overwritten k) (.object [(k, .bool true)]) := by
  have hname := stringText_printString k
  have hnan : Denotes (lax (limit + 1)) limit "NaN" (.float .nan) :=
    .scalar (.constant (by decide) rfl) limit
  have htrue : Denotes (lax (limit + 1)) limit "true" (.bool true) := .scalar (.bool true) limit
  have hmembers : Series (Member (Denotes (lax (limit + 1)) limit)) _
      [(k, .float .nan), (k, .bool true)] :=
    .more (.mk hname .nil .nil hnan) .nil .nil (.last (.mk hname .nil .nil htrue) .nil)
  have hkeeps : Keeps [(k, .float .nan), (k, .bool true)] [(k, .bool true)] :=
    objectOf_eq_iff.1 (by simp [objectOf, assign])
  have hobject : Document (lax (limit + 1)) _ (.object [(k, .bool true)]) :=
    .mk .nil (.inr (.object (.filled .nil hmembers) hkeeps)) .nil
  simpa [overwritten, overwriting] using hobject

/-- A constant is refused also where a later member of the same name takes its place. -/
theorem decode_overwritten :
    decode (lax 1) (.text (overwritten "a")) = .ok (.object [("a", .bool true)]) ∧
    ∃ e, decode (strict 1) (.text (overwritten "a")) = .error e ∧
      e.message = "NaN is not valid JSON" := by
  have hlax := decode_text_eq_ok_iff.2 (document_overwritten 0 "a")
  obtain ⟨s, hs, hstrict⟩ := (decode_strict_refines_lax 1 (.text (overwritten "a"))).2.2.1 _ hlax
  obtain rfl : overwritten "a" = s := by cases hs; rfl
  rw [firstRefusal?_overwritten] at hstrict
  exact ⟨hlax, _, hstrict⟩

end ReplySchema.Json
