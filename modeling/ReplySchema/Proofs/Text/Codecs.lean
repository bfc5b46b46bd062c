import Mathlib.Tactic.Common
import ReplySchema.Text.Encoding

/-!
Bytes that were written from a text, read back. Each codec spells a code point by a few bytes, and
its head takes just these from whatever follows them. Which codec it was, with a mark in front of
the text or without one, is seen from the first four bytes when the text begins as documents do: by
an ASCII character other than NUL, with no NUL behind it.
-/

namespace ReplySchema

/-- The code point that, in front of a text, marks the order of the bytes. -/
def CodePoint.byteOrderMark : CodePoint := CodePoint.ofNat 0xFEFF

theorem CodePoint.ofNat_eq {n : Nat} {c : CodePoint} (h : n = c.val) : CodePoint.ofNat n = c :=
  Fin.ext (by simp only [CodePoint.ofNat, h, Nat.mod_eq_of_lt c.isLt])

theorem CodePoint.val_ofNat_of_lt {n : Nat} (h : n < 0x110000) : (CodePoint.ofNat n).val = n :=
  Nat.mod_eq_of_lt h

theorem Byte.val_ofNat_of_lt {n : Nat} (h : n < 256) : (Byte.ofNat n).val = n :=
  Nat.mod_eq_of_lt h

namespace Codec

/-- A byte behind the lead byte of UTF-8: the last six bits of a number. -/
def continuation (n : Nat) : Byte := Byte.ofNat (0x80 + n % 64)

def utf8Bytes (c : CodePoint) : List Byte :=
  if c.val < 0x80 then [Byte.ofNat c.val]
  else if c.val < 0x800 then [Byte.ofNat (0xC0 + c.val / 64), continuation c.val]
  else if c.val < 0x10000 then
    [Byte.ofNat (0xE0 + c.val / 4096), continuation (c.val / 64), continuation c.val]
  else
    [Byte.ofNat (0xF0 + c.val / 262144), continuation (c.val / 4096), continuation (c.val / 64),
      continuation c.val]

def unitBytes (order : ByteOrder) (n : Nat) : List Byte :=
  match order with
  | .little => [Byte.ofNat n, Byte.ofNat (n / 256)]
  | .big => [Byte.ofNat (n / 256), Byte.ofNat n]

def utf16Bytes (order : ByteOrder) (c : CodePoint) : List Byte :=
  if c.val < 0x10000 then unitBytes order c.val
  else
    unitBytes order (0xD800 + (c.val - 0x10000) / 0x400) ++
      unitBytes order (0xDC00 + (c.val - 0x10000) % 0x400)

def utf32Bytes (order : ByteOrder) (c : CodePoint) : List Byte :=
  match order with
  | .little => unitBytes .little c.val ++ unitBytes .little (c.val / 65536)
  | .big => unitBytes .big (c.val / 65536) ++ unitBytes .big c.val

def encodePoint : Codec → CodePoint → List Byte
  | .utf8 => utf8Bytes
  | .utf16 order => utf16Bytes order
  | .utf32 order => utf32Bytes order

def encode (codec : Codec) (t : Text) : List Byte := t.flatMap codec.encodePoint

def encodeMarked (codec : Codec) (t : Text) : List Byte :=
  codec.encode (CodePoint.byteOrderMark :: t)

theorem encode_cons (codec : Codec) (c : CodePoint) (t : Text) :
    codec.encode (c :: t) = codec.encodePoint c ++ codec.encode t := List.flatMap_cons

section Heads

variable {codec : Codec} {c : CodePoint} {rest : List Byte}

/-- The bytes are a spelling of `c` that the codec reads, and `rest`. -/
def Heads (codec : Codec) (bytes : List Byte) (c : CodePoint) (rest : List Byte) : Prop :=
  ∃ a t h, bytes = a :: t ∧ codec.head a t = .point c ⟨rest, h⟩

theorem val_continuation (n : Nat) : (continuation n).val = 0x80 + n % 64 :=
  Byte.val_ofNat_of_lt (by omega)

theorem isContinuation_continuation (n : Nat) : isContinuation (continuation n) := by
  simp only [isContinuation, val_continuation, Bool.and_eq_true, decide_eq_true_eq]
  omega

theorem bits_continuation (n : Nat) : bits (continuation n) 64 = n % 64 := by
  rw [bits, val_continuation]
  omega

/-- The second byte of the shortest spelling, below the end of the code points. -/
theorem continuesLead_continuation {lead : Byte} {n : Nat}
    (hlong : lead.val = 0xE0 → 0x20 ≤ n % 64) (hlonger : lead.val = 0xF0 → 0x10 ≤ n % 64)
    (hlast : lead.val = 0xF4 → n % 64 < 0x10) : continuesLead lead (continuation n) := by
  simp only [continuesLead, isContinuation_continuation, val_continuation, Bool.true_and,
    Bool.and_eq_true, Bool.or_eq_true, decide_eq_true_eq]
  omega

theorem headUtf8_two {a : Byte} (ha : 0xC2 ≤ a.val) (ha' : a.val < 0xE0) (n : Nat)
    (rest : List Byte) :
    ∃ h, headUtf8 a (continuation n :: rest) =
      .point (CodePoint.ofNat (a.val % 32 * 64 + n % 64)) ⟨rest, h⟩ := by
  refine ⟨by simp only [List.length_cons]; omega, ?_⟩
  rw [headUtf8, if_neg (by omega), if_neg (by omega), if_pos (by omega),
    if_pos (isContinuation_continuation n), bits_continuation, bits]

theorem headUtf8_three {a : Byte} (ha : 0xE0 ≤ a.val) (ha' : a.val < 0xF0) {m : Nat}
    (hlead : continuesLead a (continuation m)) (n : Nat) (rest : List Byte) :
    ∃ h, headUtf8 a (continuation m :: continuation n :: rest) =
      .point (CodePoint.ofNat (a.val % 16 * 4096 + m % 64 * 64 + n % 64)) ⟨rest, h⟩ := by
  refine ⟨by simp only [List.length_cons]; omega, ?_⟩
  rw [headUtf8, if_neg (by omega), if_neg (by omega), if_neg (by omega), if_pos (by omega)]
  simp only [hlead, isContinuation_continuation, if_true]
  rw [bits_continuation, bits_continuation, bits]

theorem headUtf8_four {a : Byte} (ha : 0xF0 ≤ a.val) (ha' : a.val < 0xF5) {k : Nat}
    (hlead : continuesLead a (continuation k)) (m n : Nat) (rest : List Byte) :
    ∃ h, headUtf8 a (continuation k :: continuation m :: continuation n :: rest) =
      .point (CodePoint.ofNat (a.val % 8 * 262144 + k % 64 * 4096 + m % 64 * 64 + n % 64))
        ⟨rest, h⟩ := by
  refine ⟨by simp only [List.length_cons]; omega, ?_⟩
  rw [headUtf8, if_neg (by omega), if_neg (by omega), if_neg (by omega), if_neg (by omega),
    if_pos (by omega)]
  simp only [hlead, isContinuation_continuation]
  rw [bits_continuation, bits_continuation, bits_continuation, bits]
  rfl

theorem heads_utf8 (c : CodePoint) (rest : List Byte) :
    Heads .utf8 (utf8Bytes c ++ rest) c rest := by
  have hc := c.isLt
  rw [utf8Bytes]
  split_ifs with hone htwo hthree
  · have ha : (Byte.ofNat c.val).val = c.val := Byte.val_ofNat_of_lt (by omega)
    refine ⟨Byte.ofNat c.val, rest, by simp, rfl, ?_⟩
    simp only [head, headUtf8, ha, if_pos hone, CodePoint.ofNat_eq rfl]
  · have ha := Byte.val_ofNat_of_lt (n := 0xC0 + c.val / 64) (by omega)
    obtain ⟨h, hhead⟩ := headUtf8_two (a := Byte.ofNat (0xC0 + c.val / 64)) (by omega) (by omega) c.val rest
    rw [ha, CodePoint.ofNat_eq (c := c) (by omega)] at hhead
    exact ⟨_, _, h, rfl, hhead⟩
  · have ha := Byte.val_ofNat_of_lt (n := 0xE0 + c.val / 4096) (by omega)
    have hlead : continuesLead (Byte.ofNat (0xE0 + c.val / 4096)) (continuation (c.val / 64)) :=
      continuesLead_continuation (by omega) (by omega) (by omega)
    obtain ⟨h, hhead⟩ := headUtf8_three (by omega) (by omega) hlead c.val rest
    rw [ha, CodePoint.ofNat_eq (c := c) (by omega)] at hhead
    exact ⟨_, _, h, rfl, hhead⟩
  · have ha := Byte.val_ofNat_of_lt (n := 0xF0 + c.val / 262144) (by omega)
    have hlead : continuesLead (Byte.ofNat (0xF0 + c.val / 262144))
        (continuation (c.val / 4096)) :=
      continuesLead_continuation (by omega) (by omega) (by omega)
    obtain ⟨h, hhead⟩ := headUtf8_four (by omega) (by omega) hlead (c.val / 64) c.val rest
    rw [ha, CodePoint.ofNat_eq (c := c) (by omega)] at hhead
    exact ⟨_, _, h, rfl, hhead⟩

theorem exists_unitBytes (order : ByteOrder) (n : Nat) :
    ∃ a b, unitBytes order n = [a, b] ∧ pair order a b = n % 65536 := by
  cases order with
  | little =>
    refine ⟨_, _, rfl, ?_⟩
    simp only [pair, Byte.ofNat]
    omega
  | big =>
    refine ⟨_, _, rfl, ?_⟩
    simp only [pair, Byte.ofNat]
    omega

theorem heads_utf16 {c : CodePoint} (hc : ¬ c.isSurrogate) (order : ByteOrder)
    (rest : List Byte) : Heads (.utf16 order) (utf16Bytes order c ++ rest) c rest := by
  have hlt := c.isLt
  rw [utf16Bytes]
  split_ifs with hunit
  · obtain ⟨a, b, hbytes, hpair⟩ := exists_unitBytes order c.val
    have hpoint : CodePoint.ofNat (pair order a b) = c := CodePoint.ofNat_eq (by omega)
    have hhigh : ¬ c.isHighSurrogate := by
      simp only [CodePoint.isSurrogate, CodePoint.isHighSurrogate, Bool.and_eq_true,
        decide_eq_true_eq] at hc ⊢
      omega
    refine ⟨a, b :: rest, by simp only [List.length_cons]; omega, by rw [hbytes]; rfl, ?_⟩
    simp only [head, headUtf16, hpoint]
    rw [if_neg hhigh]
  · obtain ⟨a, b, hab, hhigh⟩ := exists_unitBytes order (0xD800 + (c.val - 0x10000) / 0x400)
    obtain ⟨d, e, hde, hlow⟩ := exists_unitBytes order (0xDC00 + (c.val - 0x10000) % 0x400)
    have hfirst : (CodePoint.ofNat (pair order a b)).isHighSurrogate := by
      rw [CodePoint.isHighSurrogate, CodePoint.val_ofNat_of_lt (by omega), Bool.and_eq_true,
        decide_eq_true_eq, decide_eq_true_eq]
      omega
    have hsecond : (CodePoint.ofNat (pair order d e)).isLowSurrogate := by
      rw [CodePoint.isLowSurrogate, CodePoint.val_ofNat_of_lt (by omega), Bool.and_eq_true,
        decide_eq_true_eq, decide_eq_true_eq]
      omega
    have hjoin : (CodePoint.ofNat (pair order a b)).joinSurrogates
        (CodePoint.ofNat (pair order d e)) = c := by
      rw [CodePoint.joinSurrogates, CodePoint.val_ofNat_of_lt (by omega),
        CodePoint.val_ofNat_of_lt (by omega)]
      exact CodePoint.ofNat_eq (by omega)
    refine ⟨a, b :: d :: e :: rest, by simp only [List.length_cons]; omega,
      by rw [hab, hde]; rfl, ?_⟩
    simp only [head, headUtf16]
    rw [if_pos hfirst, if_pos hsecond, hjoin]

theorem heads_utf32 (order : ByteOrder) (c : CodePoint) (rest : List Byte) :
    Heads (.utf32 order) (utf32Bytes order c ++ rest) c rest := by
  have hlt := c.isLt
  have hquad : ∃ a b d e, utf32Bytes order c = [a, b, d, e] ∧ quad order a b d e = c.val := by
    cases order with
    | little =>
      refine ⟨_, _, _, _, rfl, ?_⟩
      simp only [quad, pair, Byte.ofNat]
      omega
    | big =>
      refine ⟨_, _, _, _, rfl, ?_⟩
      simp only [quad, pair, Byte.ofNat]
      omega
  obtain ⟨a, b, d, e, hbytes, hpoint⟩ := hquad
  refine ⟨a, b :: d :: e :: rest, by simp only [List.length_cons]; omega, by rw [hbytes]; rfl, ?_⟩
  simp only [head, headUtf32]
  rw [dif_pos (by omega)]
  congr

theorem heads_encodePoint (codec : Codec) (hc : ¬ c.isSurrogate) (rest : List Byte) :
    Heads codec (codec.encodePoint c ++ rest) c rest := by
  cases codec with
  | utf8 => exact heads_utf8 c rest
  | utf16 order => exact heads_utf16 hc order rest
  | utf32 order => exact heads_utf32 order c rest

theorem Heads.read {bytes : List Byte} (h : Heads codec bytes c rest) (stop : Nat) (done : Text) :
    codec.read stop done bytes = codec.read stop (c :: done) rest := by
  obtain ⟨a, t, hlt, rfl, hhead⟩ := h
  rw [Codec.read, hhead]

/-- What a text was written to is read as the text. -/
theorem read_encode (codec : Codec) {t : Text} (ht : ∀ c ∈ t, ¬ c.isSurrogate) (stop : Nat)
    (done : Text) : codec.read stop done (codec.encode t) = .ok (done.reverse ++ t) := by
  induction t generalizing done with
  | nil =>
    rw [encode, List.flatMap_nil, Codec.read, List.append_nil]
  | cons c t ih =>
    obtain ⟨hc, ht⟩ := List.forall_mem_cons.1 ht
    rw [encode_cons, (heads_encodePoint codec hc _).read, ih ht, List.reverse_cons,
      List.append_assoc, List.singleton_append]

end Heads

section Detection

variable {c : CodePoint} {u : Text}

theorem detect_eq_ofZeros {bytes : List Byte}
    (h : ∀ m ∈ marks, (bytes.take m.1.length).map (·.val) ≠ m.1) :
    detect bytes = (ofZeros bytes, 0) := by
  have hnone : marks.find? (fun m => (bytes.take m.1.length).map (·.val) = m.1) = none :=
    List.find?_eq_none.2 fun m hm => by simpa using h m hm
  rw [detect, hnone]

/-- No unit of a text without NUL is zero. -/
theorem units_encode (order : ByteOrder) (hu : ∀ d ∈ u, 0 < d.val) :
    (Codec.utf16 order).encode u = [] ∨ ∃ a b rest,
      (Codec.utf16 order).encode u = a :: b :: rest ∧ ¬ (isZero a ∧ isZero b) := by
  have hunit {n : Nat} (hn : n % 65536 ≠ 0) :
      ∃ a b, unitBytes order n = [a, b] ∧ ¬ (isZero a ∧ isZero b) := by
    obtain ⟨a, b, hab, hpair⟩ := exists_unitBytes order n
    refine ⟨a, b, hab, fun ⟨ha, hb⟩ => hn ?_⟩
    simp only [isZero, decide_eq_true_eq] at ha hb
    rw [← hpair]
    cases order <;> simp [pair, ha, hb]
  cases u with
  | nil => exact .inl rfl
  | cons d u =>
    have hd : 0 < d.val := hu d (List.mem_cons_self ..)
    have hlt := d.isLt
    right
    rw [encode_cons, encodePoint, utf16Bytes]
    split_ifs with h
    · obtain ⟨a, b, hab, hzero⟩ := hunit (n := d.val) (by omega)
      exact ⟨a, b, _, by rw [hab]; rfl, hzero⟩
    · obtain ⟨a, b, hab, hzero⟩ := hunit (n := 0xD800 + (d.val - 0x10000) / 0x400) (by omega)
      exact ⟨a, b, _, by rw [hab]; rfl, hzero⟩

def asciiBytes (b : Byte) : Codec → List Byte
  | .utf8 => [b]
  | .utf16 .little => [b, 0]
  | .utf16 .big => [0, b]
  | .utf32 .little => [b, 0, 0, 0]
  | .utf32 .big => [0, 0, 0, b]

theorem encode_ascii_cons (codec : Codec) (hascii : c.val < 0x80) :
    codec.encode (c :: u) = asciiBytes (Byte.ofNat c.val) codec ++ codec.encode u := by
  have hhigh : c.val / 256 = 0 := by omega
  have hupper : c.val / 65536 = 0 := by omega
  rw [encode_cons]
  congr 1
  cases codec with
  | utf8 => rw [encodePoint, utf8Bytes, if_pos hascii, asciiBytes]
  | utf16 order =>
    rw [encodePoint, utf16Bytes, if_pos (by omega)]
    cases order <;> rw [unitBytes, hhigh] <;> rfl
  | utf32 order =>
    rw [encodePoint]
    cases order <;> rw [utf32Bytes, unitBytes, unitBytes, hhigh, hupper] <;> rfl

/-- No byte of a character other than NUL is zero in UTF-8. -/
theorem not_isZero_of_mem_utf8Bytes {d : CodePoint} (hd : 0 < d.val) :
    ∀ b ∈ utf8Bytes d, isZero b = false := by
  have hlt := d.isLt
  have hbyte {n : Nat} (hn : 0 < n) (hn' : n < 256) : isZero (Byte.ofNat n) = false := by
    rw [isZero, Byte.val_ofNat_of_lt hn', decide_eq_false (by omega)]
  have hrest (n : Nat) : isZero (continuation n) = false := hbyte (by omega) (by omega)
  rw [utf8Bytes]
  split_ifs with h1 h2 h3
  all_goals
    simp only [List.forall_mem_cons, hrest]
    refine ⟨hbyte (by omega) (by omega), ?_⟩
    simp

theorem detect_encode (codec : Codec) (hc : 0 < c.val) (hascii : c.val < 0x80)
    (hu : ∀ d ∈ u, 0 < d.val) : detect (codec.encode (c :: u)) = (codec, 0) := by
  have ha : (Byte.ofNat c.val).val = c.val := Byte.val_ofNat_of_lt (by omega)
  have hz : isZero (Byte.ofNat c.val) = false := by
    rw [isZero, ha, decide_eq_false (by omega)]
  have hzero : isZero 0 = true := rfl
  rw [encode_ascii_cons codec hascii]
  generalize Byte.ofNat c.val = a at ha hz
  have hmarks : ∀ m ∈ marks,
      ((asciiBytes a codec ++ codec.encode u).take m.1.length).map (·.val) ≠ m.1 := by
    rcases codec with _ | (_ | _) | (_ | _) <;> simp [marks, asciiBytes, ha] <;> omega
  rw [detect_eq_ofZeros hmarks]
  congr 1
  -- Two bytes have rules of their own, so the text ends here or goes on with at least a unit.
  rcases codec with _ | (_ | _) | (_ | _)
  · have hbytes : ∀ b ∈ Codec.utf8.encode u, isZero b = false := by
      intro b hb
      obtain ⟨d, hd, hb⟩ := List.mem_flatMap.1 hb
      exact not_isZero_of_mem_utf8Bytes (hu d hd) b hb
    generalize Codec.utf8.encode u = bytes at hbytes
    rcases bytes with _ | ⟨p, _ | ⟨q, _ | ⟨r, bytes⟩⟩⟩
    · rfl
    · simp [asciiBytes, ofZeros, hz, hbytes]
    · rfl
    · simp [asciiBytes, ofZeros, hz, hbytes]
  · rcases units_encode .little hu with hnil | ⟨p, q, rest, hrest, hpq⟩
    · simp [hnil, asciiBytes, ofZeros, hz, hzero]
    · simpa [hrest, asciiBytes, ofZeros, hz, hzero] using hpq
  · rcases units_encode .big hu with hnil | ⟨p, q, rest, hrest, -⟩
    · simp [hnil, asciiBytes, ofZeros, hzero]
    · simp [hrest, asciiBytes, ofZeros, hz, hzero]
  · simp [asciiBytes, ofZeros, hz, hzero]
  · simp [asciiBytes, ofZeros, hzero]

theorem detect_encodeMarked (codec : Codec) (hc : 0 < c.val) (hascii : c.val < 0x80) :
    detect (codec.encodeMarked (c :: u)) =
      (codec, (codec.encodePoint .byteOrderMark).length) := by
  have ha : (Byte.ofNat c.val).val ≠ 0 := by
    rw [Byte.val_ofNat_of_lt (by omega)]
    omega
  rw [encodeMarked, encode_cons, encode_ascii_cons codec hascii]
  generalize Byte.ofNat c.val = a at ha
  rcases codec with _ | (_ | _) | (_ | _)
  · rfl
  · have hmark : (Codec.utf16 .little).encodePoint .byteOrderMark = [0xFF, 0xFE] := by decide
    rw [detect, marks, hmark, List.find?_cons_of_neg (by simp),
      List.find?_cons_of_neg (by simp [asciiBytes, ha])]
    rfl
  · rfl
  · rfl
  · rfl

/-- Bytes of a text that begins as documents do hold that text, with a mark or without. -/
theorem decode_of_encode (codec : Codec) {t : Text} (ht : ∀ d ∈ t, ¬ d.isSurrogate)
    (hfirst : ∃ c ∈ t.head?, c.val < 0x80) (hnul : ∀ d ∈ t, 0 < d.val) :
    decode (codec.encode t) = .ok t ∧ decode (codec.encodeMarked t) = .ok t := by
  obtain ⟨c, hc, hascii⟩ := hfirst
  obtain ⟨u, rfl⟩ := List.head?_eq_some_iff.1 hc
  obtain ⟨hpos, hu⟩ := List.forall_mem_cons.1 hnul
  constructor
  · rw [decode, detect_encode codec hpos hascii hu]
    exact read_encode codec ht _ []
  · rw [decode, detect_encodeMarked codec hpos hascii, encodeMarked, encode_cons]
    dsimp only
    rw [List.drop_left]
    exact read_encode codec ht _ []

end Detection

end Codec

end ReplySchema
