import ReplySchema.Text.Numeral

/-!
Bytes as text. A document in bytes says by its mark, or by where its first bytes are zero, whether
it is in UTF-8, UTF-16 or UTF-32. Surrogates pass through all three, each unit on its own.
-/

namespace ReplySchema

abbrev Byte := Fin 256

/-- The byte that counts `n` round from the last one to the first. -/
def Byte.ofNat (n : Nat) : Byte := ⟨n % 256, Nat.mod_lt n (by decide)⟩

inductive ByteOrder
  | little
  | big
deriving DecidableEq

inductive Codec
  | utf8
  | utf16 (order : ByteOrder)
  | utf32 (order : ByteOrder)
deriving DecidableEq

/-- Why bytes are no text. -/
inductive CodecFault
  | invalidStart
  | invalidContinuation
  | unexpectedEnd
  | truncated
  | outOfRange
deriving DecidableEq

/-- The `count` bytes from the place `first` on, of which `byte` is the first, are no text. -/
structure CodecError where
  codec : Codec
  fault : CodecFault
  first : Nat
  count : Nat
  byte : Byte
deriving DecidableEq

namespace Codec

def name : Codec → Text
  | .utf8 => "utf-8"
  | .utf16 .little => "utf-16-le"
  | .utf16 .big => "utf-16-be"
  | .utf32 .little => "utf-32-le"
  | .utf32 .big => "utf-32-be"

/-- The marks in front of a text, a longer one before the shorter one that it begins with. -/
def marks : List (List Nat × Codec) :=
  [([0x00, 0x00, 0xFE, 0xFF], .utf32 .big), ([0xFF, 0xFE, 0x00, 0x00], .utf32 .little),
    ([0xFE, 0xFF], .utf16 .big), ([0xFF, 0xFE], .utf16 .little), ([0xEF, 0xBB, 0xBF], .utf8)]

def isZero (b : Byte) : Bool := b.val = 0

/-- The encoding of a document without a mark, which begins with a character below `0x80`. -/
def ofZeros (bytes : List Byte) : Codec :=
  match bytes with
  | [a, b] => if isZero a then .utf16 .big else if isZero b then .utf16 .little else .utf8
  | a :: b :: c :: d :: _ =>
    if isZero a then if isZero b then .utf32 .big else .utf16 .big
    else if isZero b then if isZero c && isZero d then .utf32 .little else .utf16 .little
    else .utf8
  | _ => .utf8

/-- The encoding of a document, and how many bytes of mark stand in front of its text. -/
def detect (bytes : List Byte) : Codec × Nat :=
  match marks.find? fun m => (bytes.take m.1.length).map (·.val) = m.1 with
  | some (mark, codec) => (codec, mark.length)
  | none => (ofZeros bytes, 0)

def isContinuation (b : Byte) : Bool := 0x80 ≤ b.val && b.val < 0xC0

/-- Whether `b` may follow the lead byte `lead` of a sequence of three or four bytes. -/
def continuesLead (lead b : Byte) : Bool :=
  isContinuation b && (lead.val ≠ 0xE0 || 0xA0 ≤ b.val) && (lead.val ≠ 0xF0 || 0x90 ≤ b.val) &&
    (lead.val ≠ 0xF4 || b.val < 0x90)

def bits (b : Byte) (keep : Nat) : Nat := b.val % keep

/-- What the head of the bytes is: a code point, or a fault that covers some bytes. -/
inductive Head (n : Nat)
  | point (c : CodePoint) (rest : { r : List Byte // r.length < n })
  | fault (f : CodecFault) (count : Nat)

def headUtf8 (a : Byte) (t : List Byte) : Head (t.length + 1) :=
  if a.val < 0x80 then .point (CodePoint.ofNat a.val) ⟨t, by simp⟩
  else if a.val < 0xC2 then .fault .invalidStart 1
  else if a.val < 0xE0 then
    match t with
    | [] => .fault .unexpectedEnd 1
    | b :: u =>
      if isContinuation b then
        .point (CodePoint.ofNat (bits a 32 * 64 + bits b 64)) ⟨u, by simp only [List.length_cons]; omega⟩
      else .fault .invalidContinuation 1
  else if a.val < 0xF0 then
    match t with
    | [] => .fault .unexpectedEnd 1
    | [b] =>
      if continuesLead a b && (a.val ≠ 0xED || b.val < 0xA0) then .fault .unexpectedEnd 2
      else .fault .invalidContinuation 1
    | b :: c :: u =>
      if continuesLead a b then
        if isContinuation c then
          .point (CodePoint.ofNat (bits a 16 * 4096 + bits b 64 * 64 + bits c 64))
            ⟨u, by simp only [List.length_cons]; omega⟩
        else if a.val = 0xED && 0xA0 ≤ b.val then .fault .invalidContinuation 1
        else .fault .invalidContinuation 2
      else .fault .invalidContinuation 1
  else if a.val < 0xF5 then
    match t with
    | [] => .fault .unexpectedEnd 1
    | [b] => if continuesLead a b then .fault .unexpectedEnd 2 else .fault .invalidContinuation 1
    | [b, c] =>
      if !continuesLead a b then .fault .invalidContinuation 1
      else if isContinuation c then .fault .unexpectedEnd 3
      else .fault .invalidContinuation 2
    | b :: c :: d :: u =>
      if !continuesLead a b then .fault .invalidContinuation 1
      else if !isContinuation c then .fault .invalidContinuation 2
      else if !isContinuation d then .fault .invalidContinuation 3
      else
        .point (CodePoint.ofNat (bits a 8 * 262144 + bits b 64 * 4096 + bits c 64 * 64 + bits d 64))
          ⟨u, by simp only [List.length_cons]; omega⟩
  else .fault .invalidStart 1

def pair (order : ByteOrder) (a b : Byte) : Nat :=
  match order with
  | .little => a.val + 256 * b.val
  | .big => 256 * a.val + b.val

def headUtf16 (order : ByteOrder) (a : Byte) (t : List Byte) : Head (t.length + 1) :=
  match t with
  | [] => .fault .truncated 1
  | b :: u =>
    let unit : CodePoint := CodePoint.ofNat (pair order a b)
    if unit.isHighSurrogate then
      match u with
      | c :: d :: v =>
        let low : CodePoint := CodePoint.ofNat (pair order c d)
        if low.isLowSurrogate then
          .point (unit.joinSurrogates low) ⟨v, by simp only [List.length_cons]; omega⟩
        else .point unit ⟨c :: d :: v, by simp only [List.length_cons]; omega⟩
      | u => .point unit ⟨u, by simp only [List.length_cons]; omega⟩
    else .point unit ⟨u, by simp only [List.length_cons]; omega⟩

def quad (order : ByteOrder) (a b c d : Byte) : Nat :=
  match order with
  | .little => pair .little a b + 65536 * pair .little c d
  | .big => 65536 * pair .big a b + pair .big c d

def headUtf32 (order : ByteOrder) (a : Byte) (t : List Byte) : Head (t.length + 1) :=
  match t with
  | b :: c :: d :: u =>
    if h : quad order a b c d < 0x110000 then
      .point ⟨quad order a b c d, h⟩ ⟨u, by simp only [List.length_cons]; omega⟩
    else .fault .outOfRange 4
  | t => .fault .truncated (t.length + 1)

def head : Codec → (a : Byte) → (t : List Byte) → Head (t.length + 1)
  | .utf8 => headUtf8
  | .utf16 order => headUtf16 order
  | .utf32 order => headUtf32 order

/-- Reads the bytes as text; `stop` is the place behind the last byte, and `done` the text so far. -/
def read (codec : Codec) (stop : Nat) (done : Text) (bytes : List Byte) : Except CodecError Text :=
  match bytes with
  | [] => .ok done.reverse
  | a :: t =>
    match codec.head a t with
    | .fault f count => .error ⟨codec, f, stop - (a :: t).length, count, a⟩
    | .point c r => read codec stop (c :: done) r.1
termination_by bytes.length
decreasing_by exact r.2

/--
The text of a document in bytes. A mark of UTF-8 is not counted in the place of an error, any other
mark is.
-/
def decode (bytes : List Byte) : Except CodecError Text :=
  let (codec, mark) := detect bytes
  let body := bytes.drop mark
  codec.read (if codec = .utf8 then body.length else bytes.length) [] body

end Codec

namespace CodecFault

def reason : CodecFault → Text
  | .invalidStart => "invalid start byte"
  | .invalidContinuation => "invalid continuation byte"
  | .unexpectedEnd => "unexpected end of data"
  | .truncated => "truncated data"
  | .outOfRange => "code point not in range(0x110000)"

end CodecFault

/-- One bad byte is shown, several are counted. -/
def CodecError.message (e : CodecError) : Text :=
  let place : Text :=
    if e.count = 1 then
      "byte 0x" ++ Numeral.hex 2 e.byte.val ++ " in position " ++ Numeral.ofNat e.first
    else "bytes in position " ++ Numeral.ofNat e.first ++ "-" ++ Numeral.ofNat (e.first + e.count - 1)
  "'" ++ e.codec.name ++ "' codec can't decode " ++ place ++ ": " ++ e.fault.reason

end ReplySchema
