import ReplySchema.Json.Scan
import ReplySchema.Text.Encoding

/-!
Decoding one document, from text or from bytes. Strict decoding refuses the spellings of the values
that are no numbers of JSON; lax decoding takes them. Both refuse the same texts otherwise.
-/

namespace ReplySchema.Json

/-- A place in a text, counted in code points; lines end at line feeds only. -/
structure Place where
  offset : Nat
  line : Nat
  column : Nat
deriving DecidableEq

inductive DecodeError
  | notText (className : Text)
  | undecodable (e : CodecError)
  | malformed (what : Complaint) (place : Place)
  | constant (name : Text)
  | outOfRange (literal : Text)
  | longInteger (digits : Nat)
  | tooDeep

/-- What a caller can ask to decode. An array of bytes is as good as bytes. -/
inductive Source
  | text (t : Text)
  | bytes (bs : List Byte)
  | other (className : Text)

def Place.of (before : Text) : Place where
  offset := before.length
  line := before.countP (fun c : CodePoint => c = '\n') + 1
  column := (before.reverse.takeWhile fun c : CodePoint => c ≠ '\n').length + 1

/-- Counts the place of a stop in the document `s`. -/
def Stop.toError (s : Text) : Stop → DecodeError
  | .malformed what rest => .malformed what (Place.of (s.take (s.length - rest.length)))
  | .constant name => .constant name
  | .outOfRange literal => .outOfRange literal
  | .longInteger digits => .longInteger digits
  | .tooDeep => .tooDeep

/-- One value with nothing but space around it. -/
def scanDocument (strictness : Strictness) (s : Text) : Except Stop Value :=
  match scanValue strictness strictness.nesting (dropSpace s) with
  | .error e => .error e
  | .ok (v, r) =>
    match dropSpace r.1 with
    | [] => .ok v
    | c :: t => .error (.malformed .extraData (c :: t))

/-- Decodes a text whose byte order mark, if it had one, is gone. -/
def decodeUnmarked (strictness : Strictness) (s : Text) : Except DecodeError Value :=
  (scanDocument strictness s).mapError (Stop.toError s)

def decodeText (strictness : Strictness) (s : Text) : Except DecodeError Value :=
  if s.head?.any CodePoint.isByteOrderMark then .error (.malformed .byteOrderMark (Place.of []))
  else decodeUnmarked strictness s

def decodeBytes (strictness : Strictness) (bytes : List Byte) : Except DecodeError Value :=
  match Codec.decode bytes with
  | .ok s => decodeUnmarked strictness s
  | .error e => .error (.undecodable e)

def decode (strictness : Strictness) : Source → Except DecodeError Value
  | .text s => decodeText strictness s
  | .bytes bs => decodeBytes strictness bs
  | .other className => .error (.notText className)

/-- A value that is given where text is expected; the empty bytes are the only bytes among them. -/
def Source.ofValue : Value → Source
  | .string t => .text t
  | .foreign .bytes | .foreign .byteArray => .bytes []
  | v => .other v.className

def Complaint.text : Complaint → Text
  | .expectingValue => "Expecting value"
  | .expectingName => "Expecting property name enclosed in double quotes"
  | .expectingColon => "Expecting ':' delimiter"
  | .expectingComma => "Expecting ',' delimiter"
  | .unterminatedString => "Unterminated string starting at"
  | .controlCharacter => "Invalid control character at"
  | .badEscape => "Invalid \\escape"
  | .badUnicodeEscape => "Invalid \\uXXXX escape"
  | .extraData => "Extra data"
  | .byteOrderMark => "Unexpected UTF-8 BOM (decode using utf-8-sig)"

def Place.text (p : Place) : Text :=
  "line " ++ Numeral.ofNat p.line ++ " column " ++ Numeral.ofNat p.column ++ " (char "
    ++ Numeral.ofNat p.offset ++ ")"

def DecodeError.message : DecodeError → Text
  | .notText className => "expected JSON text, got " ++ className
  | .undecodable e => e.message
  | .malformed what place => what.text ++ ": " ++ place.text
  | .constant name => name ++ " is not valid JSON"
  | .outOfRange literal => "number " ++ literal ++ " is out of range"
  | .longInteger digits =>
    "Exceeds the limit (" ++ Numeral.ofNat maxIntegerDigits
      ++ " digits) for integer string conversion: value has " ++ Numeral.ofNat digits
      ++ " digits; use sys.set_int_max_str_digits() to increase the limit"
  | .tooDeep => "document is nested too deeply"

end ReplySchema.Json
