import ReplySchema.Datum.Basic
import ReplySchema.Yaml.Meaning

/-!
Atoms: the data of scalars, each type reading the text in its own way.
-/

namespace ReplySchema.Yaml

/-- The value of a digit of base sixty-four. -/
def sextet? (c : CodePoint) : Option Nat :=
  if c.isAsciiUpper then some (c.val - 65)
  else if c.isAsciiLower then some (c.val - 71)
  else if c.isDigit then some (c.val + 4)
  else if c = '+' then some 62
  else if c = '/' then some 63
  else none

/-- The bytes of groups of four digits; signs that are no digits do not count. -/
def base64 (held : List Nat) (pads : Nat) : Text → Option (List Byte)
  | [] => if held.isEmpty then some [] else none
  | c :: t =>
    if c = '=' then
      match held with
      | [b, a] => if pads = 1 then some [Byte.ofNat (4 * a + b / 16)] else base64 held (pads + 1) t
      | [c, b, a] => some [Byte.ofNat (4 * a + b / 16), Byte.ofNat (16 * b + c / 4)]
      | _ => base64 held pads t
    else
      match sextet? c, held with
      | some d, [c, b, a] =>
        (base64 [] 0 t).map fun bs =>
          Byte.ofNat (4 * a + b / 16) :: Byte.ofNat (16 * b + c / 4) :: Byte.ofNat (64 * c + d) :: bs
      | some d, held => base64 (d :: held) 0 t
      | none, _ => base64 held pads t

/-- A line feed at the end of a timestamp does not count. -/
def timestampOf (t : Text) : Scan Datum :=
  match timestamp? (withoutLineFeed t) with
  | none => .error (.fault ⟨.attribute, "'NoneType' object has no attribute 'groupdict'"⟩)
  | some s =>
    match s.moment with
    | some m => (m.check.map Datum.moment).mapError LoadError.fault
    | none => (s.date.check.map Datum.date).mapError LoadError.fault

def bytesOf (t : Text) : Scan Datum :=
  if t.all (·.val < 0x80) then
    match base64 [] 0 t with
    | some bs => return .bytes bs
    | none => malformed
  else malformed

def boolOf (t : Text) : Scan Datum :=
  match truthWord? t with
  | some b => return .bool b
  | none => .error (.fault ⟨.key, t.lower⟩)

/-- The datum of a scalar with a tag. -/
def scalarDatum (tag text : Text) : Scan Datum :=
  if tag = standard "str" then return .string text
  else if tag = standard "null" then return .null
  else if tag = standard "bool" then boolOf text
  else if tag = standard "int" then Datum.int <$> intOf text
  else if tag = standard "float" then Datum.float <$> floatOf text
  else if tag = standard "timestamp" then timestampOf text
  else if tag = standard "binary" then bytesOf text
  else malformed

end ReplySchema.Yaml
