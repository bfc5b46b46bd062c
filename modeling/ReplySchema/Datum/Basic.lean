import ReplySchema.Datum.Moment
import ReplySchema.Failure
import ReplySchema.Text.Encoding
import ReplySchema.Value.Shown

/-!
The data of settings files. They are more than the values of documents: keys need not be strings,
and there are dates, moments, bytes and sets.
-/

namespace ReplySchema

inductive Datum
  | null
  | bool (b : Bool)
  | int (n : Int)
  | float (x : Double)
  | string (t : Text)
  | date (d : Date)
  | moment (m : Moment)
  | bytes (bs : List Byte)
  | list (items : List Datum)
  | pair (first second : Datum)
  | set (items : List Datum)
  | mapping (members : List (Datum × Datum))
  /-- A list or mapping inside itself, where it is not gone into again. -/
  | again (isMapping : Bool)

namespace Datum

mutual

def ofValue : Value → Datum
  | .null => .null
  | .bool b => .bool b
  | .int n => .int n
  | .float x => .float x
  | .string t => .string t
  | .array items | .tuple items => .list (ofValues items)
  | .object members => .mapping (ofMembers members)
  | .mapping entries => .mapping (ofEntries entries)
  | .foreign _ => .null

def ofValues : List Value → List Datum
  | [] => []
  | v :: vs => ofValue v :: ofValues vs

def ofMembers : List (Text × Value) → List (Datum × Datum)
  | [] => []
  | (k, v) :: ms => (.string k, ofValue v) :: ofMembers ms

def ofEntries : List (Value × Value) → List (Datum × Datum)
  | [] => []
  | (k, v) :: es => (ofValue k, ofValue v) :: ofEntries es

end

def className : Datum → Text
  | null => "NoneType"
  | bool _ => "bool"
  | int _ => "int"
  | float _ => "float"
  | string _ => "str"
  | date _ => "date"
  | moment _ => "datetime"
  | bytes _ => "bytes"
  | list _ => "list"
  | pair .. => "tuple"
  | set _ => "set"
  | mapping _ => "dict"
  | again isMapping => if isMapping then "dict" else "list"

/-- The name of the class with that of its module. -/
def qualifiedName : Datum → Text
  | date _ => "datetime.date"
  | moment _ => "datetime.datetime"
  | d => d.className

/-- Zero, nothing and everything empty count as false. -/
def truth : Datum → Bool
  | null => false
  | bool b => b
  | int n => n ≠ 0
  | float x => !x.isZero
  | string t => !t.isEmpty
  | bytes bs => !bs.isEmpty
  | list items | set items => !items.isEmpty
  | mapping members => !members.isEmpty
  | date _ | moment _ | pair .. | again _ => true

/-- A byte as it shows between quotes. -/
def byteText (quote : CodePoint) (b : Byte) : Text :=
  if b.val < 0x20 || 0x7F ≤ b.val then
    if b.val = 9 || b.val = 10 || b.val = 13 then Quoted.escape quote (CodePoint.ofNat b.val)
    else "\\x" ++ Numeral.hex 2 b.val
  else Quoted.escape quote (CodePoint.ofNat b.val)

def bytesText (bs : List Byte) : Text :=
  let quote := Quoted.mark (bs.map fun b => CodePoint.ofNat b.val)
  "b" ++ [quote] ++ bs.flatMap (byteText quote) ++ [quote]

mutual

/-- A datum as it shows inside another one. -/
def quoted : Datum → Text
  | null => "None"
  | bool b => if b then "True" else "False"
  | int n => Numeral.ofInt n
  | float x => shownLayout.double x
  | string t => Quoted.encode t
  | date d => d.quoted
  | moment m => m.quoted
  | bytes bs => bytesText bs
  | list items => "[" ++ Text.join ", " (quotedItems items) ++ "]"
  | pair a b => "(" ++ quoted a ++ ", " ++ quoted b ++ ")"
  | set [] => "set()"
  | set items => "\x7b" ++ Text.join ", " (quotedItems items) ++ "\x7d"
  | mapping members => "\x7b" ++ Text.join ", " (quotedMembers members) ++ "\x7d"
  | again isMapping => if isMapping then "\x7b...\x7d" else "[...]"

def quotedItems : List Datum → List Text
  | [] => []
  | d :: ds => quoted d :: quotedItems ds

def quotedMembers : List (Datum × Datum) → List Text
  | [] => []
  | (k, d) :: ms => (quoted k ++ ": " ++ quoted d) :: quotedMembers ms

end

/-- Whether an integer has more digits than are ever written. -/
def isLong (n : Int) : Bool := Json.maxIntegerDigits < Numeral.length n.natAbs

mutual

/-- Whether an integer that is too long to be written stands in a datum. -/
def holdsLong : Datum → Bool
  | int n => isLong n
  | list items | set items => anyHoldsLong items
  | pair a b => holdsLong a || holdsLong b
  | mapping members => memberHoldsLong members
  | _ => false

def anyHoldsLong : List Datum → Bool
  | [] => false
  | d :: ds => holdsLong d || anyHoldsLong ds

def memberHoldsLong : List (Datum × Datum) → Bool
  | [] => false
  | (k, d) :: ms => holdsLong k || holdsLong d || memberHoldsLong ms

end

def tooLong : Fault := Json.EncodeError.longInteger.toFault

/-- A datum as it shows on its own. -/
def shown (d : Datum) : Except Fault Text :=
  if d.holdsLong then .error tooLong
  else
    match d with
    | string t => .ok t
    | date d => .ok d.text
    | moment m => .ok m.text
    | d => .ok d.quoted

/-- The text of a key in a document, where every key is a string. -/
def documentKey : Datum → Except Fault Text
  | string t => .ok t
  | null => .ok "null"
  | bool b => .ok (if b then "true" else "false")
  | int n => if isLong n then .error tooLong else .ok (Numeral.ofInt n)
  | float x => .ok (Json.doubleLayout.double x)
  | d => .error (Json.EncodeError.badKey d.qualifiedName).toFault

def circular : Fault := ⟨.value, "Circular reference detected"⟩

def notSerializable (d : Datum) : Fault := (Json.EncodeError.notSerializable d.className).toFault

mutual

/-- The datum as the value of a document, if it has one. -/
def toValue : Datum → Except Fault Value
  | null => .ok .null
  | bool b => .ok (.bool b)
  | int n => if isLong n then .error tooLong else .ok (.int n)
  | float x => .ok (.float x)
  | string t => .ok (.string t)
  | again _ => .error circular
  | list items => do return .array (← toValues items)
  | pair a b => do
    let a ← toValue a
    return .array [a, ← toValue b]
  | mapping members => do return .object (← toMembers members)
  | date d => .error (notSerializable (.date d))
  | moment m => .error (notSerializable (.moment m))
  | bytes bs => .error (notSerializable (.bytes bs))
  | set items => .error (notSerializable (.set items))

def toValues : List Datum → Except Fault (List Value)
  | [] => .ok []
  | d :: ds => do
    let v ← toValue d
    return v :: (← toValues ds)

def toMembers : List (Datum × Datum) → Except Fault (List (Text × Value))
  | [] => .ok []
  | (k, d) :: ms => do
    let key ← documentKey k
    let v ← toValue d
    return (key, v) :: (← toMembers ms)

end

/-- A number, where a truth value counts as one. -/
def number? : Datum → Option Value
  | bool b => some (.bool b)
  | int n => some (.int n)
  | float x => some (.float x)
  | _ => none

/-- Whether two data are equal as keys; what is no number is not equal to itself. -/
def sameKey (a b : Datum) : Bool :=
  match a, b with
  | null, null => true
  | string s, string t => s = t
  | date d, date e => d = e
  | moment m, moment n => m.isSame n
  | bytes x, bytes y => x = y
  | a, b =>
    match a.number?, b.number? with
    | some v, some w => v.compare? w = some .eq
    | _, _ => false

end Datum

end ReplySchema
