import ReplySchema.Double.Basic
import ReplySchema.Text.Basic

/-!
The values that a document denotes, and the few others that a caller can hand in. Integers and
doubles stay apart; an object lists its members in the order in which their keys first stood. Only
a caller can have keys that are no strings.
-/

namespace ReplySchema

/-- Values that no document denotes. -/
inductive Foreign
  | set
  | bytes
  | byteArray
  | complex
  | plainObject
  | decimal
deriving DecidableEq

inductive Value
  | null
  | bool (b : Bool)
  | int (n : Int)
  | float (x : Double)
  | string (t : Text)
  | array (items : List Value)
  | object (members : List (Text × Value))
  /-- An object with keys of any kind. -/
  | mapping (entries : List (Value × Value))
  | tuple (items : List Value)
  | foreign (f : Foreign)

/-- The pair list with `key` bound to `a`: a new key goes last, an old one keeps its place. -/
def assign {α : Type} (key : Text) (a : α) : List (Text × α) → List (Text × α)
  | [] => [(key, a)]
  | (k, b) :: rest => if k = key then (k, a) :: rest else (k, b) :: assign key a rest

def find? {α : Type} (key : Text) : List (Text × α) → Option α
  | [] => none
  | (k, a) :: rest => if k = key then some a else find? key rest

namespace Foreign

def className : Foreign → Text
  | .set => "set"
  | .bytes => "bytes"
  | .byteArray => "bytearray"
  | .complex => "complex"
  | .plainObject => "object"
  | .decimal => "Decimal"

/-- The empty collections are false, all else is true. -/
def truth : Foreign → Bool
  | .set | .bytes | .byteArray => false
  | .complex | .plainObject | .decimal => true

end Foreign

namespace Value

/-- The members of an object; keys that are no strings are never asked for. -/
def members? : Value → Option (List (Text × Value))
  | .object members => some members
  | .mapping entries => some (entries.filterMap member?)
  | _ => none
where
  member? : Value × Value → Option (Text × Value)
    | (.string key, v) => some (key, v)
    | _ => none

/-- The name of the value's class in messages about values that are not schemas or text. -/
def className : Value → Text
  | .null => "NoneType"
  | .bool _ => "bool"
  | .int _ => "int"
  | .float _ => "float"
  | .string _ => "str"
  | .array _ => "list"
  | .object _ | .mapping _ => "dict"
  | .tuple _ => "tuple"
  | .foreign f => f.className

/-- The name of the class with that of its module. -/
def qualifiedName : Value → Text
  | .foreign .decimal => "decimal.Decimal"
  | v => v.className

/-- The name of the value's JSON kind; a value outside JSON goes by its class. -/
def kind : Value → Text
  | .null => "null"
  | .bool _ => "boolean"
  | .int _ | .float _ => "number"
  | .string _ => "string"
  | .array _ => "array"
  | .object _ | .mapping _ => "object"
  | .tuple _ => "tuple"
  | .foreign f => f.className

/-- Zero, nothing and everything empty count as false. -/
def truth : Value → Bool
  | .null => false
  | .bool b => b
  | .int n => n ≠ 0
  | .float x => !x.isZero
  | .string t => !t.isEmpty
  | .array items | .tuple items => !items.isEmpty
  | .object members => !members.isEmpty
  | .mapping entries => !entries.isEmpty
  | .foreign f => f.truth

/-- The exact order of two numbers; a truth value counts as zero or one. -/
def compare? : Value → Value → Option Ordering
  | .float x, .float y => x.compare? y
  | .float x, v => (whole? v).bind fun k => x.compareInt? k
  | v, .float y => (whole? v).bind fun k => (y.compareInt? k).map Ordering.swap
  | v, w => (whole? v).bind fun j => (whole? w).map fun k => compare j k
where
  whole? : Value → Option Int
    | .int n => some n
    | .bool b => some (if b then 1 else 0)
    | _ => none

end Value

end ReplySchema
