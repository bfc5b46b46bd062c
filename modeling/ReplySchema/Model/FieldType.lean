import ReplySchema.Text.Basic
import ReplySchema.Value.Shown

/-!
Field types: the types that the fields of a record model declare. Collections and unions come in two
spellings, as a typing construct or as a plain class, which show differently; two unions are the
same whatever their spelling and order, and so are two sets of literals whatever their order.
-/

namespace ReplySchema

inductive PlainClass
  | string
  | integer
  | float
  | boolean
  | bytes
  | nothing
  | complex
  | list
  | dict
  | tuple
  | object
  | decimal
  | stringEnum
  | integerEnum
deriving DecidableEq

inductive Collection
  | list
  | sequence
  | set
  | tuple
  | dict
deriving DecidableEq

/-- How a field type is spelled: as a construct of the typing module, or with the class itself. -/
inductive Spelling
  | typing
  | plain
deriving DecidableEq

inductive FieldType
  | any
  | plain (c : PlainClass)
  /-- The list construct without an item type. -/
  | bareList
  | collection (spelling : Spelling) (c : Collection) (args : List FieldType)
  /-- Tuples of any length with items of one type. -/
  | variadic (item : FieldType)
  /-- A type with so many remarks attached, none of which matters. -/
  | annotated (inner : FieldType) (remarks : Nat)
  | union (spelling : Spelling) (members : List FieldType)
  | literal (values : List Value)
  | model (id : Nat) (name : Text)

namespace PlainClass

/-- The name of a class inside another field type. -/
def name : PlainClass → Text
  | string => "str"
  | integer => "int"
  | float => "float"
  | boolean => "bool"
  | bytes => "bytes"
  | nothing => "NoneType"
  | complex => "complex"
  | list => "list"
  | dict => "dict"
  | tuple => "tuple"
  | object => "object"
  | decimal => "decimal.Decimal"
  | stringEnum => "models.StrEnum"
  | integerEnum => "models.IntEnum"

end PlainClass

namespace FieldType

def collectionName : Spelling → Collection → Text
  | .typing, .list => "typing.List"
  | .typing, .sequence => "typing.Sequence"
  | .typing, .set => "typing.Set"
  | .typing, .tuple => "typing.Tuple"
  | .typing, .dict => "typing.Dict"
  | .plain, .list => "list"
  | .plain, .sequence => "collections.abc.Sequence"
  | .plain, .set => "set"
  | .plain, .tuple => "tuple"
  | .plain, .dict => "dict"

def isNothing : FieldType → Bool
  | plain .nothing => true
  | _ => false

/-- Whether a field type is a construct of the typing module, which draws unions to itself. -/
def isConstruct : FieldType → Bool
  | bareList | literal _ | annotated .. | collection .typing .. | union .typing _ => true
  | _ => false

/-- The members of a union, and any other type on its own. -/
def members : FieldType → List FieldType
  | union _ as => as
  | a => [a]

/-- Arguments in brackets; none at all show as an empty tuple. -/
def bracketed (name : Text) (args : List Text) : Text :=
  let inside : Text := if args.isEmpty then "()" else Text.join ", " args
  name ++ "[" ++ inside ++ "]"

mutual

/-- A field type as it shows inside another one. -/
def inner : FieldType → Text
  | any => "typing.Any"
  | plain c => c.name
  | bareList => "typing.List"
  | collection spelling c args => bracketed (collectionName spelling c) (inners args)
  | variadic item => "tuple[" ++ inner item ++ ", ...]"
  | annotated a n =>
    bracketed "typing.Annotated" (inner a :: List.replicate n "'meta'")
  | union .plain members => Text.join " | " (alternatives members)
  | union .typing [a, b] =>
    if a.isNothing then "typing.Optional[" ++ inner b ++ "]"
    else if b.isNothing then "typing.Optional[" ++ inner a ++ "]"
    else "typing.Union[" ++ inner a ++ ", " ++ inner b ++ "]"
  | union .typing members => bracketed "typing.Union" (inners members)
  | literal values => bracketed "typing.Literal" (values.map Value.quoted)
  | model _ name => "models." ++ name

def inners : List FieldType → List Text
  | [] => []
  | a :: as => inner a :: inners as

/-- The members of a union between bars, where the class of nothing shows as nothing. -/
def alternatives : List FieldType → List Text
  | [] => []
  | a :: as => (if a.isNothing then "None" else inner a) :: alternatives as

end

/-- A field type as it shows on its own: classes say that they are classes. -/
def shown : FieldType → Text
  | plain c => "<class '" ++ c.name ++ "'>"
  | model _ name => "<class 'models." ++ name ++ "'>"
  | a => a.inner

def equalLiterals : Value → Value → Bool
  | .null, .null => true
  | .bool a, .bool b => a == b
  | .int a, .int b => a == b
  | .float x, .float y => x.compare? y = some .eq
  | .string s, .string t => s == t
  | _, _ => false

mutual

/-- Whether two field types count as one. -/
def same : FieldType → FieldType → Bool
  | any, any => true
  | plain a, plain b => a = b
  | bareList, bareList => true
  | collection s c as, collection t d bs => s = t && c = d && sameAll as bs
  | variadic a, variadic b => same a b
  | annotated a m, annotated b n => same a b && m = n
  | union _ as, union _ bs =>
    allWithin as bs && bs.all fun b => anySame b as
  | literal vs, literal ws =>
    (vs.all fun v => ws.any (equalLiterals v)) && (ws.all fun w => vs.any (equalLiterals w))
  | model i _, model j _ => i = j
  | _, _ => false

def sameAll : List FieldType → List FieldType → Bool
  | [], [] => true
  | a :: as, b :: bs => same a b && sameAll as bs
  | _, _ => false

/-- Whether each of the first field types is the same as one of the second. -/
def allWithin : List FieldType → List FieldType → Bool
  | [], _ => true
  | a :: as, bs => (bs.any fun b => same a b) && allWithin as bs

/-- Whether one of the second field types is the same as the first. -/
def anySame (b : FieldType) : List FieldType → Bool
  | [] => false
  | a :: as => same a b || anySame b as

end

end FieldType

end ReplySchema
