import ReplySchema.Schema.Rule

/-!
Schemas: the shape of a document, with two marks at every node.
-/

namespace ReplySchema

structure Marks where
  rule : Option Rule
  optional : Bool

def Marks.plain : Marks := ⟨none, false⟩

def Marks.label? (m : Marks) : Option Text := m.rule.map Rule.label

inductive Primitive
  | string
  | number
  | boolean
deriving DecidableEq

inductive Schema
  | primitive (marks : Marks) (kind : Primitive)
  | array (marks : Marks) (item : Schema)
  | object (marks : Marks) (fields : List (Text × Schema))

namespace Primitive

def name : Primitive → Text
  | string => "string"
  | number => "number"
  | boolean => "boolean"

/-- A truth value is no number. -/
def accepts : Primitive → Value → Bool
  | string, .string _ => true
  | number, .int _ | number, .float _ => true
  | boolean, .bool _ => true
  | _, _ => false

end Primitive

namespace Schema

def marks : Schema → Marks
  | primitive m _ => m
  | array m _ => m
  | object m _ => m

def isOptional (s : Schema) : Bool := s.marks.optional

def kind : Schema → Text
  | primitive _ k => k.name
  | array .. => "array"
  | object .. => "object"

def className : Schema → Text
  | primitive _ .string => "StringSchema"
  | primitive _ .number => "NumberSchema"
  | primitive _ .boolean => "BooleanSchema"
  | array .. => "ArraySchema"
  | object .. => "ObjectSchema"

def withMarks (m : Marks) : Schema → Schema
  | primitive _ k => primitive m k
  | array _ item => array m item
  | object _ fields => object m fields

end Schema

end ReplySchema
