import ReplySchema.Text.Printable

/-!
Exceptions that are not about a document: misuse of the library, and whatever a caller's own code
raises. They pass through checks and wrappers untouched.
-/

namespace ReplySchema

/-- The class of an exception, by which a log record names it. -/
inductive FaultClass
  | value
  | key
  | runtime
  | type
  | overflow
  | template
  | jsonSyntax
  | index
  | attribute
  | recursion
deriving DecidableEq

structure Fault where
  fault : FaultClass
  text : Text
deriving DecidableEq

def Fault.tooDeep : Fault := ⟨.recursion, "maximum recursion depth exceeded"⟩

def FaultClass.name : FaultClass → Text
  | .value => "ValueError"
  | .key => "KeyError"
  | .runtime => "RuntimeError"
  | .type => "TypeError"
  | .overflow => "OverflowError"
  | .template => "PromptTemplateError"
  | .jsonSyntax => "JSONDecodeError"
  | .index => "IndexError"
  | .attribute => "AttributeError"
  | .recursion => "RecursionError"

/-- A missing key is shown quoted; the other classes carry their message. -/
def Fault.message (f : Fault) : Text :=
  match f.fault with
  | .key => Quoted.encode f.text
  | _ => f.text

end ReplySchema
