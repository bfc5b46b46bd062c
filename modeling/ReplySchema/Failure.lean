import ReplySchema.Fault
import ReplySchema.Json.Print

/-!
What can be wrong with a document: a cause, and around it the positions from the root of the
document to the value that has it.
-/

namespace ReplySchema

/-- One step from a container to what it holds. -/
inductive Step
  | key (k : Text)
  | index (i : Int)
deriving DecidableEq

abbrev Path := List Step

inductive Failure
  | plain (message : Text)
  | invalidJson (detail : Text)
  | typeMismatch (expected actual : Text)
  | missingKey (key : Text)
  | validationFailed (message valueJson : Text)
  | atItem (index : Int) (inner : Failure)
  | atField (key : Text) (inner : Failure)
deriving DecidableEq

namespace Failure

def message : Failure → Text
  | plain message => message
  | invalidJson detail => "Invalid JSON: " ++ detail
  | typeMismatch expected actual => "Expected " ++ expected ++ ", got " ++ actual
  | missingKey key => "Missing required property: " ++ key
  | validationFailed message _ => message
  | atItem index inner =>
    "Array item at index " ++ Numeral.ofInt index ++ ": " ++ inner.message
  | atField key inner => "Property '" ++ key ++ "': " ++ inner.message

def path : Failure → Path
  | atItem index inner => .index index :: inner.path
  | atField key inner => .key key :: inner.path
  | _ => []

/-- The innermost failure. -/
def root : Failure → Failure
  | atItem _ inner => inner.root
  | atField _ inner => inner.root
  | f => f

def name : Failure → Text
  | plain _ => "SchemaError"
  | invalidJson _ => "InvalidJsonError"
  | typeMismatch .. => "TypeMismatchError"
  | missingKey _ => "MissingRequiredPropertyError"
  | validationFailed .. => "ValidationFailedError"
  | atItem .. => "ArrayItemError"
  | atField .. => "PropertyError"

/-- The failure as seen from the container that holds the failing value at `step`. -/
def under (step : Step) (f : Failure) : Failure :=
  match step with
  | .key k => atField k f
  | .index i => atItem i f

end Failure

/-- What a check can raise. -/
inductive Raised
  | failure (f : Failure)
  | fault (f : Fault)
deriving DecidableEq

namespace Raised

def name : Raised → Text
  | failure f => f.name
  | fault f => f.fault.name

def message : Raised → Text
  | failure f => f.message
  | fault f => f.message

/-- Only failures take on a position. -/
def under (step : Step) : Raised → Raised
  | failure f => failure (f.under step)
  | fault f => fault f

end Raised

def Json.EncodeError.toFault (e : Json.EncodeError) : Fault :=
  match e with
  | .notSerializable _ | .badKey _ => ⟨.type, e.message⟩
  | .longInteger => ⟨.value, e.message⟩
  | .tooDeep => ⟨.recursion, e.message⟩

end ReplySchema
