import ReplySchema.Failure

/-!
Rules: a caller's test together with the label that shows it in a prompt. A label is not blank and
cannot close the comment it is shown in.
-/

namespace ReplySchema

/-- The answer of a test, and what the test noted down on the way. -/
structure Verdict where
  remarks : List Value
  answer : Except Raised Bool

abbrev Test := Value → Verdict

structure Rule where
  label : Text
  test : Test

inductive BuildError
  | blankLabel
  | closingLabel
  | notCallable
  | namelessRule
  | itemNotSchema (className : Text)
  | fieldNotSchema (key className : Text)
  | keyNotString (className : Text)
  | fieldTwice (key : Text)
deriving DecidableEq

def BuildError.fault : BuildError → Fault
  | .blankLabel => ⟨.value, "label must be a non-empty string"⟩
  | .closingLabel => ⟨.value, "label must not contain '*/', it would close the hint comment"⟩
  | .notCallable => ⟨.type, "validator must be callable"⟩
  | .namelessRule => ⟨.type, "lambda validators need an explicit display label"⟩
  | .itemNotSchema className => ⟨.type, "array item must be a Schema, got " ++ className⟩
  | .fieldNotSchema key className =>
    ⟨.type, "field '" ++ key ++ "' must be a Schema, got " ++ className⟩
  | .keyNotString className => ⟨.type, "object keys must be strings, got " ++ className⟩
  | .fieldTwice key => ⟨.value, "field '" ++ key ++ "' given twice"⟩

/-- What a caller can offer as a rule. -/
inductive RuleSource
  | rule (r : Rule)
  | function (name : Option Text) (test : Test)
  | notCallable

namespace Rule

def checkLabel (label : Text) : Except BuildError Text :=
  if label.isBlank then .error .blankLabel
  else if label.contains "*/" then .error .closingLabel
  else .ok label

/-- A rule with the label given, which has to be a string. -/
def make (label : Value) (test : Test) : Except BuildError Rule :=
  match label with
  | .string t => (checkLabel t).map fun label => ⟨label, test⟩
  | _ => .error .blankLabel

/-- A function names its rule unless a label is given; anonymous functions have no name to give. -/
def resolve (source : RuleSource) (label : Value) : Except BuildError Rule :=
  match source, label with
  | .rule r, .null => .ok r
  | .rule r, label => make label r.test
  | .notCallable, _ => .error .notCallable
  | .function name test, .null =>
    match name with
    | none => .error .namelessRule
    | some n => if n = [] ∨ n = "<lambda>" then .error .namelessRule else make (.string n) test
  | .function _ test, label => make label test

end Rule

end ReplySchema
