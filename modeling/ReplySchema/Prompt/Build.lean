import ReplySchema.Double.Basic
import ReplySchema.Prompt.Template
import ReplySchema.Schema.Written

/-!
The prompt that asks a model for data in the shape of a schema. With hints the shape is shown with
its comments and the system prompt explains them. Its size in tokens is estimated at four characters to
the token.
-/

namespace ReplySchema

structure Prompt where
  system : Text
  user : Text

namespace Prompt

def length (p : Prompt) : Nat := p.system.length + p.user.length

def systemText (hints : Bool) : Text :=
  Text.join "\n\n" (Template.shared.text :: if hints then [Template.hints.text] else [])

def defaultTask : Text :=
  "Extract the information from the input text and format it according to the schema."

/-- The task to set; without a task, or with an empty one, it is to extract. -/
def taskOrDefault : Option Text → Text
  | none | some [] => defaultTask
  | some task => task

def build (hints : Bool) (task : Option Text) (s : Schema) (input : Text) : Prompt where
  system := systemText hints
  user := Text.join "\n\n"
    [(taskOrDefault task).trim,
      "Input text: " ++ input.trim,
      "Please respond with JSON that matches this structure:\n" ++ (if hints then s.hinted else s.plain),
      "Return only the JSON, no additional text."]

def notSchema (className : Text) : Fault := ⟨.type, "schema must be a Schema, got " ++ className⟩

end Prompt

/-- A quarter of the characters as the nearest double, rounded; a text is at least one token long. -/
def estimateTokens (chars : Int) : Except Fault Nat :=
  if chars ≤ 0 then .ok 0
  else
    match Magnitude.ofRatio? chars.toNat 4 with
    | some m => .ok (max 1 (roundDiv m.units Magnitude.unitsPerOne))
    | none => .error ⟨.overflow, "integer division result too large for a float"⟩

end ReplySchema
