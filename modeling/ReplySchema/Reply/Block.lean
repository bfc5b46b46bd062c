import ReplySchema.Fault
import ReplySchema.Reply.Reasoning

/-!
The JSON block of a reply: what stands inside the first Markdown fence, or else in the whole reply,
from the first opening bracket to the last closing bracket of its kind.
-/

namespace ReplySchema.Reply

inductive BlockError
  | noText
  | emptyText
  | noBlock
  | unclosed
deriving DecidableEq

def BlockError.message : BlockError → Text
  | .noText => "Input text must not be None"
  | .emptyText => "Input text must not be empty"
  | .noBlock => "No JSON object/array found in text"
  | .unclosed => "Malformed JSON payload"

def BlockError.fault (e : BlockError) : Fault := ⟨.value, e.message⟩

def fence : Text := "\x60\x60\x60"

/-- What stands between the first two fences, without the word that may name the language as JSON. -/
def fenced? (text : Text) : Option Text :=
  match Text.splitAt? fence text with
  | none => none
  | some (_, t) =>
    let inside := ((spelling? "json" t).map Prod.snd).getD t
    (Text.splitAt? fence inside.dropBlanks).map Prod.fst

/-- The text without what follows the last `c`, if `c` stands in it. -/
def upToLast? (c : CodePoint) (t : Text) : Option Text :=
  match t.reverse.dropWhile (fun d => d ≠ c) with
  | [] => none
  | r => some r.reverse

def bracketed (text : Text) : Except BlockError Text :=
  match text.dropWhile fun c : CodePoint => c ≠ '\x7b' && c ≠ '[' with
  | [] => .error .noBlock
  | c :: t =>
    match upToLast? (if c = '\x7b' then '\x7d' else ']') (c :: t) with
    | some block => .ok block
    | none => .error .unclosed

/-- The JSON block of a text. -/
def block (text : Text) : Except BlockError Text :=
  if text.isBlank then .error .emptyText
  else
    let cleaned := (dropReasoning text.trim).trim
    bracketed (((fenced? cleaned).map Text.trim).getD cleaned)

/-- The JSON block of a reply that may be missing. -/
def blockOf : Option Text → Except BlockError Text
  | none => .error .noText
  | some text => block text

end ReplySchema.Reply
