import ReplySchema.Schema.Basic

/-!
The written form of a schema: primitives by name, `[T]` for arrays, and the fields of an object in
order between braces. The hinted form adds a comment behind each type that has a label or may be
left out; the plain form has no comments.
-/

namespace ReplySchema

/-- `base` with the comment for a label and the optional mark, if there is anything to say. -/
def hintComment (base : Text) (label : Option Text) (optional : Bool) : Text :=
  match label, optional with
  | none, false => base
  | none, true => base ++ " /* optional */"
  | some l, false => base ++ " /* " ++ l ++ " */"
  | some l, true => base ++ " /* " ++ l ++ ", optional */"

/-- The comment for the marks of a node behind its text, where hints are wanted. -/
def Marks.annotate (m : Marks) (hints : Bool) (t : Text) : Text :=
  if hints then hintComment t m.label? m.optional else t

namespace Schema

mutual

/-- A node with the comments of the nodes below it, but without its own. -/
def body (hints : Bool) : Schema → Text
  | primitive _ k => k.name
  | array _ item => "[" ++ item.marks.annotate hints (body hints item) ++ "]"
  | object _ fields => "\x7b " ++ Text.join ", " (entries hints fields) ++ " \x7d"

def entries (hints : Bool) : List (Text × Schema) → List Text
  | [] => []
  | (key, child) :: rest =>
    (key ++ ": " ++ child.marks.annotate hints (body hints child)) :: entries hints rest

end

def plain (s : Schema) : Text := s.body false

def hinted (s : Schema) : Text := s.marks.annotate true (s.body true)

/-- The hinted form in angle brackets, behind the name of the schema's class. -/
def described (s : Schema) : Text := "<" ++ s.className ++ " " ++ s.hinted ++ ">"

end Schema

end ReplySchema
