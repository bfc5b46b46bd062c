import ReplySchema.Fault

/-!
The packaged texts of a system prompt, found by the path of their file below the prompts.
-/

namespace ReplySchema

structure Template where
  path : List Text
  text : Text

namespace Template

/-- What the model is asked to do, and how the shape of its answer is written. -/
def shared : Template where
  path := ["extract", "shared_v1.md"]
  text := Text.join "\n"
    ["You convert unstructured input into structured data.",
      "Reply with a single JSON document and nothing else: no Markdown fences, no prefixes, " ++
        "no commentary.",
      "The required shape is written in a compact notation: \x60string\x60, \x60number\x60 and " ++
        "\x60boolean\x60 are JSON primitives, \x60[T]\x60 is an array whose items all have type T, " ++
        "and \x60\x7b key: T, ... \x7d\x60 is an object with exactly those keys."]

/-- How the comments behind the types are to be read. -/
def hints : Template where
  path := ["extract", "hints_v1.md"]
  text := Text.join "\n"
    ["A \x60/* ... */\x60 comment after a type states a rule the value must satisfy; every value " ++
        "has to pass its rule.",
      "A comment containing \x60optional\x60 marks an object key that may be left out entirely " ++
        "when the input has no value for it. Never emit null for a missing value."]

def all : List Template := [shared, hints]

def isDirectory (path : List Text) : Bool :=
  all.any fun t => path.isPrefixOf t.path && path ≠ t.path

/-- One name further down; a dot stays, two dots go up from a directory. -/
def descend (path : List Text) (name : Text) : Option (List Text) :=
  if name = [] || name = "." then some path
  else if name = ".." then
    if isDirectory path && !path.isEmpty then some path.dropLast else none
  else some (path ++ [name])

/-- The template at a relative path. -/
def find? (path : Text) : Option Template :=
  if path.startsWith "/" then none
  else ((Text.splitOn '/' path).foldlM descend []).bind fun names =>
    all.find? fun t => t.path = names

def load (path : Text) : Except Fault Text :=
  match find? path with
  | some t => .ok t.text
  | none => .error ⟨.template, "Missing prompt template: " ++ path⟩

end Template

end ReplySchema
