import ReplySchema.Text.Basic

/-!
A place in a text with the text that follows it. Lines end at a line feed, at the next line control,
or at a line or paragraph separator; the first two read as a line feed and the others as themselves.
-/

namespace ReplySchema.Yaml

def isBreak (c : CodePoint) : Bool :=
  c = '\n' || c.val = 0x85 || c.val = 0x2028 || c.val = 0x2029

def isBlank (c : CodePoint) : Bool := c = ' ' || c = '\t'

def isSpace (c : CodePoint) : Bool := isBlank c || isBreak c

/-- Whether a line or the text ends in front of the given rest. -/
def endsLine : Text → Bool
  | [] => true
  | c :: _ => isBreak c

/-- Whether a space, a line end or the end of the text comes first; tabs do not count. -/
def endsWord : Text → Bool
  | [] => true
  | c :: _ => c = ' ' || isBreak c

/-- Whether white space or the end of the text comes first. -/
def endsToken : Text → Bool
  | [] => true
  | c :: _ => isSpace c

/-- What the line end at the front of the text reads as, and the text after it. -/
def lineBreak? : Text → Option (CodePoint × Text)
  | c :: t =>
    if c = '\n' || c.val = 0x85 then some ('\n', t) else if isBreak c then some (c, t) else none
  | [] => none

/-- Whether the line in front of which the text stands separates documents. -/
def separatesDocuments (t : Text) : Bool :=
  (t.startsWith "---" || t.startsWith "...") && endsToken (t.drop 3)

structure Cursor where
  rest : Text
  index : Nat
  line : Nat
  column : Nat

namespace Cursor

def start (t : Text) : Cursor := ⟨t, 0, 0, 0⟩

/-- Past one code point; a byte order mark takes no room. -/
def next (c : Cursor) : Cursor :=
  match c.rest with
  | [] => c
  | x :: t =>
    if isBreak x then ⟨t, c.index + 1, c.line + 1, 0⟩
    else if x.isByteOrderMark then ⟨t, c.index + 1, c.line, c.column⟩
    else ⟨t, c.index + 1, c.line, c.column + 1⟩

def skip (n : Nat) (c : Cursor) : Cursor := Nat.repeat next n c

/-- Forward to where the text `t` is left. -/
def skipTo (t : Text) (c : Cursor) : Cursor := c.skip (c.rest.length - t.length)

def skipWhile (p : CodePoint → Bool) (c : Cursor) : Cursor := c.skipTo (c.rest.dropWhile p)

def skipSpaces (c : Cursor) : Cursor := c.skipWhile (· = ' ')

/-- Past the rest of the line. -/
def skipLine (c : Cursor) : Cursor := c.skipWhile fun x => !isBreak x

/-- Past spaces and a comment. -/
def skipComment (c : Cursor) : Cursor :=
  let c := c.skipSpaces
  if c.rest.startsWith "#" then c.skipLine else c

end Cursor

end ReplySchema.Yaml
