import ReplySchema.Cli.Emoji
import ReplySchema.Text.Columns

/-!
Console markup. A tag in brackets styles the text behind it and does not show; a backslash in front
takes a bracket as it is. Text is escaped before it goes between tags, so that what looks like a tag
in it shows.
-/

namespace ReplySchema.Markup

inductive MarkupError
  | nothingToClose (place : Nat)
  | notOpen (tag : Text) (place : Nat)

def MarkupError.message : MarkupError → Text
  | .nothingToClose place =>
    "closing tag '[/]' at position " ++ Numeral.ofNat place ++ " has nothing to close"
  | .notOpen tag place =>
    "closing tag '[" ++ tag ++ "]' at position " ++ Numeral.ofNat place ++ " doesn't match any open tag"

def isBackslash (c : CodePoint) : Bool := c = '\\'

def beginsTag (c : CodePoint) : Bool := c.isAsciiLower || c = '/' || c = '@' || c = '#'

/--
The tag in brackets at the front of a text, without the brackets, and the text behind it. The first
character tells a tag from other things in brackets, and no bracket stands in a tag.
-/
def tag? : Text → Option (Text × Text)
  | b :: c :: t =>
    if b = '[' && beginsTag c then
      let body := t.takeWhile fun d : CodePoint => d ≠ ']' && d ≠ '['
      match Text.dropLead? "]" (t.drop body.length) with
      | some rest => some (c :: body, rest)
      | none => none
    else none
  | _ => none

/-- Doubles the backslashes in front of each tag and adds one. -/
def escapeTags (t : Text) : Text :=
  match t with
  | [] => []
  | c :: r =>
    let slashes := (c :: r).takeWhile isBackslash
    let behind := (c :: r).drop slashes.length
    match tag? behind with
    | some (body, rest) =>
      if _ : rest.length < (c :: r).length then
        slashes ++ slashes ++ "\\[" ++ body ++ "]" ++ escapeTags rest
      else c :: r
    | none => c :: escapeTags r
termination_by t.length
decreasing_by all_goals simp only [List.length_cons] at *; omega

/-- The text in a form that renders as itself; a single backslash at the end is doubled. -/
def escape (t : Text) : Text :=
  let escaped := escapeTags t
  if escaped.endsWith "\\" && !escaped.endsWith "\\\\" then escaped ++ "\\" else escaped

/-- Puts emoji in the place of their names. -/
def withEmoji (t : Text) : Text :=
  match t with
  | [] => []
  | c :: r =>
    if c = ':' then
      let name := r.takeWhile fun d : CodePoint => d ≠ ':' && !d.isBlank
      match Text.dropLead? ":" (r.drop name.length) with
      | some rest =>
        if _ : rest.length < (c :: r).length then
          (Emoji.ofName? name).getD (":" ++ name ++ ":") ++ withEmoji rest
        else c :: r
      | none => c :: withEmoji r
    else c :: withEmoji r
termination_by t.length
decreasing_by all_goals simp only [List.length_cons] at *; omega

/-- A backslash in front of a bracket does not show. -/
def withoutBracketSlashes : Text → Text
  | [] => []
  | [c] => [c]
  | c :: d :: t =>
    if c = '\\' && d = '[' then '[' :: withoutBracketSlashes t
    else c :: withoutBracketSlashes (d :: t)

def plainText (t : Text) : Text := withEmoji (withoutBracketSlashes t)

/-- The names of the open tags after one more tag. -/
def change (place : Nat) (tag : Text) (opened : List Text) : Except MarkupError (List Text) :=
  let name := (Text.trim (tag.takeWhile fun c : CodePoint => c ≠ '=')).lower
  match Text.dropLead? "/" name with
  | none => .ok (name :: opened)
  | some closed =>
    match Text.trim closed, opened with
    | [], [] => .error (.nothingToClose place)
    | [], _ :: rest => .ok rest
    | closed, opened =>
      if opened.contains closed then .ok (opened.erase closed) else .error (.notOpen tag place)

/-- Renders markup from `place` on, where `plain` was read since the last tag, in reverse. -/
def renderFrom (place : Nat) (plain : Text) (opened : List Text) (t : Text) :
    Except MarkupError Text :=
  match t with
  | [] => .ok (plainText plain.reverse)
  | c :: r =>
    let slashes := (c :: r).takeWhile isBackslash
    let behind := (c :: r).drop slashes.length
    match tag? behind with
    | none => renderFrom (place + 1) (c :: plain) opened r
    | some (tag, rest) =>
      if _ : rest.length < (c :: r).length then
        let shown := plainText plain.reverse ++ slashes.take (slashes.length / 2)
        let next := place + ((c :: r).length - rest.length)
        if slashes.length % 2 = 1 then do
          return shown ++ plainText ("[" ++ tag ++ "]") ++ (← renderFrom next [] opened rest)
        else do
          let opened ← change (place + slashes.length) tag opened
          return shown ++ (← renderFrom next [] opened rest)
      else .ok (plainText plain.reverse)
termination_by t.length
decreasing_by all_goals simp only [List.length_cons] at *; omega

/-- Control characters that move the cursor do not reach the console. -/
def isDropped (c : CodePoint) : Bool :=
  c.val = 7 || c.val = 8 || c.val = 11 || c.val = 12 || c.val = 13

/-- The lines of the console that a text fills; lines too long for it are not broken. -/
def layOut (t : Text) : Text :=
  Text.join "\n" ((Text.splitOn '\n' (t.filter fun c => !isDropped c)).map Text.expandTabs)

/-- The text that markup shows as. -/
def render (t : Text) : Except MarkupError Text := (renderFrom 0 [] [] t).map layOut

end ReplySchema.Markup
