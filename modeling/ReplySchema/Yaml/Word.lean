import ReplySchema.Text.Encoding
import ReplySchema.Yaml.Scalar

/-!
The words of a text that are no scalars: names of anchors, tags and directives.
-/

namespace ReplySchema.Yaml

def isNameChar (c : CodePoint) : Bool :=
  c.isDigit || c.isAsciiUpper || c.isAsciiLower || c = '-' || c = '_'

/-- A name at the front of the text, perhaps an empty one. -/
def name (t : Text) : Text × Text := (t.takeWhile isNameChar, t.dropWhile isNameChar)

/-- The name of an anchor. -/
def anchorName (t : Text) : Scan (Text × Text) :=
  let (n, rest) := name t
  if n.isEmpty then malformed
  else if endsToken rest || rest.head?.any fun c => Text.contains "?:,]\x7d%@\x60" [c] then
    return (n, rest)
  else malformed

/-- The handle of a tag: one exclamation mark, or a name between two of them. -/
def tagHandle (t : Text) : Scan (Text × Text) :=
  match Text.dropLead? "!" t with
  | none => malformed
  | some r =>
    if r.startsWith " " then return ("!", r)
    else
      let (n, rest) := name r
      match Text.dropLead? "!" rest with
      | some rest => return ("!" ++ n ++ "!", rest)
      | none => malformed

def isUriChar (c : CodePoint) : Bool := isNameChar c || Text.contains ";/?:@&=+$,.!~*'()[]%" [c]

/-- The bytes that a run of escapes spells out. -/
def escapedBytes : Text → Scan (List Byte × Text)
  | [] => return ([], [])
  | [c] => if c = '%' then malformed else return ([], [c])
  | [c, d] => if c = '%' then malformed else return ([], [c, d])
  | c :: a :: b :: t =>
    if c = '%' then
      match Numeral.hexToNat? [a, b] with
      | some n => (escapedBytes t).map fun (bs, rest) => (Byte.ofNat n :: bs, rest)
      | none => malformed
    else return ([], c :: a :: b :: t)

/-- The text that bytes spell out in UTF-8, which has no surrogates. -/
def ofUtf8 (bytes : List Byte) : Scan Text :=
  match Codec.utf8.read bytes.length [] bytes with
  | .ok t => if t.any CodePoint.isSurrogate then malformed else return t
  | .error _ => malformed

/-- An address at the front of the text, its escapes resolved. -/
def uri (t : Text) : Scan (Text × Text) :=
  match t with
  | [] => return ([], [])
  | c :: r =>
    if c = '%' then
      match escapedBytes (c :: r) with
      | .error e => .error e
      | .ok (bytes, rest) =>
        if _ : rest.length < (c :: r).length then do
          let piece ← ofUtf8 bytes
          let (more, rest) ← uri rest
          return (piece ++ more, rest)
        else malformed
    else if isUriChar c then (uri r).map fun (more, rest) => (c :: more, rest)
    else return ([], c :: r)
termination_by t.length
decreasing_by all_goals simp only [List.length_cons] at *; omega

def nonemptyUri (t : Text) : Scan (Text × Text) :=
  if t.head?.any isUriChar then uri t else malformed

/-- A tag; one that is not spelled out in full has a handle. -/
structure Tag where
  handle : Option Text
  suffix : Text

/-- The tag whose exclamation mark is at the front of the text. -/
def tag (t : Text) : Scan (Tag × Text) := do
  let body := t.drop 1
  let (tag, rest) ←
    match Text.dropLead? "<" body with
    | some r => do
      let (suffix, rest) ← nonemptyUri r
      match Text.dropLead? ">" rest with
      | some rest => pure (⟨none, suffix⟩, rest)
      | none => malformed
    | none =>
      if endsToken body then pure (⟨none, "!"⟩, body)
      else do
        let word := body.takeWhile fun c : CodePoint => c ≠ ' ' && !isBreak c
        let (handle, r) ← if word.any (· = '!') then tagHandle t else pure ("!", body)
        let (suffix, rest) ← nonemptyUri r
        pure (⟨some handle, suffix⟩, rest)
  if endsWord rest then return (tag, rest) else malformed

inductive Directive
  | version (major : Nat)
  | handle (name lead : Text)
  | unknown

def dropSpaces (t : Text) : Text := t.dropWhile (· = ' ')

/-- A number of a version. -/
def versionNumber (t : Text) : Scan (Nat × Text) :=
  if t.head?.any CodePoint.isDigit then
    return (Numeral.toNat (t.takeWhile CodePoint.isDigit), t.dropWhile CodePoint.isDigit)
  else malformed

def versionDirective (t : Text) : Scan (Directive × Text) := do
  let (major, rest) ← versionNumber (dropSpaces t)
  match Text.dropLead? "." rest with
  | none => malformed
  | some rest => do
    let (_, rest) ← versionNumber rest
    if endsWord rest then return (.version major, rest) else malformed

def handleDirective (t : Text) : Scan (Directive × Text) := do
  let (handle, rest) ← tagHandle (dropSpaces t)
  if !rest.startsWith " " then malformed
  else
    let (lead, rest) ← nonemptyUri (dropSpaces rest)
    if endsWord rest then return (.handle handle lead, rest) else malformed

/-- The directive behind a percent sign; those of unknown names go to the end of the line. -/
def directive (t : Text) : Scan (Directive × Text) :=
  let (n, rest) := name t
  if n.isEmpty || !endsWord rest then malformed
  else if n = "YAML" then versionDirective rest
  else if n = "TAG" then handleDirective rest
  else return (.unknown, rest.dropWhile fun c => !isBreak c)

end ReplySchema.Yaml
