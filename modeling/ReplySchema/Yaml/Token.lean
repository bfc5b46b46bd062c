import ReplySchema.Yaml.Word

/-!
The tokens of a text. Block collections are opened and closed by indentation. That a token begins a
key shows only at the colon behind it, so the scanner remembers where a key may have begun and puts
the sign of the key in there.
-/

namespace ReplySchema.Yaml

inductive Token
  | directive (d : Directive)
  | documentStart
  | documentEnd
  | blockSequence
  | blockMapping
  | blockEnd
  | flowSequence
  | flowSequenceEnd
  | flowMapping
  | flowMappingEnd
  | flowEntry
  | blockEntry
  | key
  | value
  | reference (name : Text)
  | anchor (name : Text)
  | tag (t : Tag)
  | scalar (text : Text) (plain : Bool)

/-- The tokens of a text as far as it can be read, and why it cannot be read further. -/
structure Tokens where
  list : List Token
  stop : Option LoadError

/-- Where a token stands that begins a key if a colon follows on its line. -/
structure KeyPlace where
  position : Nat
  /-- Whether nothing but a key can begin there. -/
  required : Bool
  index : Nat
  line : Nat
  column : Nat

structure Scanner where
  cursor : Cursor
  /-- How many flow collections are open. -/
  flow : Nat
  /-- The columns of the open block collections, innermost first. -/
  columns : List Nat
  /-- Whether a key may begin at the cursor. -/
  keyAllowed : Bool
  /-- The possible key for each number of open flow collections. -/
  keys : List (Nat × KeyPlace)
  tokens : List Token

namespace Scanner

def start (t : Text) : Scanner :=
  let c := Cursor.start t
  ⟨if t.head?.any CodePoint.isByteOrderMark then c.next else c, 0, [], true, [], []⟩

def inFlow (s : Scanner) : Bool := s.flow ≠ 0

/-- The least column at which the text of the innermost block collection goes on. -/
def margin (s : Scanner) : Nat :=
  match s.columns with
  | [] => 0
  | column :: _ => column + 1

def emit (t : Token) (s : Scanner) : Scanner := { s with tokens := s.tokens ++ [t] }

def advance (n : Nat) (s : Scanner) : Scanner := { s with cursor := s.cursor.skip n }

def allowKey (allowed : Bool) (s : Scanner) : Scanner := { s with keyAllowed := allowed }

def key? (s : Scanner) : Option KeyPlace := (s.keys.find? fun k => k.1 = s.flow).map Prod.snd

def withoutKey (s : Scanner) : Scanner := { s with keys := s.keys.filter fun k => k.1 ≠ s.flow }

/-- Gives up the possible key, which must not be a required one. -/
def dropKey (s : Scanner) : Scan Scanner :=
  if s.key?.any (·.required) then malformed else return s.withoutKey

/-- Notes that a key may begin at the cursor. -/
def noteKey (s : Scanner) : Scan Scanner :=
  if s.keyAllowed then do
    let c := s.cursor
    let required := !s.inFlow && s.columns.head? = some c.column
    let s ← s.dropKey
    return { s with keys := (s.flow, ⟨s.tokens.length, required, c.index, c.line, c.column⟩) :: s.keys }
  else return s

/-- A key is written on one line and in no more than 1024 characters. -/
def isStale (s : Scanner) (k : KeyPlace) : Bool :=
  k.line ≠ s.cursor.line || s.cursor.index - k.index > 1024

def dropStale (s : Scanner) : Scan Scanner :=
  if s.keys.any fun k => s.isStale k.2 && k.2.required then malformed
  else return { s with keys := s.keys.filter fun k => !s.isStale k.2 }

/-- Closes the block collections right of the column. -/
def closeTo (column : Nat) (s : Scanner) : Scanner :=
  if s.inFlow then s
  else
    let closed := s.columns.takeWhile (column < ·)
    { s with
      columns := s.columns.drop closed.length
      tokens := s.tokens ++ closed.map fun _ => .blockEnd }

/-- Closes all block collections. -/
def closeAll (s : Scanner) : Scanner :=
  if s.inFlow then s
  else { s with columns := [], tokens := s.tokens ++ s.columns.map fun _ => .blockEnd }

/-- Whether a block collection at the column is a new one. -/
def opens (column : Nat) (s : Scanner) : Bool := s.columns.head?.all (· < column)

/-- Puts `t` in at a position and opens a block collection at the column if that is new. -/
def openAt (column position : Nat) (t : Token) (s : Scanner) : Scanner :=
  if s.opens column then
    { s with columns := column :: s.columns, tokens := s.tokens.insertIdx position t }
  else s

/-- Past white space, comments and line ends; outside flow collections a new line may begin with a key. -/
def skipToToken (s : Scanner) : Scanner :=
  let c := s.cursor.skipComment
  match lineBreak? c.rest with
  | some _ =>
    if _ : c.next.rest.length < s.cursor.rest.length then
      skipToToken { s with cursor := c.next, keyAllowed := s.keyAllowed || !s.inFlow }
    else s
  | none => { s with cursor := c }
termination_by s.cursor.rest.length

/-- A sign between documents or a directive, which closes all that is open. -/
def betweenDocuments (s : Scanner) : Scan Scanner := do
  let s ← s.closeAll.dropKey
  return s.allowKey false

def fetchDirective (s : Scanner) : Scan Scanner := do
  let s ← s.betweenDocuments
  let (d, rest) ← directive (s.cursor.rest.drop 1)
  let c := (s.cursor.skipTo rest).skipComment
  if endsLine c.rest then return { s with cursor := passBreak c }.emit (.directive d)
  else malformed

def fetchSeparator (t : Token) (s : Scanner) : Scan Scanner := do
  let s ← s.betweenDocuments
  return (s.advance 3).emit t

def fetchFlowStart (t : Token) (s : Scanner) : Scan Scanner := do
  let s ← s.noteKey
  return ({ s with flow := s.flow + 1, keyAllowed := true }.advance 1).emit t

/-- The end of a flow collection, one of which has to be open. -/
def fetchFlowEnd (t : Token) (s : Scanner) : Scan Scanner := do
  let s ← s.dropKey
  if s.flow = 0 then malformed
  else return ({ s with flow := s.flow - 1, keyAllowed := false }.advance 1).emit t

def fetchFlowEntry (s : Scanner) : Scan Scanner := do
  let s ← s.dropKey
  return ((s.allowKey true).advance 1).emit .flowEntry

def fetchBlockEntry (s : Scanner) : Scan Scanner := do
  if !s.inFlow && !s.keyAllowed then malformed
  else
    let s := if s.inFlow then s else s.openAt s.cursor.column s.tokens.length .blockSequence
    let s ← s.dropKey
    return ((s.allowKey true).advance 1).emit .blockEntry

/-- A key or value whose beginning has a sign of its own. -/
def openMapping (s : Scanner) : Scan Scanner := do
  if !s.inFlow && !s.keyAllowed then malformed
  else
    let s := if s.inFlow then s else s.openAt s.cursor.column s.tokens.length .blockMapping
    let s ← s.dropKey
    return s.allowKey !s.inFlow

def fetchKey (s : Scanner) : Scan Scanner := do
  let s ← s.openMapping
  return (s.advance 1).emit .key

/-- The colon behind a key, which gets its sign in front if it has none. -/
def fetchValue (s : Scanner) : Scan Scanner := do
  match s.key? with
  | some k =>
    let s := s.withoutKey
    let s := { s with tokens := s.tokens.insertIdx k.position .key, keyAllowed := false }
    let s := if s.inFlow then s else s.openAt k.column k.position .blockMapping
    return (s.advance 1).emit .value
  | none =>
    let s ← s.openMapping
    return (s.advance 1).emit .value

/-- A token that begins a key if a colon follows, read by `scan` from the rest of the text. -/
def fetchWord (scan : Text → Scan (Token × Text)) (s : Scanner) : Scan Scanner := do
  let s ← s.noteKey
  let (t, rest) ← scan s.cursor.rest
  return { s with cursor := s.cursor.skipTo rest, keyAllowed := false }.emit t

def fetchQuoted (double : Bool) (s : Scanner) : Scan Scanner :=
  s.fetchWord fun t => (quoted double (t.drop 1)).map fun (text, rest) => (.scalar text false, rest)

def fetchPlain (s : Scanner) : Scan Scanner := do
  let s ← s.noteKey
  let p := plain s.inFlow s.margin s.cursor
  return { s with cursor := p.cursor, keyAllowed := p.endsLine }.emit (.scalar p.text true)

def fetchBlock (folded : Bool) (s : Scanner) : Scan Scanner := do
  let s ← s.dropKey
  let (text, c) ← block folded s.margin s.cursor.next
  return { s with cursor := c, keyAllowed := true }.emit (.scalar text false)

/-- Whether a plain scalar can begin with `c`, behind which `after` stands. -/
def beginsPlain (s : Scanner) (c : CodePoint) (after : Text) : Bool :=
  if isSpace c then false
  else if c = '-' || (!s.inFlow && (c = '?' || c = ':')) then !endsToken after
  else !Text.contains "?:,[]\x7b\x7d#&*!|>'\"%@\x60" [c]

/-- The token that begins with `c`. -/
def fetch (c : CodePoint) (after : Text) (s : Scanner) : Scan Scanner :=
  let lineStart := s.cursor.column = 0
  let separates := lineStart && separatesDocuments (c :: after)
  if c = '%' && lineStart then s.fetchDirective
  else if c = '-' && separates then s.fetchSeparator .documentStart
  else if c = '.' && separates then s.fetchSeparator .documentEnd
  else if c = '[' then s.fetchFlowStart .flowSequence
  else if c = '\x7b' then s.fetchFlowStart .flowMapping
  else if c = ']' then s.fetchFlowEnd .flowSequenceEnd
  else if c = '\x7d' then s.fetchFlowEnd .flowMappingEnd
  else if c = ',' then s.fetchFlowEntry
  else if c = '-' && endsToken after then s.fetchBlockEntry
  else if c = '?' && (s.inFlow || endsToken after) then s.fetchKey
  else if c = ':' && (s.inFlow || endsToken after) then s.fetchValue
  else if c = '*' then
    s.fetchWord fun t => (anchorName (t.drop 1)).map fun (n, rest) => (.reference n, rest)
  else if c = '&' then
    s.fetchWord fun t => (anchorName (t.drop 1)).map fun (n, rest) => (.anchor n, rest)
  else if c = '!' then s.fetchWord fun t => (Yaml.tag t).map fun (t, rest) => (.tag t, rest)
  else if c = '|' && !s.inFlow then s.fetchBlock false
  else if c = '>' && !s.inFlow then s.fetchBlock true
  else if c = '\'' then s.fetchQuoted false
  else if c = '"' then s.fetchQuoted true
  else if s.beginsPlain c after then s.fetchPlain
  else malformed

/-- The tokens that no sign of a key can be put in front of any more. -/
def settled (s : Scanner) : List Token :=
  let possible := s.keys.filter fun k => !s.isStale k.2
  s.tokens.take (possible.foldl (fun n k => min n k.2.position) s.tokens.length)

/-- The tokens from the cursor to the end of the text, or to the first that cannot be read. -/
def scan (s : Scanner) : Tokens :=
  match s.skipToToken.dropStale with
  | .error e => ⟨s.settled, some e⟩
  | .ok t =>
    let t := t.closeTo t.cursor.column
    match t.cursor.rest with
    | [] =>
      match t.closeAll.dropKey with
      | .error e => ⟨s.settled, some e⟩
      | .ok u => ⟨u.tokens, none⟩
    | c :: after =>
      match t.fetch c after with
      | .error e => ⟨s.settled, some e⟩
      | .ok u =>
        if _ : u.cursor.rest.length < s.cursor.rest.length then scan u else ⟨s.settled, some .malformed⟩
termination_by s.cursor.rest.length

end Scanner

def tokens (t : Text) : Tokens := (Scanner.start t).scan

end ReplySchema.Yaml
