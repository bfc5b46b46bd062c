import ReplySchema.Fault
import ReplySchema.Text.Numeral
import ReplySchema.Yaml.Cursor

/-!
The written forms of scalars: plain, in quotes, and in a block of lines. A scalar that goes over
several lines is folded: a single line end inside it reads as a space.
-/

namespace ReplySchema.Yaml

/-- Why a text denotes nothing. -/
inductive LoadError
  | malformed
  | fault (f : Fault)

abbrev Scan (α : Type) := Except LoadError α

def malformed {α : Type} : Scan α := .error .malformed

/-- Line ends with nothing but fill between them, up to what ends them. -/
structure Gap where
  breaks : Text
  rest : Text
  /-- Whether the gap ends because a separator of documents stands at the start of a line. -/
  atSeparator : Bool

/-- The gap in front of the text, where `fresh` says that the text begins a line. -/
def gap (fill : CodePoint → Bool) (fresh : Bool) : Text → Gap
  | [] => ⟨[], [], false⟩
  | c :: t =>
    if fresh && separatesDocuments (c :: t) then ⟨[], c :: t, true⟩
    else
      match lineBreak? [c] with
      | some (b, _) =>
        let g := gap fill true t
        { g with breaks := b :: g.breaks }
      | none => if fill c then gap fill false t else ⟨[], c :: t, false⟩

/-- A line feed alone reads as a space; one with further line ends behind it does not count. -/
def fold (first : CodePoint) (others : Text) : Text :=
  if first ≠ '\n' then first :: others
  else if others.isEmpty then [' ']
  else others

/-! ### Plain scalars -/

def flowMark (c : CodePoint) : Bool := Text.contains ",[]\x7b\x7d" [c]

/-- Whether a plain scalar ends in front of `c`, behind which `after` stands. -/
def endsPlain (inFlow : Bool) (c : CodePoint) (after : Text) : Bool :=
  isSpace c || (inFlow && (flowMark c || c = '?')) ||
    (c = ':' && (endsToken after || (inFlow && after.head?.any flowMark)))

/-- The part of a plain scalar without white space at the front of the text. -/
def plainRun (inFlow : Bool) : Text → Text × Text
  | [] => ([], [])
  | c :: t =>
    if endsPlain inFlow c t then ([], c :: t)
    else
      let (run, rest) := plainRun inFlow t
      (c :: run, rest)

/-- White space that a plain scalar may go on behind; nothing when it has to end there. -/
structure PlainGap where
  text : Text
  rest : Text
  crossesLine : Bool

def plainGap (t : Text) : PlainGap :=
  match lineBreak? (t.dropWhile (· = ' ')) with
  | some (c, rest) =>
    let g := gap (· = ' ') true rest
    ⟨if g.atSeparator then [] else fold c g.breaks, g.rest, true⟩
  | none => ⟨t.takeWhile (· = ' '), t.dropWhile (· = ' '), false⟩

structure PlainScalar where
  text : Text
  cursor : Cursor
  /-- Whether the scalar ends at the beginning of a line. -/
  endsLine : Bool

/-- Goes on with the plain scalar `done`, behind which `between` was read. -/
def plainFrom (inFlow : Bool) (margin : Nat) (c : Cursor) (done : PlainScalar) (between : Text) :
    PlainScalar :=
  let (run, rest) := plainRun inFlow c.rest
  if c.rest.startsWith "#" || run.isEmpty then done
  else
    let g := plainGap rest
    let c' := c.skipTo g.rest
    let done := ⟨done.text ++ between ++ run, c', g.crossesLine⟩
    if g.text.isEmpty || g.rest.startsWith "#" || (!inFlow && c'.column < margin) then done
    else if _ : c'.rest.length < c.rest.length then plainFrom inFlow margin c' done g.text
    else done
termination_by c.rest.length

/-- The plain scalar at the cursor; outside flow collections its lines stand at `margin` or beyond. -/
def plain (inFlow : Bool) (margin : Nat) (c : Cursor) : PlainScalar :=
  plainFrom inFlow margin c ⟨[], c, false⟩ []

/-! ### Quoted scalars -/

def simpleEscapes : List (Char × Nat) :=
  [('0', 0), ('a', 7), ('b', 8), ('t', 9), ('\t', 9), ('n', 10), ('v', 11), ('f', 12), ('r', 13),
    ('e', 27), (' ', 32), ('"', 34), ('\\', 92), ('/', 47), ('N', 0x85), ('_', 0xA0), ('L', 0x2028),
    ('P', 0x2029)]

def escapeWidth? (c : CodePoint) : Option Nat :=
  if c = 'x' then some 2 else if c = 'u' then some 4 else if c = 'U' then some 8 else none

def codePoint (n : Nat) : Scan CodePoint :=
  if h : n < 0x110000 then .ok ⟨n, h⟩
  else if n < 0x80000000 then .error (.fault ⟨.value, "chr() arg not in range(0x110000)"⟩)
  else .error (.fault ⟨.overflow, "Python int too large to convert to C int"⟩)

/-- What a backslash and the text behind it read as. -/
def escape : Text → Scan (Text × Text)
  | [] => malformed
  | c :: t =>
    match simpleEscapes.find? (fun e => c = e.1), escapeWidth? c, lineBreak? (c :: t) with
    | some (_, code), _, _ => return ([← codePoint code], t)
    | none, some width, _ =>
      match Numeral.hexToNat? (t.take width) with
      | some code =>
        if t.length < width then malformed else return ([← codePoint code], t.drop width)
      | none => malformed
    | none, none, some (_, t) =>
      let g := gap isBlank true t
      if g.atSeparator then malformed else return (g.breaks, g.rest)
    | none, none, none => malformed

/-- What white space inside quotes reads as. -/
def quotedGap (t : Text) : Scan (Text × Text) :=
  match t.dropWhile isBlank with
  | [] => malformed
  | c :: r =>
    match lineBreak? (c :: r) with
    | some (b, r) =>
      let g := gap isBlank true r
      if g.atSeparator then malformed else return (fold b g.breaks, g.rest)
    | none => return (t.takeWhile isBlank, c :: r)

/-- Whether `c` stands for itself inside quotes. -/
def isOrdinary (double : Bool) (c : CodePoint) : Bool :=
  !isSpace c && (if double then c ≠ '"' && c ≠ '\\' else c ≠ '\'')

/-- One piece of a quoted scalar; none when the closing quote comes first. -/
def quotedPiece (double : Bool) : Text → Scan (Option Text × Text)
  | [] => malformed
  | c :: t =>
    if double && c = '"' then return (none, t)
    else if !double && c = '\'' then
      match Text.dropLead? "'" t with
      | some rest => return (some [c], rest)
      | none => return (none, t)
    else if double && c = '\\' then (escape t).map fun (piece, rest) => (some piece, rest)
    else if isSpace c then (quotedGap (c :: t)).map fun (piece, rest) => (some piece, rest)
    else return (some (c :: t.takeWhile (isOrdinary double)), t.dropWhile (isOrdinary double))

/-- The rest of a quoted scalar behind its opening quote. -/
def quoted (double : Bool) (t : Text) : Scan (Text × Text) :=
  match quotedPiece double t with
  | .error e => .error e
  | .ok (none, rest) => .ok ([], rest)
  | .ok (some piece, rest) =>
    if _ : rest.length < t.length then
      (quoted double rest).map fun (text, rest) => (piece ++ text, rest)
    else malformed
termination_by t.length

/-! ### Block scalars -/

/-- What becomes of the line ends behind the last line of a block. -/
inductive Chomping
  | strip
  | clip
  | keep
deriving DecidableEq

structure BlockHeader where
  chomping : Chomping
  /-- How far the block is indented, if the header says so. -/
  increment : Option Nat

def chomping? (t : Text) : Option (Chomping × Text) :=
  match t with
  | c :: r => if c = '+' then some (.keep, r) else if c = '-' then some (.strip, r) else none
  | [] => none

def increment? (t : Text) : Option (Nat × Text) :=
  match t with
  | c :: r => if c.isDigit then some (Numeral.digitValue c, r) else none
  | [] => none

/-- The marks behind the sign of a block, in either order. -/
def blockMarks (t : Text) : BlockHeader × Text :=
  match chomping? t with
  | some (chomping, r) =>
    match increment? r with
    | some (n, r) => (⟨chomping, some n⟩, r)
    | none => (⟨chomping, none⟩, r)
  | none =>
    match increment? t with
    | some (n, r) =>
      match chomping? r with
      | some (chomping, r) => (⟨chomping, some n⟩, r)
      | none => (⟨.clip, some n⟩, r)
    | none => (⟨.clip, none⟩, t)

/-- Past the line end at the cursor, if there is one. -/
def passBreak (c : Cursor) : Cursor :=
  match lineBreak? c.rest with
  | some _ => c.next
  | none => c

/-- The header of a block, and the beginning of the next line. -/
def blockHeader (c : Cursor) : Scan (BlockHeader × Cursor) :=
  let (header, rest) := blockMarks c.rest
  let c' := (c.skipTo rest).skipComment
  if header.increment = some 0 || !endsWord rest || !endsLine c'.rest then malformed
  else return (header, passBreak c')

/-- Empty lines of at most `indent` spaces, and the indentation of the line behind them. -/
def blockBreaks (indent : Nat) (c : Cursor) : Text × Cursor :=
  let spaces := (c.rest.takeWhile fun x : CodePoint => x = ' ').length
  let c' := c.skip (min spaces (indent - c.column))
  match lineBreak? c'.rest with
  | some (b, _) =>
    if _ : c'.next.rest.length < c.rest.length then
      let (bs, last) := blockBreaks indent c'.next
      (b :: bs, last)
    else ([], c')
  | none => ([], c')
termination_by c.rest.length

/-- Empty lines of any number of spaces; with them the widest run of spaces. -/
def blockLead (c : Cursor) (widest : Nat) : Text × Nat × Cursor :=
  let c' := c.skipSpaces
  let widest := max widest c'.column
  match lineBreak? c'.rest with
  | some (b, _) =>
    if _ : c'.next.rest.length < c.rest.length then
      let (bs, widest, last) := blockLead c'.next widest
      (b :: bs, widest, last)
    else ([], widest, c')
  | none => ([], widest, c')
termination_by c.rest.length

structure Block where
  text : Text
  /-- The end of the last line, and the empty lines behind it. -/
  last : Text
  breaks : Text
  cursor : Cursor

/-- Whether the line is set off by white space of its own, so that it is not folded. -/
def isSetOff : Text → Bool
  | c :: _ => isBlank c
  | [] => false

/-- The lines of a block from the cursor on, behind the text `done` and the empty lines `breaks`. -/
def blockLines (folded : Bool) (indent : Nat) (c : Cursor) (done breaks : Text) : Block :=
  if c.column ≠ indent || c.rest.isEmpty then ⟨done, [], breaks, c⟩
  else
    let line := c.rest.takeWhile fun x => !isBreak x
    let atEnd := c.skipLine
    let last : Text := ((lineBreak? atEnd.rest).map fun b => [b.1]).getD []
    let (more, c') := blockBreaks indent (passBreak atEnd)
    let done := done ++ breaks ++ line
    if c'.column = indent && !c'.rest.isEmpty then
      let joint : Text :=
        if folded && last = ("\n" : Text) && !isSetOff c.rest && !isSetOff c'.rest then
          if more.isEmpty then [' '] else []
        else last
      if _ : c'.rest.length < c.rest.length then blockLines folded indent c' (done ++ joint) more
      else ⟨done, last, more, c'⟩
    else ⟨done, last, more, c'⟩
termination_by c.rest.length

def Block.chomped (b : Block) : Chomping → Text
  | .strip => b.text
  | .clip => b.text ++ b.last
  | .keep => b.text ++ b.last ++ b.breaks

/-- The block scalar behind its sign, inside a collection whose items stand left of `margin`. -/
def block (folded : Bool) (margin : Nat) (c : Cursor) : Scan (Text × Cursor) := do
  let (header, c) ← blockHeader c
  let least := max margin 1
  let (breaks, indent, c) :=
    match header.increment with
    | some n =>
      let indent := least + n - 1
      let (breaks, c) := blockBreaks indent c
      (breaks, indent, c)
    | none =>
      let (breaks, widest, c) := blockLead c 0
      (breaks, max least widest, c)
  let b := blockLines folded indent c [] breaks
  return (b.chomped header.chomping, b.cursor)

end ReplySchema.Yaml
