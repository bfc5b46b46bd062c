import ReplySchema.Yaml.Meaning
import ReplySchema.Yaml.Token

/-!
The graph of a document. Every node has a tag in full; a plain scalar without one is tagged by what it
looks like. A reference makes the node that it names a child once more, perhaps of itself.
-/

namespace ReplySchema.Yaml

/-- A node by its place in the graph. -/
abbrev NodeId := Nat

inductive Content
  | scalar (text : Text)
  | sequence (items : List NodeId)
  | mapping (pairs : List (NodeId × NodeId))

structure Node where
  tag : Text
  content : Content

abbrev Graph := Array Node

/-- What is read so far: the tokens that are left, the nodes, and those of them that have a name. -/
structure Reader where
  tokens : Tokens
  nodes : Graph
  anchors : List (Text × NodeId)
  handles : List (Text × Text)

abbrev Read := StateT Reader (Except LoadError)

/-- Where a node stands, which decides what it can be. -/
inductive Position
  | flow
  | block
  /-- The place of a key or value in a block mapping, where the entries of a sequence need no indentation. -/
  | member
deriving DecidableEq

structure Properties where
  anchor : Option Text
  tag : Option Text

def Properties.bare : Properties := ⟨none, none⟩

namespace Read

def fail {α : Type} : Read α := throw .malformed

/-- The next token; none at the end of the text. -/
def peek? : Read (Option Token) := do
  let t := (← get).tokens
  match t.list, t.stop with
  | [], some e => throw e
  | ts, _ => return ts.head?

def skip : Read Unit := modify fun r => { r with tokens := { r.tokens with list := r.tokens.list.drop 1 } }

/-- The node that a name was given to. -/
def named (name : Text) : Read NodeId := do
  match find? name (← get).anchors with
  | some n => return n
  | none => fail

/-- Adds a node under its name, which no other node may have. -/
def add (anchor : Option Text) (n : Node) : Read NodeId := do
  let r ← get
  let id := r.nodes.size
  match anchor with
  | none => set { r with nodes := r.nodes.push n }
  | some name =>
    if (find? name r.anchors).isSome then fail
    else set { r with nodes := r.nodes.push n, anchors := (name, id) :: r.anchors }
  return id

/-- Adds a collection, which can be named in what is read for its content. -/
def collection (anchor : Option Text) (tag : Text) (content : Read Content) : Read NodeId := do
  let id ← add anchor ⟨tag, .sequence []⟩
  let c ← content
  modify fun r => { r with nodes := r.nodes.set! id ⟨tag, c⟩ }
  return id

/-- Adds the node that stands where nothing is written. -/
def empty : Read NodeId := add none ⟨standard "null", .scalar []⟩

/-- The tag in full, its handle replaced. -/
def fullTag (t : Tag) : Read Text := do
  match t.handle with
  | none => return t.suffix
  | some handle =>
    match find? handle (← get).handles with
    | some lead => return lead ++ t.suffix
    | none => fail

def anchor? : Read (Option Text) := do
  match ← peek? with
  | some (.anchor name) => skip; return some name
  | _ => return none

def tag? : Read (Option Tag) := do
  match ← peek? with
  | some (.tag t) => skip; return some t
  | _ => return none

/-- The anchor and the tag in front of a node, in either order. -/
def properties : Read Properties := do
  let before ← anchor?
  let tag ← tag?
  let anchor ← if before.isNone && tag.isSome then anchor? else pure before
  return ⟨anchor, ← tag.mapM fullTag⟩

/-- Whether nothing stands at a place that one of the given tokens ends. -/
def isVacant (ends : Token → Bool) : Read Bool := do return (← peek?).all ends

end Read

/-- The tag given, unless it says no more than that there is one. -/
def Properties.tagOr (p : Properties) (other : Text) : Text :=
  match p.tag with
  | none => other
  | some t => if t = "!" then other else t

/-- Adds a scalar. -/
def Properties.scalar (p : Properties) (text : Text) (plain : Bool) : Read NodeId :=
  let looks := (plain && p.tag.isNone) || p.tag = some ("!" : Text)
  Read.add p.anchor ⟨p.tagOr (standard (if looks then plainTag text else "str")), .scalar text⟩

/-- Adds a sequence. -/
def Properties.sequence (p : Properties) (items : Read (List NodeId)) : Read NodeId :=
  Read.collection p.anchor (p.tagOr (standard "seq")) (.sequence <$> items)

/-- Adds a mapping. -/
def Properties.mapping (p : Properties) (pairs : Read (List (NodeId × NodeId))) : Read NodeId :=
  Read.collection p.anchor (p.tagOr (standard "map")) (.mapping <$> pairs)

def endsEntry : Token → Bool
  | .blockEntry | .blockEnd => true
  | _ => false

def endsMember : Token → Bool
  | .key | .value | .blockEnd => true
  | _ => false

def endsLooseEntry (t : Token) : Bool := endsEntry t || endsMember t

def endsFlowMember (last : Token → Bool) : Token → Bool
  | .value | .flowEntry => true
  | t => last t

def isSequenceEnd : Token → Bool
  | .flowSequenceEnd => true
  | _ => false

def isMappingEnd : Token → Bool
  | .flowMappingEnd => true
  | _ => false

/-- In front of all items of a flow collection but the first there is a comma. -/
def comma (first : Bool) : Read Unit := do
  match ← Read.peek? with
  | some .flowEntry => if first then Read.fail else Read.skip
  | _ => if first then pure () else Read.fail

mutual

/-- The node at the front of the tokens. The number bounds the depth of the recursion. -/
def node (depth : Nat) (position : Position) : Read NodeId :=
  match depth with
  | 0 => Read.fail
  | depth + 1 => do
    match ← Read.peek? with
    | some (.reference name) => Read.skip; Read.named name
    | _ => content depth position (← Read.properties)

/-- A node behind its properties. -/
def content (depth : Nat) (position : Position) (p : Properties) : Read NodeId :=
  match depth with
  | 0 => Read.fail
  | depth + 1 => do
    match ← Read.peek?, position with
    | some .blockEntry, .member => p.sequence (looseEntries depth)
    | some (.scalar text plain), _ => Read.skip; p.scalar text plain
    | some .flowSequence, _ => Read.skip; p.sequence (flowItems depth true)
    | some .flowMapping, _ => Read.skip; p.mapping (flowPairs depth true)
    | some .blockSequence, .block | some .blockSequence, .member =>
      Read.skip; p.sequence (blockEntries depth)
    | some .blockMapping, .block | some .blockMapping, .member =>
      Read.skip; p.mapping (blockPairs depth)
    | _, _ => if p.anchor.isSome || p.tag.isSome then p.scalar [] p.tag.isNone else Read.fail

/-- A node, or an empty scalar where there is none. -/
def nodeOrEmpty (depth : Nat) (position : Position) (ends : Token → Bool) : Read NodeId :=
  match depth with
  | 0 => Read.fail
  | depth + 1 => do if ← Read.isVacant ends then Read.empty else node depth position

/-- The entries of a block sequence and its end. -/
def blockEntries (depth : Nat) : Read (List NodeId) :=
  match depth with
  | 0 => Read.fail
  | depth + 1 => do
    match ← Read.peek? with
    | some .blockEntry => do
      Read.skip
      let n ← nodeOrEmpty depth .block endsEntry
      return n :: (← blockEntries depth)
    | some .blockEnd => Read.skip; return []
    | _ => Read.fail

/-- The entries of a sequence that is not indented, which ends with its last entry. -/
def looseEntries (depth : Nat) : Read (List NodeId) :=
  match depth with
  | 0 => Read.fail
  | depth + 1 => do
    match ← Read.peek? with
    | some .blockEntry => do
      Read.skip
      let n ← nodeOrEmpty depth .block endsLooseEntry
      return n :: (← looseEntries depth)
    | _ => return []

/-- The value behind a key, if there is one. -/
def valuePart (depth : Nat) (position : Position) (ends : Token → Bool) : Read NodeId :=
  match depth with
  | 0 => Read.fail
  | depth + 1 => do
    match ← Read.peek? with
    | some .value => Read.skip; nodeOrEmpty depth position ends
    | _ => Read.empty

/-- A key behind its sign, and its value. -/
def pair (depth : Nat) (position : Position) (ends : Token → Bool) : Read (NodeId × NodeId) :=
  match depth with
  | 0 => Read.fail
  | depth + 1 => do
    Read.skip
    let k ← nodeOrEmpty depth position ends
    return (k, ← valuePart depth position ends)

def blockPairs (depth : Nat) : Read (List (NodeId × NodeId)) :=
  match depth with
  | 0 => Read.fail
  | depth + 1 => do
    match ← Read.peek? with
    | some .key => do
      let p ← pair depth .member endsMember
      return p :: (← blockPairs depth)
    | some .blockEnd => Read.skip; return []
    | _ => Read.fail

/-- The items of a flow sequence and its end; an item can be a pair on its own. -/
def flowItems (depth : Nat) (first : Bool) : Read (List NodeId) :=
  match depth with
  | 0 => Read.fail
  | depth + 1 => do
    if (← Read.peek?).any isSequenceEnd then Read.skip; return []
    comma first
    match ← Read.peek? with
    | some .flowSequenceEnd => Read.skip; return []
    | some .key => do
      let n ← Properties.bare.mapping ((fun p => [p]) <$> pair depth .flow (endsFlowMember isSequenceEnd))
      return n :: (← flowItems depth false)
    | _ => do
      let n ← node depth .flow
      return n :: (← flowItems depth false)

/-- The members of a flow mapping and its end; a member can be a key on its own. -/
def flowPairs (depth : Nat) (first : Bool) : Read (List (NodeId × NodeId)) :=
  match depth with
  | 0 => Read.fail
  | depth + 1 => do
    if (← Read.peek?).any isMappingEnd then Read.skip; return []
    comma first
    match ← Read.peek? with
    | some .flowMappingEnd => Read.skip; return []
    | some .key => do
      let p ← pair depth .flow (endsFlowMember isMappingEnd)
      return p :: (← flowPairs depth false)
    | _ => do
      let k ← node depth .flow
      let v ← Read.empty
      return (k, v) :: (← flowPairs depth false)

end

/-- The handles that need no directive. -/
def defaultHandles : List (Text × Text) := [("!", "!"), ("!!", standard [])]

/-- The directives in front of a document: one version at most, and each handle once. -/
def directives (versioned : Bool) (handles : List (Text × Text)) :
    List Token → Scan (List (Text × Text) × List Token)
  | .directive (.version major) :: rest =>
    if versioned || major ≠ 1 then malformed else directives true handles rest
  | .directive (.handle name lead) :: rest =>
    if (find? name handles).isSome then malformed
    else directives versioned (handles ++ [(name, lead)]) rest
  | .directive .unknown :: rest => directives versioned handles rest
  | rest => return (handles, rest)

/-- Past the directives at the front of the tokens. -/
def Read.directives : Read Unit := do
  let r ← get
  let (handles, rest) ← Yaml.directives false [] r.tokens.list
  set { r with tokens := { r.tokens with list := rest }, handles := handles ++ defaultHandles }

def isBetweenDocuments : Token → Bool
  | .directive _ | .documentStart | .documentEnd => true
  | _ => false

def isDocumentEnd : Token → Bool
  | .documentEnd => true
  | _ => false

/-- Nothing but ends of documents may be left; directives are read before that shows. -/
def Read.finish : Read Unit := do
  modify fun r => { r with tokens := { r.tokens with list := r.tokens.list.dropWhile isDocumentEnd } }
  if (← Read.peek?).isSome then do
    Read.directives
    let _ ← Read.peek?
    Read.fail

/-- The node of the only document, if there is one; a document with a sign in front may be empty. -/
def Read.document : Read (Option NodeId) := do
  let depth := 8 * (← get).tokens.list.length + 8
  match ← Read.peek? with
  | none => return none
  | some (.directive _) | some .documentStart => do
    Read.directives
    match ← Read.peek? with
    | some .documentStart => do
      Read.skip
      let n ← if ← Read.isVacant isBetweenDocuments then Read.empty else node depth .block
      Read.finish
      return some n
    | _ => Read.fail
  | some _ => do
    let n ← node depth .block
    Read.finish
    return some n

/-- The graph of the document that tokens spell out, and its first node. -/
def document (t : Tokens) : Scan (Option (Graph × NodeId)) := do
  let (n, r) ← Read.document.run ⟨t, #[], [], defaultHandles⟩
  return n.map fun n => (r.nodes, n)

end ReplySchema.Yaml
