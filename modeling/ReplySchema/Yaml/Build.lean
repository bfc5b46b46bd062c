import ReplySchema.Datum.Slots
import ReplySchema.Yaml.Atom
import ReplySchema.Yaml.Merge

/-!
The data of a graph. A collection is known before its content is, so that it may hold itself: all
collections of one depth are filled before those that they hold.
-/

namespace ReplySchema.Yaml

/-- The datum of a node, as far as it is known. -/
inductive Part
  /-- A scalar, with the node that it comes from unless it is the one for what is no number. -/
  | atom (d : Datum) (source : Option NodeId)
  /-- A collection, to be found under its node. -/
  | collection (n : NodeId)

structure Key where
  datum : Datum
  source : Option NodeId

/-- One node is one key, whatever its datum is equal to. -/
def Key.same (a b : Key) : Bool := a.source = b.source || a.datum.sameKey b.datum

/-- The content of a collection. -/
inductive Filling
  | list (items : List Part)
  | pairs (items : List (Part × Part))
  | set (keys : List Datum)
  | mapping (members : List (Datum × Part))

structure Builder where
  graph : Graph
  parts : Array (Option Part)
  fillings : Array (Option Filling)
  /-- The collections still to be filled, the latest first. -/
  waiting : List NodeId

abbrev Build := StateT Builder (Except LoadError)

namespace Build

/-- The names of the types whose data are collections. -/
def collectionTypes : List Text := ["seq", "map", "set", "omap", "pairs"]

def endless : LoadError := .fault ⟨.recursion, "maximum recursion depth exceeded"⟩

/--
The text of a scalar. A mapping with an equals sign for a key stands for the value of that; a way
through mappings that is longer than the graph leads round in a circle.
-/
def scalarText (g : Graph) : Nat → NodeId → Scan Text
  | 0, _ => .error endless
  | bound + 1, n =>
    match g.content? n with
    | some (.scalar text) => .ok text
    | some (.mapping pairs) =>
      match pairs.find? fun pair => g.tag pair.1 = standard "value" with
      | some pair => scalarText g bound pair.2
      | none => malformed
    | _ => malformed

/-- A timestamp has to be a scalar itself. -/
def atomOf (g : Graph) (n : NodeId) : Scan Part := do
  let tag := g.tag n
  let text ← scalarText g (g.size + 1) n
  if tag = standard "timestamp" && g.isMapping n then
    .error (.fault ⟨.type, "expected string or bytes-like object, got 'list'"⟩)
  else
    let d ← scalarDatum tag text
    return .atom d (if tag = standard "float" && isNanWord text then none else some n)

/-- The datum of a node, which is built once. -/
def part (n : NodeId) : Build Part := do
  let b ← get
  match (b.parts[n]?).join with
  | some p => return p
  | none =>
    if collectionTypes.any fun name => b.graph.tag n = standard name then do
      let p := Part.collection n
      set { b with parts := b.parts.set! n (some p), waiting := n :: b.waiting }
      return p
    else do
      let p ← atomOf b.graph n
      set { b with parts := b.parts.set! n (some p) }
      return p

/-- The members with a key bound to a datum; a key that is already there keeps its place and its form. -/
def bindKey (key : Key) (p : Part) : List (Key × Part) → List (Key × Part)
  | [] => [(key, p)]
  | (k, q) :: rest => if k.same key then (k, p) :: rest else (k, q) :: bindKey key p rest

/-- The members so far and one more, whose key has to be an atom. -/
def addMember (done : List (Key × Part)) (pair : NodeId × NodeId) : Build (List (Key × Part)) := do
  match ← part pair.1 with
  | .collection _ => throw .malformed
  | .atom d source => do
    let p ← part pair.2
    return bindKey ⟨d, source⟩ p done

/-- The members of a mapping. -/
def members (n : NodeId) : Build (List (Key × Part)) := do
  let b ← get
  if !b.graph.isMapping n then throw .malformed
  let g ← b.graph.merged n
  set { b with graph := g }
  (g.pairs n).foldlM addMember []

/-- The key and the value of a mapping that has no more than those. -/
def single (n : NodeId) : Build (Part × Part) := do
  match (← get).graph.pairs n with
  | [(k, v)] => do
    let key ← part k
    return (key, ← part v)
  | _ => throw .malformed

/-- The items of a sequence. -/
def items (n : NodeId) : Build (List NodeId) := do
  match (← get).graph.content? n with
  | some (.sequence items) => return items
  | _ => throw .malformed

def filling (n : NodeId) : Build Filling := do
  let tag := (← get).graph.tag n
  if tag = standard "seq" then return .list (← (← items n).mapM part)
  else if tag = standard "map" then
    return .mapping ((← members n).map fun (k, p) => (k.datum, p))
  else if tag = standard "set" then
    return .set (Datum.inSlots ((← members n).map fun (k, _) => k.datum))
  else return .pairs (← (← items n).mapM single)

def fill (n : NodeId) : Build Unit := do
  let f ← filling n
  modify fun b => { b with fillings := b.fillings.set! n (some f) }

/-- Fills collections, then those that they hold, and so on down. -/
def fillAll : Nat → List NodeId → Build Unit
  | 0, _ => pure ()
  | _, [] => pure ()
  | bound + 1, ns => do
    ns.forM fill
    let next := (← get).waiting.reverse
    modify fun b => { b with waiting := [] }
    fillAll bound next

end Build

/-- The data of a document; what a collection holds is read from its filling. -/
structure Document where
  root : Part
  fillings : Array (Option Filling)

namespace Document

/-- The data of the part of a graph that hangs on a node. -/
def ofGraph (g : Graph) (n : NodeId) : Scan Document := do
  let build : Build Part := do
    let root ← Build.part n
    let first := (← get).waiting
    modify fun b => { b with waiting := [] }
    Build.fillAll (g.size + 1) first
    return root
  let (root, b) ← build.run ⟨g, Array.replicate g.size none, Array.replicate g.size none, []⟩
  return ⟨root, b.fillings⟩

/-- What is known of a datum, with the collections that are open around it. -/
def read (fillings : Array (Option Filling)) (depth : Nat) (path : List NodeId) (p : Part) : Datum :=
  match p, depth with
  | .atom d _, _ => d
  | .collection _, 0 => .null
  | .collection n, depth + 1 =>
    let inside := read fillings depth (n :: path)
    match (fillings[n]?).join with
    | some (.list items) => if path.contains n then .again false else .list (items.map inside)
    | some (.pairs items) =>
      if path.contains n then .again false
      else .list (items.map fun (k, v) => .pair (inside k) (inside v))
    | some (.set keys) => .set keys
    | some (.mapping members) =>
      if path.contains n then .again true else .mapping (members.map fun (k, v) => (k, inside v))
    | none => .null

/-- The datum of a part. No more collections can be open at once than there are. -/
def datum (d : Document) (p : Part) : Datum := read d.fillings (d.fillings.size + 1) [] p

/-- Zero, nothing and everything empty count as false. -/
def truth (d : Document) : Bool :=
  match d.root with
  | .atom d _ => d.truth
  | .collection n =>
    match (d.fillings[n]?).join with
    | some (.list items) => !items.isEmpty
    | some (.pairs items) => !items.isEmpty
    | some (.set keys) => !keys.isEmpty
    | some (.mapping members) => !members.isEmpty
    | none => false

/-- The members of the whole document, if it is a mapping. -/
def members? (d : Document) : Option (List (Datum × Part)) :=
  match d.root with
  | .collection n =>
    match (d.fillings[n]?).join with
    | some (.mapping members) => some members
    | _ => none
  | .atom .. => none

end Document

/-- Whether a code point may stand in a text at all. -/
def isAllowed (c : CodePoint) : Bool :=
  c.val = 0x09 || c.val = 0x0A || c.val = 0x0D || (0x20 ≤ c.val && c.val ≤ 0x7E) || c.val = 0x85 ||
    (0xA0 ≤ c.val && c.val ≤ 0xD7FF) || (0xE000 ≤ c.val && c.val ≤ 0xFFFD) || 0x10000 ≤ c.val

/-- The document of a text whose line ends are normalized, if there is one. -/
def load (t : Text) : Scan (Option Document) := do
  if !t.all isAllowed then malformed
  else
    match ← document (tokens t) with
    | none => return none
    | some (g, n) => some <$> Document.ofGraph g n

end ReplySchema.Yaml
