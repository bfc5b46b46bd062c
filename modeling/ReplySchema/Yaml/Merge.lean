import ReplySchema.Yaml.Node

/-!
Merging: a mapping takes in the members of the mappings that it merges. They come first, so that its
own override them. The graph itself changes, since other nodes may have the mapping as a child.
-/

namespace ReplySchema.Yaml

namespace Graph

def tag (g : Graph) (n : NodeId) : Text := ((g[n]?).map Node.tag).getD []

def content? (g : Graph) (n : NodeId) : Option Content := (g[n]?).map Node.content

/-- The members of a mapping. -/
def pairs (g : Graph) (n : NodeId) : List (NodeId × NodeId) :=
  match g.content? n with
  | some (.mapping pairs) => pairs
  | _ => []

def isMapping (g : Graph) (n : NodeId) : Bool :=
  match g.content? n with
  | some (.mapping _) => true
  | _ => false

def withTag (n : NodeId) (tag : Text) (g : Graph) : Graph := g.modify n fun x => { x with tag := tag }

def withPairs (n : NodeId) (pairs : List (NodeId × NodeId)) (g : Graph) : Graph :=
  g.modify n fun x => { x with content := .mapping pairs }

/-- Whether a member asks for a merge. -/
def isMerge (g : Graph) (pair : NodeId × NodeId) : Bool := g.tag pair.1 = standard "merge"

/-- How many merges the graph asks for. -/
def mergeCount (g : Graph) : Nat :=
  (List.range g.size).foldl (fun count n => count + ((g.pairs n).filter g.isMerge).length) 0

/-- The equals signs among the keys of a mapping are ordinary keys. -/
def withPlainKeys (n : NodeId) (g : Graph) : Graph :=
  (g.pairs n).foldl
    (fun g pair => if g.tag pair.1 = standard "value" then g.withTag pair.1 (standard "str") else g) g

end Graph

abbrev Merging := StateT Graph (Except LoadError)

namespace Merging

/-- Takes the first merge out of a mapping and gives the node that it names. -/
def take? (n : NodeId) : Merging (Option NodeId) := do
  let g ← get
  match (g.pairs n).find? g.isMerge with
  | none => return none
  | some pair => do
    set (g.withPairs n ((g.pairs n).eraseP g.isMerge))
    return some pair.2

/-- Puts members in front of those of a mapping, and gives all. -/
def settle (n : NodeId) (brought : List (NodeId × NodeId)) : Merging (List (NodeId × NodeId)) := do
  let g := (← get).withPlainKeys n
  let all := brought ++ g.pairs n
  set (g.withPairs n all)
  return all

/--
The members that the merges of a mapping bring. A merge is taken out before it is carried out, so a
mapping may merge itself, and the number of merges in the graph bounds the recursion.
-/
def brought : Nat → NodeId → Merging (List (NodeId × NodeId))
  | 0, _ => return []
  | bound + 1, n => do
    match ← take? n with
    | none => return []
    | some source => do
      let members ←
        match (← get).content? source with
        | some (.mapping _) => settle source (← brought bound source)
        | some (.sequence items) => do
          let parts ← items.mapM fun item => do
            if (← get).isMapping item then settle item (← brought bound item) else throw .malformed
          pure parts.reverse.flatten
        | _ => throw .malformed
      return members ++ (← brought bound n)

end Merging

/-- The graph with the merges of a mapping carried out. -/
def Graph.merged (g : Graph) (n : NodeId) : Scan Graph := do
  let (_, g) ← (do Merging.settle n (← Merging.brought g.mergeCount n) : Merging _).run g
  return g

end ReplySchema.Yaml
