import ReplySchema.Schema.Basic

/-!
Schemas under construction. Builder calls make nodes that may be shared by several parents and whose
marks can change later, so a session holds the nodes in the order of their making, and a node names
its children by their numbers. A child is older than its parents, so every node unfolds to a schema.
-/

namespace ReplySchema

abbrev NodeId := Nat

inductive Shape
  | primitive (kind : Primitive)
  | array (item : NodeId)
  | object (fields : List (Text × NodeId))
deriving DecidableEq

structure Node where
  marks : Marks
  shape : Shape

/-- What a caller hands in where a schema is expected. -/
inductive Argument
  | node (id : NodeId)
  | value (v : Value)

def Argument.toNode : Argument → Except Text NodeId
  | .node id => .ok id
  | .value v => .error v.className

/-- The mapping with `key` bound to `a`: among strings a new key goes last, an old one keeps its place. -/
def assignKey (key : Value) (a : Argument) : List (Value × Argument) → List (Value × Argument)
  | [] => [(key, a)]
  | (k, b) :: rest =>
    match key, k with
    | .string x, .string y => if x = y then (k, a) :: rest else (k, b) :: assignKey key a rest
    | _, _ => (k, b) :: assignKey key a rest

def hasKey (key : Text) (mapping : List (Value × Argument)) : Bool :=
  mapping.any fun (k, _) => match k with | .string t => t = key | _ => false

/-- The mapping of an object node, followed by its named fields, none of which it may hold already. -/
def mergeFields (mapping : List (Value × Argument)) (named : List (Text × Argument)) :
    Except BuildError (List (Value × Argument)) :=
  named.foldlM (fun fields (key, a) =>
    if hasKey key fields then .error (.fieldTwice key) else .ok (assignKey (.string key) a fields))
    (mapping.foldl (fun fields (key, a) => assignKey key a fields) [])

def resolveFields : List (Value × Argument) → Except BuildError (List (Text × NodeId))
  | [] => .ok []
  | (.string key, a) :: rest =>
    match a.toNode with
    | .error className => .error (.fieldNotSchema key className)
    | .ok id => (resolveFields rest).map ((key, id) :: ·)
  | (k, _) :: _ => .error (.keyNotString k.className)

structure Session where
  nodes : List Node

namespace Session

def empty : Session := ⟨[]⟩

/-- Adds a node and returns its number. -/
def add (s : Session) (shape : Shape) : NodeId × Session :=
  (s.nodes.length, ⟨s.nodes ++ [⟨.plain, shape⟩]⟩)

def modifyMarks (s : Session) (id : NodeId) (f : Marks → Marks) : Session :=
  ⟨s.nodes.modify id fun node => { node with marks := f node.marks }⟩

/-- The schema of a node as it is now. -/
def schema? (s : Session) (id : NodeId) : Option Schema :=
  match s.nodes[id]? with
  | none => none
  | some node =>
    match node.shape with
    | .primitive kind => some (.primitive node.marks kind)
    | .array item => if item < id then (s.schema? item).map (.array node.marks) else none
    | .object fields =>
      (fields.mapM fun (field : Text × NodeId) =>
        if field.2 < id then (s.schema? field.2).map fun child => (field.1, child) else none).map
          (.object node.marks)
termination_by id

end Session

/-- Builder calls return or raise, and in both cases leave a session behind. -/
abbrev Building := ExceptT BuildError (StateM Session)

namespace Building

def addPrimitive (kind : Primitive) : Building NodeId := modifyGet (·.add (.primitive kind))

def addArray (item : Argument) : Building NodeId :=
  match item.toNode with
  | .ok id => modifyGet (·.add (.array id))
  | .error className => throw (.itemNotSchema className)

def addObject (mapping : List (Value × Argument)) (named : List (Text × Argument)) :
    Building NodeId := do
  let fields ← MonadExcept.ofExcept (mergeFields mapping named)
  let fields ← MonadExcept.ofExcept (resolveFields fields)
  modifyGet (·.add (.object fields))

/-- Replaces the rule of a node. -/
def validate (id : NodeId) (source : RuleSource) (label : Value) : Building Unit := do
  let rule ← MonadExcept.ofExcept (Rule.resolve source label)
  modify (·.modifyMarks id fun m => { m with rule := some rule })

def setOptional (id : NodeId) (flag : Bool) : Building Unit :=
  modify (·.modifyMarks id fun m => { m with optional := flag })

end Building

end ReplySchema
