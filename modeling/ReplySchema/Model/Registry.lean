import ReplySchema.Model.FieldType

/-!
The making of field types. A typing construct that was made once is handed out again whenever it is
asked for with the same arguments, so a union keeps the order in which it was first written down.
-/

namespace ReplySchema

inductive Construct
  | optional
  | union
  | annotated
  | collection (c : Collection)
deriving DecidableEq

structure Registry where
  made : List ((Construct × List FieldType) × FieldType)
  nextModel : Nat
  /-- The models whose fields are not all known yet. -/
  unfinished : List Nat

namespace Registry

def empty : Registry := ⟨[], 0, []⟩

abbrev Making := StateM Registry

def made? (r : Registry) (c : Construct) (args : List FieldType) : Option FieldType :=
  (r.made.find? fun m => m.1.1 = c && FieldType.sameAll m.1.2 args).map Prod.snd

/-- The type made for the same arguments before, or else the one that `make` makes. -/
def once (c : Construct) (args : List FieldType) (make : Making FieldType) : Making FieldType := do
  match (← get).made? c args with
  | some a => pure a
  | none =>
    let a ← make
    modify fun r => { r with made := r.made ++ [((c, args), a)] }
    pure a

/-- The field types without those that count as one with an earlier one. -/
def distinct (as : List FieldType) : List FieldType :=
  as.foldl (fun kept a => if FieldType.anySame a kept then kept else kept ++ [a]) []

/-- A union of all members, nested unions spread out; a single member stands for itself. -/
def unionOf (spelling : Spelling) (as : List FieldType) : FieldType :=
  match distinct (as.flatMap FieldType.members) with
  | [a] => a
  | as => .union spelling as

def union (as : List FieldType) : Making FieldType :=
  once .union as (pure (unionOf .typing as))

def optional (a : FieldType) : Making FieldType :=
  once .optional [a] (union [a, .plain .nothing])

/-- Whether a field type is a construct; a model that is not finished can only be named by one. -/
def isConstruct (r : Registry) : FieldType → Bool
  | .model id _ => r.unfinished.contains id
  | a => a.isConstruct

/-- The union of two field types with a bar between them. -/
def either (a b : FieldType) : Making FieldType := do
  let r ← get
  if r.isConstruct a || r.isConstruct b then union [a, b] else pure (unionOf .plain [a, b])

def eitherOf : List FieldType → Making FieldType
  | [] => pure (.union .plain [])
  | a :: as => as.foldlM either a

def collection (c : Collection) (args : List FieldType) : Making FieldType :=
  once (.collection c) args (pure (.collection .typing c args))

def annotated (a : FieldType) : Making FieldType :=
  once .annotated [a] <| pure <|
    match a with
    | .annotated inner n => .annotated inner (n + 1)
    | a => .annotated a 1

/-- A set of literals; a literal counts once, at its first place. -/
def literal (values : List Value) : FieldType :=
  .literal (values.foldl
    (fun kept v => if kept.any (FieldType.equalLiterals v) then kept else kept ++ [v]) [])

/-- The number of a new model, whose fields are still to come. -/
def newModel : Making Nat :=
  modifyGet fun r =>
    (r.nextModel, { r with nextModel := r.nextModel + 1, unfinished := r.nextModel :: r.unfinished })

/-- All fields of a model are known. -/
def finish (id : Nat) : Making Unit := modify fun r => { r with unfinished := r.unfinished.erase id }

end Registry

end ReplySchema
