import ReplySchema.Model.FieldType

/-!
Record models, and how the type of a field is read as the shape of a document.
-/

namespace ReplySchema

structure Field where
  name : Text
  type : FieldType
  /-- The name of the field in documents, if it is not empty. -/
  key : Option Text
  required : Bool

def Field.documentKey (f : Field) : Text :=
  match f.key with
  | none | some [] => f.name
  | some key => key

theorem Field.sizeOf_type (f : Field) : sizeOf f.type < sizeOf f := by
  cases f
  simp only [mk.sizeOf_spec]
  omega

structure Model where
  id : Nat
  name : Text
  fields : List Field

/-- Why a model has no schema. -/
inductive Unsupported
  | recursive (name : Text)
  | unionOf (a : FieldType)
  | literals (values : List Value)
  | mixedTuple (a : FieldType)
  | noItem (a : FieldType)
  | inexpressible (a : FieldType)
  | notModel

def Unsupported.message : Unsupported → Text
  | recursive name => "recursive models are not supported: " ++ name
  | unionOf a => "union types are not supported: " ++ a.shown
  | literals values => "only string Literal values are supported: " ++ (Value.tuple values).quoted
  | mixedTuple a => "only homogeneous tuples are supported: " ++ a.shown
  | noItem a => "list type needs an item type: " ++ a.shown
  | inexpressible a => "cannot express " ++ a.shown ++ " as a structlm schema"
  | notModel => "model_cls must be a pydantic BaseModel subclass"

/-- What a field type says about documents. -/
inductive Reading
  | string
  | integer
  | number
  | boolean
  | oneOf (values : List Text)
  | list (item : FieldType)
  | model (id : Nat) (name : Text)
  | unsupported (cause : Unsupported)

namespace PlainClass

/-- A class that extends a scalar class is read as that one. -/
def reading (c : PlainClass) : Reading :=
  match c with
  | string | stringEnum => .string
  | integer | integerEnum => .integer
  | float => .number
  | boolean => .boolean
  | c => .unsupported (.inexpressible (.plain c))

end PlainClass

namespace FieldType

/-- The strings among which a document may choose, if all literals are strings. -/
def strings? : List Value → Option (List Text)
  | [] => some []
  | .string t :: vs => (strings? vs).map (t :: ·)
  | _ :: _ => none

/-- How a field type that is no union is read. -/
def memberReading : FieldType → Reading
  | plain c => c.reading
  | model id name => .model id name
  | literal values =>
    match values, strings? values with
    | _ :: _, some ts => .oneOf ts
    | _, _ => .unsupported (.literals values)
  | variadic item => .list item
  | bareList => .unsupported (.noItem bareList)
  | collection spelling .tuple args =>
    match args with
    | [item] => .list item
    | _ => .unsupported (.mixedTuple (collection spelling .tuple args))
  | collection spelling .list args =>
    match args with
    | item :: _ => .list item
    | [] => .unsupported (.noItem (collection spelling .list args))
  | collection spelling .sequence args =>
    match args with
    | item :: _ => .list item
    | [] => .unsupported (.noItem (collection spelling .sequence args))
  | a => .unsupported (.inexpressible a)

/-- A union with nothing is read as its other member; there are no further unions. -/
def reading : FieldType → Reading
  | union spelling as =>
    match as.filter fun a => !a.isNothing with
    | [a] => a.memberReading
    | _ => .unsupported (.unionOf (union spelling as))
  | a => a.memberReading

/-- The type under the remarks at the top. -/
def withoutRemarks : FieldType → FieldType
  | annotated a _ => a
  | a => a

theorem sizeOf_withoutRemarks (a : FieldType) : sizeOf a.withoutRemarks ≤ sizeOf a := by
  cases a <;> simp [withoutRemarks]
  omega

theorem sizeOf_memberReading {a item : FieldType} (h : a.memberReading = .list item) :
    sizeOf item < sizeOf a := by
  unfold memberReading at h
  split at h
  · rename_i c
    cases c <;> simp [PlainClass.reading] at h
  · simp at h
  · split at h <;> simp at h
  · cases h
    simp
  · simp at h
  · split at h <;> simp at h
    subst h
    simp
    omega
  · split at h <;> simp at h
    subst h
    simp
    omega
  · split at h <;> simp at h
    subst h
    simp
    omega
  · simp at h

theorem sizeOf_reading {a item : FieldType} (h : a.reading = .list item) :
    sizeOf item < sizeOf a := by
  unfold reading at h
  split at h
  · rename_i spelling as
    split at h
    · rename_i b hb
      have hm : b ∈ as := (List.mem_filter.1 (hb ▸ List.mem_singleton.2 rfl)).1
      have h1 := sizeOf_memberReading h
      have h2 := List.sizeOf_lt_of_mem hm
      simp only [union.sizeOf_spec]
      omega
    · simp at h
  · exact sizeOf_memberReading h

end FieldType

end ReplySchema
