import ReplySchema.Model.Basic
import ReplySchema.Schema.Basic

/-!
The schema of a record model: an object with one field per model field, in order. A model that is
met again inside itself has no schema; what else has none is reported with the fields that lead to it.
-/

namespace ReplySchema

inductive ConvertError
  /-- The fields, each with the name of its model, lead from the outermost model to the cause. -/
  | unsupported (trail : List (Text × Text)) (cause : Unsupported)
  | label (e : BuildError)

namespace ConvertError

/-- The error as seen from the model that holds the field; errors of labels tell no field. -/
def under (model field : Text) : ConvertError → ConvertError
  | unsupported trail cause => unsupported ((model, field) :: trail) cause
  | label e => label e

def message (trail : List (Text × Text)) (cause : Unsupported) : Text :=
  let step (owner field : Text) : Text := owner ++ "." ++ field ++ ": "
  trail.flatMap (fun (owner, field) => step owner field) ++ cause.message

def fault : ConvertError → Fault
  | unsupported trail cause => ⟨.type, message trail cause⟩
  | label e => e.fault

end ConvertError

/-- Whole numbers, whether written with a fraction or not. -/
def Rule.integer : Rule where
  label := "integer"
  test v := ⟨[], .ok (match v with | .int _ | .bool _ => true | .float x => x.isWhole | _ => false)⟩

/-- One of the strings, which the label lists. -/
def Rule.oneOf (values : List Text) : Except BuildError Rule :=
  (Rule.checkLabel ("value in [" ++ Text.join ", " (values.map Quoted.encode) ++ "]")).map fun label =>
    ⟨label, fun v => ⟨[], .ok (match v with | .string t => values.contains t | _ => false)⟩⟩

def Schema.number (rule : Option Rule) : Schema := .primitive ⟨rule, false⟩ .number

def Schema.string (rule : Option Rule) : Schema := .primitive ⟨rule, false⟩ .string

def Schema.boolean : Schema := .primitive .plain .boolean

/-- The schema as that of a field, which may be left out unless it is required. -/
def Schema.asField (required : Bool) (s : Schema) : Schema :=
  if required then s else s.withMarks { s.marks with optional := true }

namespace Model

/-- The model with the number and all the other models, if it is there. -/
def enter? (id : Nat) : List Model → Option (Model × List Model)
  | [] => none
  | m :: ms =>
    if m.id = id then some (m, ms) else (enter? id ms).map fun (found, rest) => (found, m :: rest)

theorem length_enter? {id : Nat} {ms rest : List Model} {m : Model}
    (h : enter? id ms = some (m, rest)) : rest.length < ms.length := by
  induction ms generalizing rest with
  | nil => simp [enter?] at h
  | cons n ms ih =>
    simp only [enter?] at h
    split at h
    · cases h
      exact Nat.lt_succ_self _
    · obtain ⟨⟨found, others⟩, hf, he⟩ := Option.map_eq_some_iff.1 h
      cases he
      exact Nat.succ_lt_succ (ih hf)

mutual

/-- The schema of a field type, where only the models of `outside` may still be entered. -/
def convert (outside : List Model) (a : FieldType) : Except ConvertError Schema :=
  match h : a.reading with
  | .string => .ok (.string none)
  | .integer => .ok (.number (some .integer))
  | .number => .ok (.number none)
  | .boolean => .ok .boolean
  | .oneOf values =>
    match Rule.oneOf values with
    | .ok rule => .ok (.string (some rule))
    | .error e => .error (.label e)
  | .list item =>
    have := FieldType.sizeOf_reading h
    (convert outside item).map (.array .plain)
  | .model id name =>
    match hm : enter? id outside with
    | none => .error (.unsupported [] (.recursive name))
    | some (m, rest) =>
      have := length_enter? hm
      (convertFields rest m.name m.fields []).map (.object .plain)
  | .unsupported cause => .error (.unsupported [] cause)
termination_by (outside.length, sizeOf a)

/-- Adds the fields of the model `owner`; of two fields with one key the later takes the place. -/
def convertFields (outside : List Model) (owner : Text) (fields : List Field)
    (done : List (Text × Schema)) : Except ConvertError (List (Text × Schema)) :=
  match fields with
  | [] => .ok done
  | f :: rest =>
    have := FieldType.sizeOf_withoutRemarks f.type
    have := f.sizeOf_type
    match convert outside f.type.withoutRemarks with
    | .ok s => convertFields outside owner rest (assign f.documentKey (s.asField f.required) done)
    | .error e => .error (e.under owner f.name)
termination_by (outside.length, sizeOf fields)

end

/-- What is no model at all has no schema either. -/
def notModel : Fault := (ConvertError.unsupported [] .notModel).fault

/-- The schema of the model with the number `id` among `models`. -/
def schema (models : List Model) (id : Nat) (name : Text) : Except Fault Schema :=
  (convert models (.model id name)).mapError ConvertError.fault

end Model

end ReplySchema
