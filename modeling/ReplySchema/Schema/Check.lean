import ReplySchema.Json.Decode
import ReplySchema.Schema.Basic

/-!
Checking a value against a schema. The first failure ends a check; what passes comes back with the
undeclared keys gone and the fields in the order of declaration. A check also keeps the questions
it put to the rules, in the order in which it put them. It goes no deeper into a value than
documents may nest.
-/

namespace ReplySchema

/-- A question to the rule of the node at `path`, about the value assembled there. -/
structure Call where
  path : Path
  value : Value
  verdict : Verdict

structure Run (α : Type) where
  calls : List Call
  result : Except Raised α

namespace Run

variable {α β : Type}

def pure (a : α) : Run α := ⟨[], .ok a⟩

def raise (r : Raised) : Run α := ⟨[], .error r⟩

def fail (f : Failure) : Run α := raise (.failure f)

def bind (r : Run α) (f : α → Run β) : Run β :=
  match r.result with
  | .ok a => ⟨r.calls ++ (f a).calls, (f a).result⟩
  | .error e => ⟨r.calls, .error e⟩

def map (f : α → β) (r : Run α) : Run β := ⟨r.calls, r.result.map f⟩

/-- The run as seen from the container that holds the checked value at `step`. -/
def under (step : Step) (r : Run α) : Run α where
  calls := r.calls.map fun c => { c with path := step :: c.path }
  result := r.result.mapError (Raised.under step)

def remarks (r : Run α) : List Value := r.calls.flatMap fun c => c.verdict.remarks

/-- The run that `run` makes inside a container, where one more level may be opened. -/
def inside (limit : Nat) (run : Nat → Run α) : Run α :=
  match limit with
  | 0 => raise (.fault .tooDeep)
  | d + 1 => run d

end Run

/-- The rule's answer on `v`; without a rule every value is right. -/
def Marks.judge (m : Marks) (v : Value) : Verdict :=
  match m.rule with
  | some rule => rule.test v
  | none => ⟨[], .ok true⟩

def Marks.ask (m : Marks) (v : Value) : Run Bool :=
  match m.rule with
  | some _ => ⟨[⟨[], v, m.judge v⟩], (m.judge v).answer⟩
  | none => .pure true

/-- Passes `v` on if the rule holds of it; `message` words the failure from the value's text. -/
def Marks.confirm (m : Marks) (limit : Nat) (message : Text → Text) (v : Value) : Run Value :=
  (m.ask v).bind fun holds =>
    if holds then .pure v
    else
      match Json.encode limit v with
      | .ok text => .fail (.validationFailed (message text) text)
      | .error e => .raise (.fault e.toFault)

/-- Checks the elements from the index `i` on. -/
def checkItems (check : Value → Run Value) (i : Nat) : List Value → Run (List Value)
  | [] => .pure []
  | v :: vs =>
    ((check v).under (.index i)).bind fun r => (checkItems check (i + 1) vs).map (r :: ·)

namespace Schema

def mismatch (s : Schema) (v : Value) : Run Value := .fail (.typeMismatch s.kind v.kind)

mutual

/-- Goes at most `limit` containers deep into `v`. -/
def check (limit : Nat) (s : Schema) (v : Value) : Run Value :=
  match s with
  | primitive m k =>
    if k.accepts v then m.confirm limit (fun text => "Validation failed for value: " ++ text) v
    else mismatch (primitive m k) v
  | array m item =>
    match v with
    | .array vs =>
      (Run.inside limit fun d => checkItems (fun w => check d item w) 0 vs).bind fun rs =>
        m.confirm limit (fun _ => "Array validation failed") (.array rs)
    | v => mismatch (array m item) v
  | object m fields =>
    match v.members? with
    | some ms =>
      (Run.inside limit fun d => checkFields d fields ms).bind fun rs =>
        m.confirm limit (fun _ => "Object validation failed") (.object rs)
    | none => mismatch (object m fields) v

def checkFields (limit : Nat) (fields : List (Text × Schema)) (ms : List (Text × Value)) :
    Run (List (Text × Value)) :=
  match fields with
  | [] => .pure []
  | (key, child) :: rest =>
    match find? key ms with
    | some v =>
      ((check limit child v).under (.key key)).bind fun r =>
        (checkFields limit rest ms).map ((key, r) :: ·)
    | none => if child.isOptional then checkFields limit rest ms else .fail (.missingKey key)

end

/-- Decodes a document and checks what it denotes. -/
def parse (strictness : Json.Strictness) (s : Schema) (source : Json.Source) : Run Value :=
  match Json.decode strictness source with
  | .ok v => s.check strictness.nesting v
  | .error e => .fail (.invalidJson e.message)

end Schema

end ReplySchema
