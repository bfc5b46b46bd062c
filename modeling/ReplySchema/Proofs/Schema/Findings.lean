import ReplySchema.Proofs.Schema.Nodes

/-!
A check stops at the first thing that is wrong. Here is the check that does not stop: it visits
every item and every declared field, in order, and lists what it finds with the place of each
finding. What a check raises is the first finding, wrapped in its place, and a check returns when
there is none.
-/

namespace ReplySchema

structure Finding where
  path : Path
  cause : Raised

namespace Finding

def within (step : Step) (f : Finding) : Finding := { f with path := step :: f.path }

/-- The cause in one wrapper for each step of the path, the first step outermost. -/
def raised (f : Finding) : Raised := f.path.foldr Raised.under f.cause

theorem raised_of_failure {f : Finding} {g : Failure} (h : f.cause = .failure g) :
    f.raised = .failure (f.path.foldr Failure.under g) := by
  rw [raised, h]
  induction f.path with
  | nil => rfl
  | cons step p ih => rw [List.foldr_cons, ih]; rfl

theorem raised_of_fault {f : Finding} {x : Fault} (h : f.cause = .fault x) :
    f.raised = .fault x := by
  rw [raised, h]
  induction f.path with
  | nil => rfl
  | cons step p ih => rw [List.foldr_cons, ih]; rfl

end Finding

namespace Schema

mutual

/-- What a check makes of a value that passes: undeclared keys go, fields stand as declared. -/
def project (s : Schema) (v : Value) : Value :=
  match s with
  | primitive .. => v
  | array _ item =>
    match v with
    | .array vs => .array (vs.map fun w => project item w)
    | v => v
  | object _ fields =>
    match v.members? with
    | some ms => .object (projectFields fields ms)
    | none => v

def projectFields (fields : List (Text × Schema)) (ms : List (Text × Value)) :
    List (Text × Value) :=
  match fields with
  | [] => []
  | (key, child) :: rest =>
    match find? key ms with
    | some v => (key, project child v) :: projectFields rest ms
    | none => projectFields rest ms

end

def wording : Schema → Text → Text
  | primitive .., text => "Validation failed for value: " ++ text
  | array .., _ => "Array validation failed"
  | object .., _ => "Object validation failed"

def refusal (limit : Nat) (s : Schema) (a : Value) : Raised :=
  match Json.encode limit a with
  | .ok text => .failure (.validationFailed (s.wording text) text)
  | .error e => .fault e.toFault

def objections (limit : Nat) (s : Schema) (a : Value) : List Finding :=
  match (s.marks.judge a).answer with
  | .ok true => []
  | .ok false => [⟨[], s.refusal limit a⟩]
  | .error e => [⟨[], e⟩]

def misfit (s : Schema) (v : Value) : Finding :=
  ⟨[], .failure (.typeMismatch s.kind v.kind)⟩

def orObjections (limit : Nat) (s : Schema) (a : Value) (below : List Finding) : List Finding :=
  if below.isEmpty then s.objections limit a else below

/-- The findings below a container, or that it may not be opened. -/
def findingsInside (limit : Nat) (findings : Nat → List Finding) : List Finding :=
  match limit with
  | 0 => [⟨[], .fault .tooDeep⟩]
  | d + 1 => findings d

def itemFailures (failures : Value → List Finding) (i : Nat) : List Value → List Finding
  | [] => []
  | v :: vs => (failures v).map (.within (.index i)) ++ itemFailures failures (i + 1) vs

mutual

/--
All that is wrong with a value, in the order in which items and declared fields come. Of containers
more than `limit` deep nothing is found but that.
-/
def failures (limit : Nat) (s : Schema) (v : Value) : List Finding :=
  match s with
  | primitive m k =>
    if k.accepts v then (primitive m k).objections limit v else [(primitive m k).misfit v]
  | array m item =>
    match v with
    | .array vs =>
      (array m item).orObjections limit (.array (vs.map item.project))
        (findingsInside limit fun d => itemFailures (fun w => failures d item w) 0 vs)
    | v => [(array m item).misfit v]
  | object m fields =>
    match v.members? with
    | some ms =>
      (object m fields).orObjections limit (.object (projectFields fields ms))
        (findingsInside limit fun d => fieldFailures d fields ms)
    | none => [(object m fields).misfit v]

def fieldFailures (limit : Nat) (fields : List (Text × Schema)) (ms : List (Text × Value)) :
    List Finding :=
  match fields with
  | [] => []
  | (key, child) :: rest =>
    match find? key ms with
    | some v => (failures limit child v).map (.within (.key key)) ++ fieldFailures limit rest ms
    | none =>
      if child.isOptional then fieldFailures limit rest ms
      else ⟨[], .failure (.missingKey key)⟩ :: fieldFailures limit rest ms

end

end Schema

def outcome {α : Type} (fs : List Finding) (a : α) : Except Raised α :=
  match fs with
  | [] => .ok a
  | f :: _ => .error f.raised

section Outcome

variable {α β : Type}

theorem outcome_within (step : Step) (fs : List Finding) (a : α) :
    outcome (fs.map (.within step)) a = (outcome fs a).mapError (Raised.under step) := by
  cases fs <;> rfl

/-- Findings before those of a later stage hide them, as an error hides what comes after it. -/
theorem outcome_bind (fs gs : List Finding) (a : α) (f : α → β) :
    (outcome fs a).bind (fun x => outcome gs (f x)) = outcome (fs ++ gs) (f a) := by
  cases fs <;> rfl

theorem outcome_map (f : α → β) (fs : List Finding) (a : α) :
    outcome fs (f a) = (outcome fs a).map f := by
  cases fs <;> rfl

theorem outcome_eq_ok_iff {fs : List Finding} {a r : α} :
    outcome fs a = .ok r ↔ fs = [] ∧ r = a := by
  cases fs with
  | nil => simp [outcome, eq_comm]
  | cons f fs => simp [outcome]

end Outcome

namespace Schema

theorem confirm_result (limit : Nat) (s : Schema) (v : Value) :
    (s.marks.confirm limit s.wording v).result = outcome (s.objections limit v) v := by
  rw [Marks.confirm, Run.result_bind, Marks.ask_result, objections]
  rcases (s.marks.judge v).answer with e | b
  · rfl
  · cases b with
    | true => rfl
    | false =>
      simp only [Except.bind, refusal, Bool.false_eq_true, if_false]
      cases Json.encode limit v <;> rfl

theorem outcome_orObjections {α : Type} (limit : Nat) (s : Schema) (node : α → Value)
    (below : List Finding) (a : α) :
    (outcome below a).bind (fun x => outcome (s.objections limit (node x)) (node x)) =
      outcome (s.orObjections limit (node a) below) (node a) := by
  cases below <;> rfl

theorem inside_result {α : Type} {run : Nat → Run α} {findings : Nat → List Finding} {a : α}
    (h : ∀ d, (run d).result = outcome (findings d) a) (limit : Nat) :
    (Run.inside limit run).result = outcome (findingsInside limit findings) a := by
  cases limit with
  | zero => rfl
  | succ d => exact h d

theorem checkItems_result {check : Value → Run Value} {failures : Value → List Finding}
    {project : Value → Value} (h : ∀ v, (check v).result = outcome (failures v) (project v))
    (i : Nat) (vs : List Value) :
    (checkItems check i vs).result = outcome (itemFailures failures i vs) (vs.map project) := by
  induction vs generalizing i with
  | nil => rfl
  | cons v vs ih =>
    simp only [checkItems, Run.result_bind, Run.result_under, Run.result_map, h, ih,
      ← outcome_within, ← outcome_map]
    exact outcome_bind _ _ (project v) (· :: vs.map project)

theorem checkFields_result {limit : Nat} {fields : List (Text × Schema)}
    (h : ∀ f ∈ fields, ∀ v,
      (f.2.check limit v).result = outcome (f.2.failures limit v) (f.2.project v))
    (ms : List (Text × Value)) :
    (checkFields limit fields ms).result =
      outcome (fieldFailures limit fields ms) (projectFields fields ms) := by
  induction fields with
  | nil => rfl
  | cons f fields ih =>
    obtain ⟨key, child⟩ := f
    have ih := ih fun f hf => h f (List.mem_cons_of_mem _ hf)
    rw [checkFields, fieldFailures, projectFields]
    cases find? key ms with
    | some v =>
      have hv := h (key, child) (List.mem_cons_self ..) v
      simp only [Run.result_bind, Run.result_under, Run.result_map, hv, ih, ← outcome_within,
        ← outcome_map]
      exact outcome_bind _ _ (child.project v) fun r => (key, r) :: projectFields fields ms
    | none =>
      by_cases ho : child.isOptional
      · simp only [ho, if_true, ih]
      · simp only [ho]
        rfl

theorem check_misfit {limit : Nat} {s : Schema} {v : Value} (h : s.check limit v = s.mismatch v)
    (hf : s.failures limit v = [s.misfit v]) :
    (s.check limit v).result = outcome (s.failures limit v) (s.project v) := by
  rw [h, hf]
  rfl

/-- A check comes to the first of all findings, or to the projected value. -/
theorem check_result (limit : Nat) (s : Schema) (v : Value) :
    (s.check limit v).result = outcome (s.failures limit v) (s.project v) := by
  induction s using nodes generalizing limit v with
  | primitive m k =>
    rw [check, failures, project]
    split
    · exact confirm_result limit (primitive m k) v
    · rfl
  | array m item ih =>
    cases v with
    | array vs =>
      have below := inside_result (fun d => checkItems_result (ih d) 0 vs) limit
      have own (a : Value) : (m.confirm limit (fun _ => "Array validation failed") a).result =
          outcome ((array m item).objections limit a) a := confirm_result limit (array m item) a
      simp only [check, failures, Run.result_bind, below, own]
      exact outcome_orObjections limit (array m item) .array _ _
    | _ => exact check_misfit rfl rfl
  | object m fields ih =>
    rw [check, failures, project]
    cases v.members? with
    | some ms =>
      have below := inside_result (fun d => checkFields_result (fun f hf => ih f hf d) ms) limit
      have own (a : Value) : (m.confirm limit (fun _ => "Object validation failed") a).result =
          outcome ((object m fields).objections limit a) a :=
        confirm_result limit (object m fields) a
      simp only [Run.result_bind, below, own]
      exact outcome_orObjections limit (object m fields) .object _ _
    | none => rfl

end Schema

end ReplySchema
