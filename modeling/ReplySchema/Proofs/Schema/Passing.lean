import ReplySchema.Proofs.Json.Encoding
import ReplySchema.Proofs.Schema.Findings

/-!
When there is nothing to find. A value passes a node when it passes the node without its rule and
the rule holds of what was assembled; what a passing value is projected to is made of JSON kinds
only and nests no deeper than it may, so nothing but an over-long integer can keep it from being
printed.
-/

namespace ReplySchema

def Marks.Approves (m : Marks) (v : Value) : Prop :=
  ∀ rule, m.rule = some rule → (rule.test v).answer = .ok true

def Marks.Refuses (m : Marks) (v : Value) : Prop :=
  ∃ rule, m.rule = some rule ∧ (rule.test v).answer = .ok false

theorem Marks.approves_iff {m : Marks} {v : Value} :
    m.Approves v ↔ (m.judge v).answer = .ok true := by
  cases hm : m.rule with
  | none => simp [Approves, judge_of_no_rule, hm]
  | some rule => simp [Approves, judge_of_rule hm, hm]

theorem Marks.refuses_iff {m : Marks} {v : Value} :
    m.Refuses v ↔ (m.judge v).answer = .ok false := by
  cases hm : m.rule with
  | none => simp [Refuses, judge_of_no_rule, hm]
  | some rule => simp [Refuses, judge_of_rule hm, hm]

def Value.IsPlain : Value → Prop
  | .null | .mapping _ | .tuple _ | .foreign _ => False
  | _ => True

namespace Schema

def bare (s : Schema) : Schema := s.withMarks ⟨none, s.isOptional⟩

@[simp] theorem bare_primitive (m : Marks) (k : Primitive) :
    (primitive m k).bare = primitive ⟨none, m.optional⟩ k := rfl

@[simp] theorem bare_array (m : Marks) (item : Schema) :
    (array m item).bare = array ⟨none, m.optional⟩ item := rfl

@[simp] theorem bare_object (m : Marks) (fields : List (Text × Schema)) :
    (object m fields).bare = object ⟨none, m.optional⟩ fields := rfl

theorem project_bare (s : Schema) (v : Value) : s.bare.project v = s.project v := by
  cases s <;> simp [project]

theorem project_object {m : Marks} {fields : List (Text × Schema)} {v : Value}
    {ms : List (Text × Value)} (h : v.members? = some ms) :
    (object m fields).project v = .object (projectFields fields ms) := by
  rw [project, h]

section Nothing

variable {limit : Nat}

theorem objections_eq_nil_iff {s : Schema} {a : Value} :
    s.objections limit a = [] ↔ s.marks.Approves a := by
  rw [Marks.approves_iff, objections]
  rcases (s.marks.judge a).answer with e | b
  · simp
  · cases b <;> simp

theorem orObjections_eq_nil_iff {s : Schema} {a : Value} {below : List Finding} :
    s.orObjections limit a below = [] ↔ below = [] ∧ s.marks.Approves a := by
  rw [orObjections]
  cases below with
  | nil => simp [objections_eq_nil_iff]
  | cons f fs => simp

theorem findingsInside_eq_nil_iff {findings : Nat → List Finding} :
    findingsInside limit findings = [] ↔ ∃ d, limit = d + 1 ∧ findings d = [] := by
  cases limit <;> simp [findingsInside]

theorem approves_of_no_rule (optional : Bool) (a : Value) : Marks.Approves ⟨none, optional⟩ a :=
  fun _ h => nomatch h

theorem itemFailures_eq_nil_iff {failures : Value → List Finding} {i : Nat} {vs : List Value} :
    itemFailures failures i vs = [] ↔ ∀ v ∈ vs, failures v = [] := by
  induction vs generalizing i with
  | nil => simp [itemFailures]
  | cons v vs ih => simp [itemFailures, ih]

def FieldPasses (limit : Nat) (ms : List (Text × Value)) (f : Text × Schema) : Prop :=
  match find? f.1 ms with
  | some v => f.2.failures limit v = []
  | none => f.2.isOptional

theorem fieldFailures_eq_nil_iff {fields : List (Text × Schema)} {ms : List (Text × Value)} :
    fieldFailures limit fields ms = [] ↔ ∀ f ∈ fields, FieldPasses limit ms f := by
  induction fields with
  | nil => simp [fieldFailures]
  | cons f fields ih =>
    obtain ⟨key, child⟩ := f
    rw [List.forall_mem_cons, ← ih, fieldFailures, FieldPasses]
    cases find? key ms with
    | some v => simp
    | none => by_cases ho : child.isOptional <;> simp [ho]

theorem failures_primitive_eq_nil_iff {m : Marks} {k : Primitive} {v : Value} :
    (primitive m k).failures limit v = [] ↔ k.accepts v ∧ m.Approves v := by
  rw [failures]
  split
  · simp_all [objections_eq_nil_iff, marks]
  · simp_all

theorem failures_array_eq_nil_iff {m : Marks} {item : Schema} {v : Value} :
    (array m item).failures limit v = [] ↔
      ∃ d vs, limit = d + 1 ∧ v = .array vs ∧ (∀ w ∈ vs, item.failures d w = []) ∧
        m.Approves (.array (vs.map item.project)) := by
  cases v with
  | array vs =>
    rw [failures, orObjections_eq_nil_iff, findingsInside_eq_nil_iff]
    constructor
    · rintro ⟨⟨d, hd, hvs⟩, ha⟩
      exact ⟨d, vs, hd, rfl, itemFailures_eq_nil_iff.1 hvs, ha⟩
    · rintro ⟨d, _, hd, ⟨⟩, hvs, ha⟩
      exact ⟨⟨d, hd, itemFailures_eq_nil_iff.2 hvs⟩, ha⟩
  | _ => simp [failures]

theorem failures_object_eq_nil_iff {m : Marks} {fields : List (Text × Schema)} {v : Value} :
    (object m fields).failures limit v = [] ↔
      ∃ d ms, limit = d + 1 ∧ v.members? = some ms ∧ (∀ f ∈ fields, FieldPasses d ms f) ∧
        m.Approves (.object (projectFields fields ms)) := by
  rw [failures]
  cases v.members? with
  | some ms =>
    rw [orObjections_eq_nil_iff, findingsInside_eq_nil_iff]
    constructor
    · rintro ⟨⟨d, hd, hms⟩, ha⟩
      exact ⟨d, ms, hd, rfl, fieldFailures_eq_nil_iff.1 hms, ha⟩
    · rintro ⟨d, _, hd, ⟨⟩, hms, ha⟩
      exact ⟨⟨d, hd, fieldFailures_eq_nil_iff.2 hms⟩, ha⟩
  | none => simp

theorem failures_bare_of_eq_nil {s : Schema} {v : Value} (h : s.failures limit v = []) :
    s.bare.failures limit v = [] := by
  cases s with
  | primitive m k =>
    exact failures_primitive_eq_nil_iff.2
      ⟨(failures_primitive_eq_nil_iff.1 h).1, approves_of_no_rule _ _⟩
  | array m item =>
    obtain ⟨d, vs, hd, hv, hvs, -⟩ := failures_array_eq_nil_iff.1 h
    exact failures_array_eq_nil_iff.2 ⟨d, vs, hd, hv, hvs, approves_of_no_rule _ _⟩
  | object m fields =>
    obtain ⟨d, ms, hd, hv, hms, -⟩ := failures_object_eq_nil_iff.1 h
    exact failures_object_eq_nil_iff.2 ⟨d, ms, hd, hv, hms, approves_of_no_rule _ _⟩

/-- Past everything below it, a node has only its own rule to answer to. -/
theorem failures_of_bare {s : Schema} {v : Value} (h : s.bare.failures limit v = []) :
    s.failures limit v = s.objections limit (s.project v) := by
  cases s with
  | primitive m k =>
    rw [failures, if_pos (failures_primitive_eq_nil_iff.1 h).1]
    rfl
  | array m item =>
    obtain ⟨d, vs, rfl, rfl, hvs, -⟩ := failures_array_eq_nil_iff.1 h
    rw [failures, findingsInside, itemFailures_eq_nil_iff.2 hvs]
    rfl
  | object m fields =>
    obtain ⟨d, ms, rfl, hv, hms, -⟩ := failures_object_eq_nil_iff.1 h
    rw [failures, project, hv]
    dsimp only
    rw [findingsInside, fieldFailures_eq_nil_iff.2 hms]
    rfl

theorem objections_of_refuses {s : Schema} {a : Value} (h : s.marks.Refuses a) :
    s.objections limit a = [⟨[], s.refusal limit a⟩] := by
  rw [objections, Marks.refuses_iff.1 h]

theorem mem_projectFields {fields : List (Text × Schema)} {ms : List (Text × Value)}
    {e : Text × Value} (h : e ∈ projectFields fields ms) :
    ∃ child v, (e.1, child) ∈ fields ∧ find? e.1 ms = some v ∧ e.2 = child.project v := by
  induction fields with
  | nil => cases h
  | cons f fields ih =>
    obtain ⟨key, child⟩ := f
    rw [projectFields] at h
    split at h
    · rename_i v hv
      rcases List.mem_cons.1 h with rfl | h
      · exact ⟨child, v, List.mem_cons_self .., hv, rfl⟩
      · obtain ⟨child', v', hc, hrest⟩ := ih h
        exact ⟨child', v', List.mem_cons_of_mem _ hc, hrest⟩
    · obtain ⟨child', v', hc, hrest⟩ := ih h
      exact ⟨child', v', List.mem_cons_of_mem _ hc, hrest⟩

/-- All parts of what a passing value is projected to are of JSON kinds, and none is null. -/
theorem isPlain_of_mem_project {s : Schema} {v : Value} (h : s.bare.failures limit v = [])
    {w : Value} (hw : w ∈ (s.project v).parts) : w.IsPlain := by
  induction s using nodes generalizing limit v with
  | primitive m k =>
    have hk : k.accepts v := (failures_primitive_eq_nil_iff.1 h).1
    rw [project] at hw
    cases k <;> cases v <;> simp_all [Primitive.accepts, Value.parts, Value.IsPlain]
  | array m item ih =>
    obtain ⟨d, vs, rfl, rfl, hvs, -⟩ := failures_array_eq_nil_iff.1 h
    rw [project, Value.parts_array, List.flatMap_map] at hw
    rcases List.mem_cons.1 hw with rfl | hw
    · trivial
    · obtain ⟨u, hu, hw⟩ := List.mem_flatMap.1 hw
      exact ih (failures_bare_of_eq_nil (hvs u hu)) hw
  | object m fields ih =>
    obtain ⟨d, ms, rfl, hv, hms, -⟩ := failures_object_eq_nil_iff.1 h
    rw [project_object hv, Value.parts_object] at hw
    rcases List.mem_cons.1 hw with rfl | hw
    · trivial
    · obtain ⟨e, he, hw⟩ := List.mem_flatMap.1 hw
      obtain ⟨child, u, hc, hu, hp⟩ := mem_projectFields he
      have hpass := hms _ hc
      rw [FieldPasses, hu] at hpass
      rw [hp] at hw
      exact ih _ hc (failures_bare_of_eq_nil hpass) hw

/-- What a passing value is projected to nests no deeper than the check may go. -/
theorem depth_project_le {s : Schema} {v : Value} (h : s.bare.failures limit v = []) :
    (s.project v).depth ≤ limit := by
  induction s using nodes generalizing limit v with
  | primitive m k =>
    have hk : k.accepts v := (failures_primitive_eq_nil_iff.1 h).1
    rw [project]
    cases k <;> cases v <;> simp_all [Primitive.accepts, Value.depth]
  | array m item ih =>
    obtain ⟨d, vs, rfl, rfl, hvs, -⟩ := failures_array_eq_nil_iff.1 h
    rw [project, Value.depth_array_le_iff]
    refine ⟨Nat.succ_pos d, fun w hw => ?_⟩
    obtain ⟨u, hu, rfl⟩ := List.mem_map.1 hw
    exact ih (failures_bare_of_eq_nil (hvs u hu))
  | object m fields ih =>
    obtain ⟨d, ms, rfl, hv, hms, -⟩ := failures_object_eq_nil_iff.1 h
    rw [project_object hv, Value.depth_object_le_iff]
    refine ⟨Nat.succ_pos d, fun e he => ?_⟩
    obtain ⟨child, u, hc, hu, hp⟩ := mem_projectFields he
    have hpass := hms _ hc
    rw [FieldPasses, hu] at hpass
    rw [hp]
    exact ih _ hc (failures_bare_of_eq_nil hpass)

/-- What a passing value is projected to can be printed, unless it holds a long integer. -/
theorem refusal_of_bare {s : Schema} {v : Value} (h : s.bare.failures limit v = []) :
    (¬ Json.HoldsLong (s.project v) ∧ ∃ text, Json.encode limit (s.project v) = .ok text ∧
      s.refusal limit (s.project v) = .failure (.validationFailed (s.wording text) text)) ∨
    Json.HoldsLong (s.project v) ∧
      s.refusal limit (s.project v) = .fault Json.EncodeError.longInteger.toFault := by
  rw [refusal]
  cases he : Json.encode limit (s.project v) with
  | ok text => exact .inl ⟨Json.not_holdsLong_of_encode he, text, rfl, rfl⟩
  | error e =>
    cases Json.unprintable_of_error he with
    | foreign hf => exact (isPlain_of_mem_project h hf).elim
    | key hm => exact (isPlain_of_mem_project h hm).elim
    | long hn => exact .inr ⟨hn, rfl⟩
    | deep hd => exact absurd (depth_project_le h) (Nat.not_le.2 hd)

end Nothing

end Schema

end ReplySchema
