import ReplySchema.Proofs.Schema.Passing

/-!
Where findings stand. The path of a finding leads through the value to a part and through the schema
to a node, and the cause of the finding is true of this part and this node.
-/

namespace ReplySchema

namespace Primitive

theorem accepts_iff {k : Primitive} {v : Value} : k.accepts v ↔ v.kind = k.name := by
  cases v with
  | foreign f => cases k <;> cases f <;> decide
  | _ => cases k <;> simp only [accepts, Value.kind, name] <;> decide

end Primitive

namespace Schema

def Fits : Schema → Value → Prop
  | primitive _ k, v => v.kind = k.name
  | array .., v => ∃ vs, v = .array vs
  | object .., v => ∃ ms, v.members? = some ms

/-- What can be wrong with the part `u` at the node `n`, where `limit` more levels may be opened. -/
inductive Explains (limit : Nat) (n : Schema) (u : Value) : Raised → Prop
  | misfit : ¬ n.Fits u → Explains limit n u (.failure (.typeMismatch n.kind u.kind))
  | missing {m : Marks} {fields : List (Text × Schema)} {ms : List (Text × Value)} {key : Text}
    {child : Schema} :
    n = .object m fields → u.members? = some ms → (key, child) ∈ fields → find? key ms = none →
      child.isOptional = false → Explains limit n u (.failure (.missingKey key))
  | refused {e : Raised} : n.bare.failures limit u = [] → n.marks.Refuses (n.project u) →
    e = n.refusal limit (n.project u) → Explains limit n u e
  | raised {e : Raised} : n.bare.failures limit u = [] →
    (n.marks.judge (n.project u)).answer = .error e → Explains limit n u e
  | deep : limit = 0 → n.Fits u → 0 < (n.project u).depth → Explains limit n u (.fault .tooDeep)

def Located (limit : Nat) (s : Schema) (v : Value) (f : Finding) : Prop :=
  ∃ d n u, limit = d + f.path.length ∧ s.Reaches f.path n ∧ v.at? f.path = some u ∧
    n.Explains d u f.cause

section Located

variable {limit : Nat}

theorem Located.item {m : Marks} {item : Schema} {vs : List Value} {i : Nat} {v : Value}
    {f : Finding} (hv : vs[i]? = some v) (h : item.Located limit v f) :
    (array m item).Located (limit + 1) (.array vs) (f.within (.index i)) := by
  obtain ⟨d, n, u, hd, hn, hu, hc⟩ := h
  exact ⟨d, n, u, congrArg (· + 1) hd, .item hn, (Value.at?_array hv).trans hu, hc⟩

theorem Located.field {m : Marks} {fields : List (Text × Schema)} {ms : List (Text × Value)}
    {key : Text} {child : Schema} {v w : Value} {f : Finding} (hc : (key, child) ∈ fields)
    (hms : v.members? = some ms) (hw : find? key ms = some w) (h : child.Located limit w f) :
    (object m fields).Located (limit + 1) v (f.within (.key key)) := by
  obtain ⟨d, n, u, hd, hn, hu, he⟩ := h
  exact ⟨d, n, u, congrArg (· + 1) hd, .field hc hn, (Value.at?_members hms hw).trans hu, he⟩

theorem Located.here {s : Schema} {v : Value} {c : Raised} (h : s.Explains limit v c) :
    s.Located limit v ⟨[], c⟩ :=
  ⟨limit, s, v, rfl, .here s, Value.at?_nil v, h⟩

theorem mem_itemFailures {failures : Value → List Finding} {i : Nat} {vs : List Value}
    {f : Finding} (h : f ∈ itemFailures failures i vs) :
    ∃ j v g, vs[j]? = some v ∧ g ∈ failures v ∧ f = g.within (.index (i + j : Nat)) := by
  induction vs generalizing i with
  | nil => cases h
  | cons v vs ih =>
    rcases List.mem_append.1 h with h | h
    · obtain ⟨g, hg, rfl⟩ := List.mem_map.1 h
      exact ⟨0, v, g, rfl, hg, rfl⟩
    · obtain ⟨j, w, g, hw, hg, rfl⟩ := ih h
      exact ⟨j + 1, w, g, hw, hg, by rw [Nat.add_assoc, Nat.add_comm 1 j]⟩

theorem mem_fieldFailures {fields : List (Text × Schema)} {ms : List (Text × Value)}
    {f : Finding} (h : f ∈ fieldFailures limit fields ms) :
    ∃ key child, (key, child) ∈ fields ∧
      ((∃ v g, find? key ms = some v ∧ g ∈ child.failures limit v ∧ f = g.within (.key key)) ∨
        (find? key ms = none ∧ child.isOptional = false ∧
          f = ⟨[], .failure (.missingKey key)⟩)) := by
  induction fields with
  | nil => cases h
  | cons field fields ih =>
    obtain ⟨key, child⟩ := field
    have later (h : f ∈ fieldFailures limit fields ms) :=
      (ih h).imp fun k => Exists.imp fun c => And.imp_left (List.mem_cons_of_mem (key, child))
    rw [fieldFailures] at h
    cases hv : find? key ms with
    | some v =>
      rw [hv] at h
      rcases List.mem_append.1 h with h | h
      · obtain ⟨g, hg, rfl⟩ := List.mem_map.1 h
        exact ⟨key, child, List.mem_cons_self .., .inl ⟨v, g, hv, hg, rfl⟩⟩
      · exact later h
    | none =>
      rw [hv] at h
      cases ho : child.isOptional with
      | true => exact later (by simpa [ho] using h)
      | false =>
        simp only [ho, Bool.false_eq_true, if_false] at h
        rcases List.mem_cons.1 h with rfl | h
        · exact ⟨key, child, List.mem_cons_self .., .inr ⟨hv, ho, rfl⟩⟩
        · exact later h

theorem located_objection {s : Schema} {v : Value} (h : s.bare.failures limit v = [])
    {f : Finding} (hf : f ∈ s.objections limit (s.project v)) : s.Located limit v f := by
  rw [objections] at hf
  cases ha : (s.marks.judge (s.project v)).answer with
  | error e =>
    rw [ha] at hf
    cases List.mem_singleton.1 hf
    exact .here (.raised h ha)
  | ok b =>
    rw [ha] at hf
    cases b with
    | true => cases hf
    | false =>
      cases List.mem_singleton.1 hf
      exact .here (.refused h (Marks.refuses_iff.2 ha) rfl)

theorem located_misfit {s : Schema} {v : Value} (h : ¬ s.Fits v) :
    s.Located limit v (s.misfit v) :=
  .here (.misfit h)

theorem mem_orObjections {s : Schema} {a : Value} {below : List Finding} {f : Finding}
    (h : f ∈ s.orObjections limit a below) :
    below = [] ∧ f ∈ s.objections limit a ∨ f ∈ below := by
  cases below with
  | nil => exact .inl ⟨rfl, h⟩
  | cons g gs => exact .inr h

theorem mem_findingsInside {findings : Nat → List Finding} {f : Finding}
    (h : f ∈ findingsInside limit findings) :
    limit = 0 ∧ f = ⟨[], .fault .tooDeep⟩ ∨ ∃ d, limit = d + 1 ∧ f ∈ findings d := by
  cases limit with
  | zero => exact .inl ⟨rfl, List.mem_singleton.1 h⟩
  | succ d => exact .inr ⟨d, rfl, h⟩

theorem located_of_mem_failures {s : Schema} {v : Value} {f : Finding}
    (hf : f ∈ s.failures limit v) : s.Located limit v f := by
  induction s using nodes generalizing limit v f with
  | primitive m k =>
    rw [failures] at hf
    split at hf
    · rename_i hk
      have hb : (primitive m k).bare.failures limit v = [] :=
        failures_primitive_eq_nil_iff.2 ⟨hk, approves_of_no_rule _ _⟩
      exact located_objection hb hf
    · rename_i hk
      cases List.mem_singleton.1 hf
      exact located_misfit (mt Primitive.accepts_iff.2 hk)
  | array m item ih =>
    cases v with
    | array vs =>
      rw [failures] at hf
      rcases mem_orObjections hf with ⟨hb, hf⟩ | hf
      · obtain ⟨d, hd, hb⟩ := findingsInside_eq_nil_iff.1 hb
        have hvs := itemFailures_eq_nil_iff.1 hb
        have hb : (array m item).bare.failures limit (.array vs) = [] :=
          failures_array_eq_nil_iff.2 ⟨d, vs, hd, rfl, hvs, approves_of_no_rule _ _⟩
        rw [← project] at hf
        exact located_objection hb hf
      · rcases mem_findingsInside hf with ⟨hd, rfl⟩ | ⟨d, rfl, hf⟩
        · exact .here (.deep hd ⟨vs, rfl⟩ (by simp [project, Value.depth]))
        · obtain ⟨j, v, g, hv, hg, rfl⟩ := mem_itemFailures hf
          rw [Nat.zero_add]
          exact (ih hg).item hv
    | _ =>
      cases List.mem_singleton.1 hf
      refine located_misfit ?_
      rintro ⟨_, h⟩
      cases h
  | object m fields ih =>
    rw [failures] at hf
    cases hms : v.members? with
    | some ms =>
      rw [hms] at hf
      rcases mem_orObjections hf with ⟨hb, hf⟩ | hf
      · obtain ⟨d, hd, hb⟩ := findingsInside_eq_nil_iff.1 hb
        have hfields := fieldFailures_eq_nil_iff.1 hb
        have hb : (object m fields).bare.failures limit v = [] :=
          failures_object_eq_nil_iff.2 ⟨d, ms, hd, hms, hfields, approves_of_no_rule _ _⟩
        rw [← project_object hms] at hf
        exact located_objection hb hf
      · rcases mem_findingsInside hf with ⟨hd, rfl⟩ | ⟨d, rfl, hf⟩
        · exact .here (.deep hd ⟨ms, hms⟩ (by simp [project_object hms, Value.depth]))
        · obtain ⟨key, child, hc, ⟨w, g, hw, hg, rfl⟩ | ⟨hw, ho, rfl⟩⟩ := mem_fieldFailures hf
          · exact (ih _ hc hg).field hc hms hw
          · exact .here (.missing rfl hms hc hw ho)
    | none =>
      rw [hms] at hf
      cases List.mem_singleton.1 hf
      refine located_misfit ?_
      rintro ⟨_, h⟩
      cases hms.symm.trans h

end Located

end Schema

end ReplySchema
