import ReplySchema.Proofs.Schema.FirstFailure
import ReplySchema.Proofs.Schema.Places

/-!
Checking decides conformance. The relation says which value a document stands for at a schema,
without saying in which order anything is looked at; a check returns exactly that value, and there
is at most one. A check that does not return raises a failure, except that a rule refusing a value
with a long integer raises the fault of printing it, and that no more containers are opened than the
limit allows.
-/

namespace ReplySchema

def present (fields : List (Text × Schema)) (ms : List (Text × Value)) : List (Text × Schema) :=
  fields.filter fun f => (find? f.1 ms).isSome

/-- `Conforms s v r`: the value `v` is right for `s`, and `r` is what is kept of it. -/
inductive Conforms : Schema → Value → Value → Prop
  | primitive {m : Marks} {k : Primitive} {v : Value} :
    v.kind = k.name → m.Approves v → Conforms (.primitive m k) v v
  | array {m : Marks} {item : Schema} {vs rs : List Value} :
    rs.length = vs.length →
    (∀ (i : Nat) v r, vs[i]? = some v → rs[i]? = some r → Conforms item v r) →
    m.Approves (.array rs) → Conforms (.array m item) (.array vs) (.array rs)
  | object {m : Marks} {fields : List (Text × Schema)} {v : Value} {ms rs : List (Text × Value)} :
    v.members? = some ms →
    rs.map Prod.fst = (present fields ms).map Prod.fst →
    (∀ (i : Nat) f v e, (present fields ms)[i]? = some f → find? f.1 ms = some v → rs[i]? = some e →
      Conforms f.2 v e.2) →
    (∀ f ∈ fields, find? f.1 ms = none → f.2.isOptional) →
    m.Approves (.object rs) → Conforms (.object m fields) v (.object rs)

namespace Schema

theorem mem_present {fields : List (Text × Schema)} {ms : List (Text × Value)}
    {f : Text × Schema} : f ∈ present fields ms ↔ f ∈ fields ∧ ∃ v, find? f.1 ms = some v := by
  rw [present, List.mem_filter, Option.isSome_iff_exists]

theorem projectFields_eq (fields : List (Text × Schema)) (ms : List (Text × Value)) :
    projectFields fields ms =
      (present fields ms).map fun f => (f.1, f.2.project ((find? f.1 ms).getD .null)) := by
  induction fields with
  | nil => rfl
  | cons f fields ih =>
    obtain ⟨key, child⟩ := f
    cases hv : find? key ms with
    | some v => simp [projectFields, ih, present, hv]
    | none => simp [projectFields, ih, present, hv]

section Nested

variable {limit : Nat}

/-- A conforming array is the array of the projected items. -/
theorem items_of_conforms {item : Schema} {vs rs : List Value}
    (ih : ∀ v r, Conforms item v r → r.depth ≤ limit →
      item.failures limit v = [] ∧ r = item.project v)
    (hl : rs.length = vs.length)
    (hc : ∀ (i : Nat) v r, vs[i]? = some v → rs[i]? = some r → Conforms item v r)
    (hd : ∀ r ∈ rs, r.depth ≤ limit) :
    (∀ v ∈ vs, item.failures limit v = []) ∧ rs = vs.map item.project := by
  have each (i : Nat) (hi : i < vs.length) (hr : i < rs.length) := ih vs[i] rs[i]
    (hc i _ _ (List.getElem?_eq_getElem hi) (List.getElem?_eq_getElem hr))
    (hd _ (List.getElem_mem hr))
  refine ⟨fun v hv => ?_, List.ext_getElem (by rw [hl, List.length_map]) fun i h1 h2 => ?_⟩
  · obtain ⟨i, hi, rfl⟩ := List.mem_iff_getElem.1 hv
    exact (each i hi (hl ▸ hi)).1
  · rw [List.getElem_map]
    exact (each i (hl ▸ h1) h1).2

/-- A conforming object is the object of the projected fields. -/
theorem fields_of_conforms {fields : List (Text × Schema)} {ms rs : List (Text × Value)}
    (ih : ∀ f ∈ fields, ∀ v r, Conforms f.2 v r → r.depth ≤ limit →
      f.2.failures limit v = [] ∧ r = f.2.project v)
    (hk : rs.map Prod.fst = (present fields ms).map Prod.fst)
    (hc : ∀ (i : Nat) f v e, (present fields ms)[i]? = some f → find? f.1 ms = some v →
      rs[i]? = some e → Conforms f.2 v e.2)
    (ho : ∀ f ∈ fields, find? f.1 ms = none → f.2.isOptional) (hd : ∀ e ∈ rs, e.2.depth ≤ limit) :
    (∀ f ∈ fields, FieldPasses limit ms f) ∧ rs = projectFields fields ms := by
  have hl : rs.length = (present fields ms).length := by
    simpa using congrArg List.length hk
  have each (i : Nat) (hi : i < (present fields ms).length) (hr : i < rs.length) (v : Value)
      (hv : find? (present fields ms)[i].1 ms = some v) :=
    ih _ (mem_present.1 (List.getElem_mem hi)).1 v rs[i].2
      (hc i _ v _ (List.getElem?_eq_getElem hi) hv (List.getElem?_eq_getElem hr))
      (hd _ (List.getElem_mem hr))
  refine ⟨fun f hf => ?_, ?_⟩
  · rw [FieldPasses]
    cases hv : find? f.1 ms with
    | none => exact ho f hf hv
    | some v =>
      obtain ⟨i, hi, rfl⟩ := List.mem_iff_getElem.1 (mem_present.2 ⟨hf, v, hv⟩)
      exact (each i hi (hl ▸ hi) v hv).1
  · rw [projectFields_eq]
    refine List.ext_getElem (by rw [hl, List.length_map]) fun i h1 h2 => ?_
    obtain ⟨-, v, hv⟩ := mem_present.1 (List.getElem_mem (hl ▸ h1))
    rw [List.getElem_map, hv, Option.getD_some]
    refine Prod.ext ?_ (each i (hl ▸ h1) h1 v hv).2
    have hki : (rs.map Prod.fst)[i]? = ((present fields ms).map Prod.fst)[i]? := by rw [hk]
    simpa [List.getElem?_eq_getElem h1, List.getElem?_eq_getElem (hl ▸ h1)] using hki

theorem conforms_items {item : Schema} {vs : List Value}
    (ih : ∀ v, item.failures limit v = [] → Conforms item v (item.project v))
    (hvs : ∀ v ∈ vs, item.failures limit v = []) (i : Nat) (v r : Value) (hv : vs[i]? = some v)
    (hr : (vs.map item.project)[i]? = some r) : Conforms item v r := by
  rw [List.getElem?_map, hv] at hr
  cases hr
  exact ih v (hvs v (List.mem_of_getElem? hv))

theorem conforms_fields {fields : List (Text × Schema)} {ms : List (Text × Value)}
    (ih : ∀ f ∈ fields, ∀ v, f.2.failures limit v = [] → Conforms f.2 v (f.2.project v))
    (hms : ∀ f ∈ fields, FieldPasses limit ms f) (i : Nat) (f : Text × Schema) (v : Value)
    (e : Text × Value) (hf : (present fields ms)[i]? = some f) (hv : find? f.1 ms = some v)
    (he : (projectFields fields ms)[i]? = some e) : Conforms f.2 v e.2 := by
  have hmem := (mem_present.1 (List.mem_of_getElem? hf)).1
  have hpass := hms f hmem
  rw [FieldPasses, hv] at hpass
  rw [projectFields_eq, List.getElem?_map, hf] at he
  cases he
  simpa only [hv, Option.getD_some] using ih f hmem v hpass

theorem failures_of_conforms {s : Schema} {v r : Value} (h : Conforms s v r)
    (hd : r.depth ≤ limit) : s.failures limit v = [] ∧ r = s.project v := by
  induction s using nodes generalizing limit v r with
  | primitive m k =>
    rw [failures_primitive_eq_nil_iff, Primitive.accepts_iff, project]
    cases h with
    | primitive hk ha => exact ⟨⟨hk, ha⟩, rfl⟩
  | array m item ih =>
    rw [failures_array_eq_nil_iff]
    cases h with
    | array hl hc ha =>
      obtain ⟨hpos, hd⟩ := Value.depth_array_le_iff.1 hd
      obtain ⟨hvs, rfl⟩ := items_of_conforms (fun v r => ih) hl hc hd
      exact ⟨⟨limit - 1, _, by omega, rfl, hvs, ha⟩, by rw [project]⟩
  | object m fields ih =>
    rw [failures_object_eq_nil_iff]
    cases h with
    | object hv hk hc ho ha =>
      obtain ⟨hpos, hd⟩ := Value.depth_object_le_iff.1 hd
      obtain ⟨hms, rfl⟩ := fields_of_conforms (fun f hf v r => ih f hf) hk hc ho hd
      exact ⟨⟨limit - 1, _, by omega, hv, hms, ha⟩, (project_object hv).symm⟩

theorem conforms_of_failures {s : Schema} {v : Value} (h : s.failures limit v = []) :
    Conforms s v (s.project v) := by
  induction s using nodes generalizing limit v with
  | primitive m k =>
    rw [failures_primitive_eq_nil_iff, Primitive.accepts_iff] at h
    rw [project]
    exact .primitive h.1 h.2
  | array m item ih =>
    obtain ⟨d, vs, rfl, rfl, hvs, ha⟩ := failures_array_eq_nil_iff.1 h
    rw [project]
    exact .array (List.length_map _) (conforms_items (fun v => ih) hvs) ha
  | object m fields ih =>
    obtain ⟨d, ms, rfl, hv, hms, ha⟩ := failures_object_eq_nil_iff.1 h
    rw [project_object hv]
    refine .object hv ?_ (conforms_fields (fun f hf v => ih f hf) hms) ?_ ha
    · rw [projectFields_eq, List.map_map]
      rfl
    · intro f hf hn
      have hpass := hms f hf
      rwa [FieldPasses, hn] at hpass

theorem conforms_iff {s : Schema} {v r : Value} :
    Conforms s v r ∧ r.depth ≤ limit ↔ s.failures limit v = [] ∧ r = s.project v := by
  constructor
  · exact fun ⟨h, hd⟩ => failures_of_conforms h hd
  · rintro ⟨h, rfl⟩
    exact ⟨conforms_of_failures h, depth_project_le (failures_bare_of_eq_nil h)⟩

theorem conforms_bare_iff {s : Schema} {v r : Value} :
    Conforms s.bare v r ∧ r.depth ≤ limit ↔ s.bare.failures limit v = [] ∧ r = s.project v := by
  rw [conforms_iff, project_bare]

/-- An object in what is kept stands at an object node and has keys of that node only. -/
theorem declared_of_project {s : Schema} {v : Value} (h : s.failures limit v = []) {q : Path}
    {rs : List (Text × Value)} (hq : (s.project v).at? q = some (.object rs)) :
    ∃ m fields, s.Reaches q (.object m fields) ∧ ∀ e ∈ rs, ∃ child, (e.1, child) ∈ fields := by
  induction s using nodes generalizing limit v q with
  | primitive m k =>
    have hk := (failures_primitive_eq_nil_iff.1 h).1
    rw [project] at hq
    have hplain : v.parts = [v] := by
      cases k <;> cases v <;> simp_all [Primitive.accepts, Value.parts]
    have hobject := List.mem_singleton.1 (hplain ▸ Value.mem_parts_of_at? hq)
    rw [← hobject] at hk
    cases k <;> cases hk
  | array m item ih =>
    obtain ⟨d, vs, rfl, rfl, hvs, -⟩ := failures_array_eq_nil_iff.1 h
    rw [project] at hq
    cases q with
    | nil => simp at hq
    | cons step q =>
      obtain ⟨i, a, rfl, ha, hq⟩ := Value.at?_array_cons hq
      obtain ⟨w, hw, rfl⟩ := List.mem_map.1 (List.mem_of_getElem? ha)
      obtain ⟨m', fields, hr, hd⟩ := ih (hvs w hw) hq
      exact ⟨m', fields, .item hr, hd⟩
  | object m fields ih =>
    obtain ⟨d, ms, rfl, hv, hms, -⟩ := failures_object_eq_nil_iff.1 h
    rw [project_object hv] at hq
    cases q with
    | nil =>
      cases (Value.at?_nil _).symm.trans hq
      refine ⟨m, fields, .here _, fun e he => ?_⟩
      obtain ⟨child, -, hc, -⟩ := mem_projectFields he
      exact ⟨child, hc⟩
    | cons step q =>
      obtain ⟨k, a, rfl, ha, hq⟩ := Value.at?_members_cons rfl hq
      obtain ⟨child, w, hc, hw, rfl⟩ := mem_projectFields (find?_mem ha)
      have hpass := hms _ hc
      rw [FieldPasses, hw] at hpass
      obtain ⟨m', fields', hr, hd⟩ := ih _ hc hpass hq
      exact ⟨m', fields', .field hc hr, hd⟩

/--
Where rules answer, all that a check can raise besides a failure is about a long integer, or about a
container that stands too deep.
-/
theorem failure_or_fault_of_located {s : Schema} (hs : s.RulesAnswer) {v : Value} {f : Finding}
    (hf : s.Located limit v f) :
    (∃ g, f.raised = .failure g) ∨
    (f.raised = .fault Json.EncodeError.longInteger.toFault ∧
      ∃ n u a, s.Reaches f.path n ∧ v.at? f.path = some u ∧ Conforms n.bare u a ∧
        n.marks.Refuses a ∧ Json.HoldsLong a) ∨
    f.raised = .fault .tooDeep ∧ f.path.length = limit ∧
      ∃ n u, s.Reaches f.path n ∧ v.at? f.path = some u ∧ n.Fits u ∧ 0 < (n.project u).depth := by
  obtain ⟨d, n, u, hd, hn, hu, hx⟩ := hf
  generalize hc : f.cause = c at hx
  cases hx with
  | misfit => exact .inl ⟨_, Finding.raised_of_failure hc⟩
  | missing => exact .inl ⟨_, Finding.raised_of_failure hc⟩
  | refused hb hr he =>
    rcases refusal_of_bare hb with ⟨-, text, -, ht⟩ | ⟨hk, hl⟩
    · exact .inl ⟨_, Finding.raised_of_failure (hc.trans (he.trans ht))⟩
    · exact .inr (.inl ⟨Finding.raised_of_fault (hc.trans (he.trans hl)), n, u, n.project u, hn, hu,
        (conforms_bare_iff.2 ⟨hb, rfl⟩).1, hr, hk⟩)
  | raised hb he =>
    obtain ⟨b, hb⟩ := hs.judge hn (n.project u)
    rw [hb] at he
    cases he
  | deep hz hfits hdeep =>
    have hlength : f.path.length = limit := by omega
    exact .inr (.inr ⟨Finding.raised_of_fault hc, hlength, n, u, hn, hu, hfits, hdeep⟩)

/-- The rule of a node refuses what is assembled there with a fault exactly if that is too long. -/
theorem check_fault_iff {s : Schema} {v a : Value} (h : Conforms s.bare v a) (hd : a.depth ≤ limit)
    (hr : s.marks.Refuses a) :
    (s.check limit v).result = .error (.fault Json.EncodeError.longInteger.toFault) ↔
      Json.HoldsLong a := by
  obtain ⟨hb, rfl⟩ := conforms_bare_iff.1 ⟨h, hd⟩
  have hraised : (s.check limit v).result = .error (s.refusal limit (s.project v)) := by
    rw [check_result, failures_of_bare hb, objections_of_refuses hr]
    cases s.refusal limit (s.project v) <;> rfl
  rw [hraised]
  rcases refusal_of_bare hb with ⟨hshort, text, -, ht⟩ | ⟨hlong, hl⟩
  · rw [ht]
    exact ⟨nofun, fun hlong => absurd hlong hshort⟩
  · rw [hl]
    exact ⟨fun _ => hlong, fun _ => rfl⟩

end Nested

/--
A check returns `r` exactly when the value conforms and `r` is what is kept of it, without nulls
and undeclared keys, and nests within the limit. Where rules answer it raises a failure otherwise,
or the fault of printing a value with a long integer that a rule refuses, or that a container stands
too deep; and refusing such a value raises no failure.
-/
theorem check_decides_conformance (limit : Nat) (s : Schema) (v : Value) :
    (∀ r, (s.check limit v).result = .ok r ↔ Conforms s v r ∧ r.depth ≤ limit) ∧
    (∀ r, Conforms s v r → .null ∉ r.parts ∧
      ∀ q rs, r.at? q = some (.object rs) → ∃ m fields, s.Reaches q (.object m fields) ∧
        ∀ e ∈ rs, ∃ child, (e.1, child) ∈ fields) ∧
    (s.RulesAnswer → ∀ e, (s.check limit v).result = .error e →
      (∃ f, e = .failure f) ∨
      (e = .fault Json.EncodeError.longInteger.toFault ∧
        ∃ p n u a, s.Reaches p n ∧ v.at? p = some u ∧ Conforms n.bare u a ∧
          n.marks.Refuses a ∧ Json.HoldsLong a) ∨
      e = .fault .tooDeep ∧ ∃ p n u, p.length = limit ∧ s.Reaches p n ∧ v.at? p = some u ∧
        n.Fits u ∧ 0 < (n.project u).depth) ∧
    (∀ a, Conforms s.bare v a → a.depth ≤ limit → s.marks.Refuses a →
      ((s.check limit v).result = .error (.fault Json.EncodeError.longInteger.toFault) ↔
        Json.HoldsLong a)) := by
  refine ⟨fun r => ?_, fun r hr => ?_, fun hs e he => ?_, fun a => check_fault_iff⟩
  · rw [check_result, outcome_eq_ok_iff, conforms_iff]
  · obtain ⟨h, rfl⟩ := failures_of_conforms hr (Nat.le_refl r.depth)
    exact ⟨isPlain_of_mem_project (failures_bare_of_eq_nil h), fun q rs => declared_of_project h⟩
  · rw [check_result] at he
    cases hf : s.failures limit v with
    | nil => rw [hf] at he; cases he
    | cons f fs =>
      rw [hf] at he
      cases he
      have hl : s.Located limit v f := located_of_mem_failures (hf ▸ List.mem_cons_self ..)
      rcases failure_or_fault_of_located hs hl with h | ⟨h, hloc⟩ | ⟨h, hlength, n, u, hloc⟩
      · exact .inl h
      · exact .inr (.inl ⟨h, f.path, hloc⟩)
      · exact .inr (.inr ⟨h, f.path, n, u, hlength, hloc⟩)

/-- A long integer that a rule refuses makes a check raise what is no failure. -/
theorem long_integer_raises_no_failure :
    noNumber.RulesAnswer ∧ ∀ limit, (∀ r, (noNumber.check limit (.int longNumber)).result ≠ .ok r) ∧
      ∀ f, (noNumber.check limit (.int longNumber)).result ≠ .error (.failure f) := by
  refine ⟨?_, fun limit => ?_⟩
  · intro rule hr v
    cases List.mem_singleton.1 hr
    exact ⟨false, rfl⟩
  · rw [check_noNumber_long]
    exact ⟨nofun, nofun⟩

end Schema

end ReplySchema
