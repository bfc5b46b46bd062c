import ReplySchema.Proofs.Schema.Gating
import ReplySchema.Proofs.Schema.Reports
import ReplySchema.Proofs.Schema.Undeclared

/-!
Accepted values are fixed points. What a check keeps of a value has the declared members that the
value has and no others, so checking it again puts the same questions and keeps all of it; and the
text of what a parse returns is parsed to the same value once more.
-/

namespace ReplySchema

namespace Schema

/-- Among what is kept of an object a field finds what is kept of its member, if it has one. -/
theorem find?_projectFields {fields : List (Text × Schema)} (hk : (fields.map Prod.fst).Nodup)
    (ms : List (Text × Value)) {f : Text × Schema} (hf : f ∈ fields) :
    find? f.1 (projectFields fields ms) = (find? f.1 ms).map f.2.project := by
  cases hv : find? f.1 ms with
  | some v =>
    refine find?_of_mem (nodup_keys_projectFields hk ms) ?_
    rw [projectFields_eq]
    exact List.mem_map.2 ⟨f, mem_present.2 ⟨hf, v, hv⟩, by simp [hv]⟩
  | none =>
    refine find?_of_not_mem fun hmem => ?_
    obtain ⟨e, he, hkey⟩ := List.mem_map.1 hmem
    obtain ⟨child, v, -, hfound, -⟩ := mem_projectFields he
    simp [hkey, hv] at hfound

/-- What is kept of a value that passes is checked by the run that checked the value. -/
theorem check_project {limit : Nat} {s : Schema} (hs : s.DistinctFields) {v : Value}
    (h : s.failures limit v = []) : s.check limit (s.project v) = s.check limit v := by
  induction s using nodes generalizing limit v with
  | primitive m k => rw [project]
  | array m item ih =>
    obtain ⟨d, vs, rfl, rfl, hvs, -⟩ := failures_array_eq_nil_iff.1 h
    have hitems : ∀ (i : Nat) w v, (vs.map item.project)[i]? = some w → vs[i]? = some v →
        item.check d w = item.check d v := by
      intro i w v hw hv
      rw [List.getElem?_map, hv] at hw
      cases hw
      exact ih hs.item (hvs v (List.mem_of_getElem? hv))
    rw [project, check, check, Run.inside_succ, Run.inside_succ,
      checkItems_congr (List.length_map _) hitems]
  | object m fields ih =>
    obtain ⟨d, ms, rfl, hv, hms, -⟩ := failures_object_eq_nil_iff.1 h
    have hfind := fun f (hf : f ∈ fields) => find?_projectFields hs.keys ms hf
    have hpresent : ∀ f ∈ fields,
        (find? f.1 (projectFields fields ms)).isSome = (find? f.1 ms).isSome :=
      fun f hf => by rw [hfind f hf, Option.isSome_map]
    have hchildren : ∀ f ∈ fields, ∀ w v, find? f.1 (projectFields fields ms) = some w →
        find? f.1 ms = some v → f.2.check d w = f.2.check d v := by
      intro f hf w v hw hv
      have hpass := hms f hf
      rw [FieldPasses, hv] at hpass
      rw [hfind f hf, hv] at hw
      cases hw
      exact ih f hf (hs.field hf) hpass
    rw [project_object hv, check, check, hv, Value.members?_object]
    dsimp only [Run.inside_succ]
    rw [checkFields_congr hpresent hchildren]

theorem check_of_ok {limit : Nat} {s : Schema} (hs : s.DistinctFields) {v r : Value}
    (h : (s.check limit v).result = .ok r) : s.check limit r = s.check limit v := by
  rw [check_result, outcome_eq_ok_iff] at h
  obtain ⟨hpass, rfl⟩ := h
  exact check_project hs hpass

/-- All rules that a check asks before it returns have said yes. -/
theorem answers_of_ok {limit : Nat} {s : Schema} {v r : Value}
    (h : (s.check limit v).result = .ok r) {c : Call} (hc : c ∈ (s.check limit v).calls) :
    c.verdict.answer = .ok true := by
  cases follows_check limit s v with
  | through a hpass hcalls hresult =>
    rw [hcalls] at hc
    obtain ⟨x, hx, hcall⟩ := List.mem_filterMap.1 hc
    obtain ⟨u, rule, -, -, hr, -⟩ := Visit.call?_eq_some hcall
    obtain ⟨d, hd, -, hyes⟩ := (hpass x hx).call (by simp [hr])
    cases hcall.symm.trans hd
    exact hyes
  | halted before x after e hx hp hn hcalls hresult =>
    rw [h] at hresult
    cases hresult

/-- What a parse returns has a text, and parsing that text is checking the decoded value again. -/
theorem exists_text_of_parse {st : Json.Strictness} {s : Schema} (hs : s.DistinctFields)
    {source : Json.Source} {r : Value} (h : (s.parse st source).result = .ok r) :
    ∃ t, Json.encode st.nesting r = .ok t ∧ s.parse st (.text t) = s.parse st source := by
  obtain ⟨v, hv, hr⟩ := parse_ok h
  have hagain := check_of_ok hs hr
  rw [check_result, outcome_eq_ok_iff] at hr
  obtain ⟨-, rfl⟩ := hr
  have hdecoded := decoded_project hs (Json.decoded_of_decode hv)
  obtain ⟨t, ht, hd⟩ := hdecoded.reads_back (Nat.le_refl _) (Value.mem_parts_self _)
  refine ⟨t, ht, ?_⟩
  rw [parse, parse, hd, hv]
  exact hagain

/--
What a check returns is accepted as it is, by the same questions with the same answers, all of them
yes. What a parse returns has a text, which is parsed to that value under the same setting, again by
the same questions.
-/
theorem accepted_value_fixed {s : Schema} (hs : s.DistinctFields) :
    (∀ limit v r, (s.check limit v).result = .ok r →
      (s.check limit r).result = .ok r ∧ (s.check limit r).calls = (s.check limit v).calls ∧
        ∀ c ∈ (s.check limit r).calls, c.verdict.answer = .ok true) ∧
    ∀ st source r, (s.parse st source).result = .ok r →
      ∃ t, Json.encode st.nesting r = .ok t ∧ (s.parse st (.text t)).result = .ok r ∧
        (s.parse st (.text t)).calls = (s.parse st source).calls := by
  refine ⟨fun limit v r h => ?_, fun st source r h => ?_⟩
  · rw [check_of_ok hs h]
    exact ⟨h, rfl, fun c => answers_of_ok h⟩
  · obtain ⟨t, ht, hparse⟩ := exists_text_of_parse hs h
    refine ⟨t, ht, ?_⟩
    rw [hparse]
    exact ⟨h, rfl⟩

def unnamed : Schema :=
  .object .plain
    [("note", .primitive ⟨none, true⟩ .string),
      ("tags", .array ⟨some .always, false⟩ (.object .plain []))]

def unnamedMembers : List (Text × Value) := [("tags", .array [.object []])]

theorem parse_unnamedMembers :
    unnamed.DistinctFields ∧
      (unnamed.parse ⟨false, 1000⟩ (.text taggedText)).result = .ok (.object unnamedMembers) ∧
      ∃ t, Json.encode 1000 (.object unnamedMembers) = .ok t ∧
        (unnamed.parse ⟨false, 1000⟩ (.text t)).result = .ok (.object unnamedMembers) := by
  have hs : unnamed.DistinctFields := by
    simp only [unnamed, distinctFields_object_iff, List.forall_mem_cons, distinctFields_array_iff]
    exact ⟨by decide, distinctFields_primitive _ _, ⟨by decide, List.forall_mem_nil _⟩,
      List.forall_mem_nil _⟩
  have hparse :
      (unnamed.parse ⟨false, 1000⟩ (.text taggedText)).result = .ok (.object unnamedMembers) := by
    rw [parse, decode_taggedText]
    rfl
  obtain ⟨t, ht, hagain, -⟩ := (accepted_value_fixed hs).2 _ _ _ hparse
  exact ⟨hs, hparse, t, ht, hagain⟩

end Schema

end ReplySchema
