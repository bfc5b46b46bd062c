import Mathlib.Data.List.Lex
import ReplySchema.Proofs.Model.Meaning
import ReplySchema.Proofs.Model.Walks
import ReplySchema.Proofs.Text.Quoting

/-!
The fields of a model and of its schema. At every level a schema has one field for each field of the
model, in the same order, exactly if there the keys of the fields differ: of two fields under one key
only the later one is kept, in the place of the earlier. What has no schema is reported as a type
error, except that a choice among strings fails with the error of its label if one of the strings
ends a comment.
-/

namespace ReplySchema

namespace Rule

theorem not_mem_closing_of_all {u : Text} (hu : u.all (fun c => c != '*' && c != '/') = true) :
    ∀ c ∈ u, c ∉ ("*/" : Text) := by
  intro c hc
  rw [Quoted.mem_closing_iff, not_or]
  simpa using List.all_eq_true.1 hu c hc

/-- The end of a comment stands in a list of quoted strings exactly if it stands in one of them. -/
theorem closing_infix_listed_iff {values : List Text} :
    ("*/" : Text) <:+: "value in [" ++ Text.join ", " (values.map Quoted.encode) ++ "]" ↔
      ∃ t ∈ values, ("*/" : Text) <:+: t := by
  have hne : ("*/" : Text) ≠ [] := List.cons_ne_nil _ _
  have hbefore : ∀ c ∈ ("value in [" : Text), c ∉ ("*/" : Text) :=
    not_mem_closing_of_all (by decide)
  have hbetween : ∀ c ∈ (", " : Text), c ∉ ("*/" : Text) := not_mem_closing_of_all (by decide)
  have hbehind : ∀ c ∈ ("]" : Text), c ∉ ("*/" : Text) := not_mem_closing_of_all (by decide)
  have hjoin : ("*/" : Text) <:+: Text.join ", " (values.map Quoted.encode) ↔
      ∃ t ∈ values, ("*/" : Text) <:+: t := by
    rw [Text.infix_join_iff hne (by decide) hbetween]
    simp [Quoted.closing_infix_encode_iff]
  rw [← hjoin]
  constructor
  · intro h
    rcases Text.infix_append_cons (hbehind _ (List.mem_cons_self ..)) h with h | h
    · exact Text.infix_of_infix_append hbefore h
    · exact absurd (List.eq_nil_of_infix_nil h) hne
  · intro h
    exact h.trans ⟨_, _, rfl⟩

/-- A label that lists strings is refused exactly if one of them ends a comment. -/
theorem oneOf_eq_error_iff {values : List Text} {e : BuildError} :
    oneOf values = .error e ↔ e = .closingLabel ∧ ∃ t ∈ values, ("*/" : Text) <:+: t := by
  rw [oneOf, ← closing_infix_listed_iff]
  generalize hl : "value in [" ++ Text.join ", " (values.map Quoted.encode) ++ "]" = label
  have hblank : label.isBlank = false := by
    rw [← hl]
    rfl
  rw [checkLabel, hblank, if_neg Bool.false_ne_true]
  cases hc : label.contains "*/" with
  | false => simp [Text.contains_eq_false_iff.1 hc, Except.map]
  | true =>
    have hin : ("*/" : Text) <:+: label := by
      by_contra hnot
      rw [Text.contains_eq_false_iff.2 hnot] at hc
      cases hc
    simp [hin, Except.map, eq_comm]

end Rule

def Schema.asRequired (s : Schema) : Schema := s.withMarks { s.marks with optional := false }

theorem Schema.asRequired_asField {s : Schema} (h : s.isOptional = false) (required : Bool) :
    (s.asField required).asRequired = s := by
  obtain ⟨⟨rule, optional⟩, k⟩ | ⟨⟨rule, optional⟩, item⟩ | ⟨⟨rule, optional⟩, fields⟩ := s
  all_goals
    obtain rfl : optional = false := h
    cases required <;> rfl

namespace Model

/--
`Mirrors models a s`: wherever the type asks for a model, the schema has an object with one field for
each field of the model, in the order of the model and under its key, which may be left out exactly
if the model does not require the field.
-/
inductive Mirrors (models : List Model) : FieldType → Schema → Prop
  | scalar {a : FieldType} {r : Reading} {s : Schema} : a.Reads r → r.Scalar s → Mirrors models a s
  | list {a item : FieldType} {s : Schema} :
    a.Reads (.list item) → Mirrors models item s → Mirrors models a (.array .plain s)
  | model {a : FieldType} {name : Text} {m : Model} {fields : List (Text × Schema)} :
    a.Reads (.model m.id name) → m ∈ models → (fields.map Prod.fst).Nodup →
      fields.map (fun e => (e.1, e.2.isOptional)) =
        m.fields.map (fun f => (f.documentKey, !f.required)) →
      (∀ (i : Nat) f e, m.fields[i]? = some f → fields[i]? = some e →
        Mirrors models f.type.withoutRemarks e.2.asRequired) →
      Mirrors models a (.object .plain fields)

/-- The conversion ends with a type error or with a schema that has the fields of the model. -/
def Faithful (models : List Model) (m : Model) : Prop :=
  (∃ text, schema models m.id m.name = .error ⟨.type, text⟩) ∨
    ∃ s, schema models m.id m.name = .ok s ∧ Mirrors models (.model m.id m.name) s

/-- The first field that is not converted is a choice among strings one of which ends a comment. -/
def ClosesComment (models : List Model) (m : Model) : Prop :=
  ∃ legs leg values t, FirstFlaw models [] m (legs ++ [leg]) (.label .closingLabel) ∧
    leg.field.leaf = .oneOf values ∧ t ∈ values ∧ ("*/" : Text) <:+: t

variable {models outside met : List Model} {m n : Model} {a : FieldType} {s : Schema}

section Mirroring

theorem Compiles.mirrors (h : Compiles outside a s) (hsub : outside ⊆ models)
    (hkeys : ∀ m, Level models a m → (m.fields.map Field.documentKey).Nodup) :
    Mirrors models a s := by
  induction h with
  | scalar ha hs => exact .scalar ha hs
  | list ha _ ih => exact .list ha (ih hsub fun m hm => hkeys m (.item ha hm))
  | @model outside rest a id name m pairs ha hm hp hpairs ih =>
    obtain ⟨hmem, rfl, hrest⟩ := mem_of_enter? hm
    have hnodup := hkeys m (.here ha (hsub hmem))
    have hnot : ∀ p ∈ pairs, p.2.isOptional = false := fun p hpm => (hpairs p hpm).not_optional
    rw [foldl_declare hp hnodup]
    refine .model ha (hsub hmem) ?_ ?_ ?_
    · rw [← hp, List.map_map] at hnodup
      rw [List.map_map]
      exact hnodup
    · rw [← hp, List.map_map, List.map_map, List.map_inj_left]
      intro p hpm
      simp [Field.declare, Schema.isOptional_asField (hnot p hpm)]
    · intro i f e hf he
      rw [← hp, List.getElem?_map, Option.map_eq_some_iff] at hf
      obtain ⟨p, hi, rfl⟩ := hf
      rw [List.getElem?_map, hi, Option.map_some, Option.some.injEq] at he
      obtain rfl := he
      have hpm := List.mem_of_getElem? hi
      have hfield : p.1 ∈ m.fields := hp ▸ List.mem_map_of_mem hpm
      rw [Field.declare, Schema.asRequired_asField (hnot p hpm)]
      refine ih p hpm (List.Subset.trans hrest hsub) fun n hn => hkeys n ?_
      exact .field ha (hsub hmem) hfield hn

theorem Mirrors.nodup_keys (hids : (models.map Model.id).Nodup) (hs : Mirrors models a s)
    (hn : Level models a n) : (n.fields.map Field.documentKey).Nodup := by
  induction hs with
  | scalar ha hr =>
    cases hn with
    | here ha' => cases ha.unique ha'; cases hr
    | item ha' => cases ha.unique ha'; cases hr
    | field ha' => cases ha.unique ha'; cases hr
  | list ha _ ih =>
    cases hn with
    | here ha' => cases ha.unique ha'
    | item ha' hn =>
      cases ha.unique ha'
      exact ih hn
    | field ha' => cases ha.unique ha'
  | @model a name m fields ha hm hnodup hkeys _ ih =>
    have hfields : fields.map Prod.fst = m.fields.map Field.documentKey := by
      simpa [Function.comp_def] using congrArg (List.map Prod.fst) hkeys
    cases hn with
    | here ha' hn =>
      have hid := (Reading.model.inj (ha.unique ha')).1
      obtain rfl : m = n := List.inj_on_of_nodup_map hids hm hn hid
      rw [← hfields]
      exact hnodup
    | item ha' => cases ha.unique ha'
    | @field _ _ k _ f ha' hk hf hn =>
      have hid := (Reading.model.inj (ha.unique ha')).1
      obtain rfl : m = k := List.inj_on_of_nodup_map hids hm hk hid
      obtain ⟨i, hi⟩ := List.mem_iff_getElem?.1 hf
      have hlength : fields.length = m.fields.length := by
        simpa using congrArg List.length hfields
      have hlt : i < fields.length := hlength ▸ (List.getElem?_eq_some_iff.1 hi).1
      exact ih i f fields[i] hi (List.getElem?_eq_getElem hlt) hn

end Mirroring

section Flaws

variable {legs legs' : List Leg} {e e' : ConvertError}

/-- The reading of a field tells why the conversion stops there. -/
theorem Obstacle.unique {met' : List Model} {r : Reading} (h : Obstacle met r e)
    (h' : Obstacle met' r e') : e = e' := by
  cases h with
  | type cause =>
    cases h'
    rfl
  | label he =>
    cases h' with
    | label he' => exact congrArg ConvertError.label (Except.error.inj (he.symm.trans he'))
  | @again n hn =>
    generalize n.id = id at h'
    generalize n.name = name at h'
    cases h'
    rfl

/-- A flaw is told by the places of its fields. -/
theorem Flaw.unique (h : Family models) (hf : Flaw models met m legs e)
    (hf' : Flaw models met m legs' e') (hplaces : legs.map Leg.place = legs'.map Leg.place) :
    legs = legs' ∧ e = e' := by
  induction hf generalizing legs' e' with
  | @here met m i f e hi ho =>
    cases hf' with
    | @here _ _ j g _ hj ho' =>
      obtain rfl : i = j := by simpa using hplaces
      obtain rfl := Option.some.inj (hi.symm.trans hj)
      exact ⟨rfl, ho.unique ho'⟩
    | further _ _ _ _ hrest =>
      simp only [List.map_cons, List.map_nil, List.cons.injEq, List.nil_eq, List.map_eq_nil_iff]
        at hplaces
      exact absurd hplaces.2 hrest.ne_nil
  | @further met m n i f legs e hi hleaf hn hnmet hrest ih =>
    cases hf' with
    | here _ _ =>
      simp only [List.map_cons, List.map_nil, List.cons.injEq, List.map_eq_nil_iff] at hplaces
      exact absurd hplaces.2 hrest.ne_nil
    | @further _ _ k j g _ _ hj hleaf' hk _ hrest' =>
      simp only [List.map_cons, List.cons.injEq] at hplaces
      obtain ⟨rfl, hplaces⟩ := hplaces
      obtain rfl := Option.some.inj (hi.symm.trans hj)
      obtain rfl : n = k := h.eq_of_id hn hk (Reading.model.inj (hleaf.symm.trans hleaf')).1
      obtain ⟨rfl, rfl⟩ := ih hrest' hplaces
      exact ⟨rfl, rfl⟩

/-- A walk to a flaw ends with the obstacle. -/
theorem Flaw.obstacle (hf : Flaw models met m legs e) :
    ∃ front leg met', legs = front ++ [leg] ∧ Obstacle met' leg.field.leaf e := by
  induction hf with
  | @here met m i f e hi ho => exact ⟨[], _, _, rfl, ho⟩
  | further _ _ _ _ _ ih =>
    obtain ⟨front, leg, met', rfl, ho⟩ := ih
    exact ⟨_ :: front, leg, met', rfl, ho⟩

theorem FirstFlaw.unique (h : Family models) (hf : FirstFlaw models met m legs e)
    (hf' : FirstFlaw models met m legs' e') : legs = legs' ∧ e = e' := by
  apply hf.flaw.unique h hf'.flaw
  -- of two first flaws none is before the other
  apply Std.Trichotomous.trichotomous (r := List.Lex (· < ·))
  · exact hf'.first _ _ hf.flaw
  · exact hf.first _ _ hf'.flaw

theorem reported_label (legs : List Leg) (cause : BuildError) :
    reported legs (.label cause) = .label cause := by
  induction legs with
  | nil => rfl
  | cons leg legs ih =>
    rw [reported, List.foldr_cons, ← reported, ih]
    rfl

/-- A flaw is a type error, or a choice among strings one of which ends a comment. -/
theorem Flaw.fault_cases (hf : Flaw models met m legs e) :
    (∃ text, (reported legs e).fault = ⟨.type, text⟩) ∨
      ∃ front leg values t, legs = front ++ [leg] ∧ e = .label .closingLabel ∧
        leg.field.leaf = .oneOf values ∧ t ∈ values ∧ ("*/" : Text) <:+: t := by
  obtain ⟨front, leg, met', rfl, ho⟩ := hf.obstacle
  generalize hr : leg.field.leaf = r at ho
  cases ho with
  | type cause => exact .inl ⟨_, congrArg _ (reported_unsupported _ cause)⟩
  | again hn => exact .inl ⟨_, congrArg _ (reported_unsupported _ _)⟩
  | label he =>
    obtain ⟨rfl, t, ht, hin⟩ := Rule.oneOf_eq_error_iff.1 he
    exact .inr ⟨front, leg, _, t, rfl, rfl, hr, ht, hin⟩

theorem schema_of_closesComment (h : Family models) (hm : m ∈ models)
    (hc : ClosesComment models m) : schema models m.id m.name = .error BuildError.closingLabel.fault := by
  obtain ⟨front, leg, values, t, hfirst, -⟩ := hc
  rcases schema_of_family h hm with ⟨-, hno⟩ | ⟨legs, e, hfirst', herror⟩
  · exact absurd hfirst.flaw (hno _ _)
  · obtain ⟨rfl, rfl⟩ := hfirst.unique h hfirst'
    rw [herror, reported_label]
    rfl

end Flaws

/-- A model that has no schema has a type error, unless a choice among strings ends a comment. -/
theorem schema_cases (h : Family models) (hm : m ∈ models) :
    (∃ s, schema models m.id m.name = .ok s) ∨ ClosesComment models m ∨
      ∃ text, schema models m.id m.name = .error ⟨.type, text⟩ := by
  rcases schema_of_family h hm with ⟨hok, -⟩ | ⟨legs, e, hfirst, herror⟩
  · exact .inl hok
  · rcases hfirst.flaw.fault_cases with ⟨text, htext⟩ | ⟨front, leg, values, t, rfl, rfl, hrest⟩
    · exact .inr (.inr ⟨text, herror.trans (congrArg _ htext)⟩)
    · exact .inr (.inl ⟨front, leg, values, t, hfirst, hrest⟩)

/--
The conversion is faithful exactly if the first field without a schema, should there be one, is no
choice among strings one of which ends a comment, and otherwise at every level the keys of the fields
differ. Such a choice raises the value error of its label. Where keys coincide the later field takes
the place of the earlier one.
-/
theorem faithful_iff (h : Family models) (hm : m ∈ models) :
    (Faithful models m ↔ ¬ ClosesComment models m ∧
      ∀ s, schema models m.id m.name = .ok s → ∀ n, Level models (.model m.id m.name) n →
        (n.fields.map Field.documentKey).Nodup) ∧
    (ClosesComment models m → schema models m.id m.name =
      .error ⟨.value, "label must not contain '*/', it would close the hint comment"⟩) ∧
    (∀ s, schema models m.id m.name = .ok s → Expands models (.model m.id m.name) s) := by
  have hclosing := schema_of_closesComment h hm
  have hcompiles : ∀ s, schema models m.id m.name = .ok s →
      Compiles models (.model m.id m.name) s := fun s hs => compiles_of_convert (mapError_ok hs)
  refine ⟨⟨?_, ?_⟩, hclosing, fun s hs => (hcompiles s hs).expands (List.Subset.refl _)⟩
  · rintro (⟨text, htext⟩ | ⟨s, hs, hmirrors⟩)
    · refine ⟨fun hc => ?_, fun s hs => ?_⟩
      · cases htext.symm.trans (hclosing hc)
      · cases htext.symm.trans hs
    · refine ⟨fun hc => ?_, fun s' _ n hn => hmirrors.nodup_keys h.ids hn⟩
      cases hs.symm.trans (hclosing hc)
  · rintro ⟨hno, hkeys⟩
    rcases schema_cases h hm with ⟨s, hs⟩ | hc | htext
    · exact .inr ⟨s, hs, (hcompiles s hs).mirrors (List.Subset.refl _) (hkeys s hs)⟩
    · exact absurd hc hno
    · exact .inl htext

/-- A family is closed if every model that a field asks for is there. -/
theorem family_of_leaves (hids : (models.map Model.id).Nodup)
    (hleaves : ∀ r ∈ models.flatMap (fun m => m.fields.map Field.leaf), ∀ id name,
      r = .model id name → ∃ n ∈ models, n.id = id ∧ n.name = name) : Family models :=
  ⟨hids, fun m hm f hf id name h => hleaves f.leaf
    (List.mem_flatMap.2 ⟨m, hm, List.mem_map_of_mem hf⟩) id name (Field.asks_model_iff.1 h)⟩

theorem family_shop : Family shop := by
  apply family_of_leaves (by decide)
  have hleaves : shop.flatMap (fun m => m.fields.map Field.leaf) =
      [.string, .integer, .model 0 "Line"] := by cbv
  rw [hleaves]
  simp [shop]

theorem faithful_shop : Family shop ∧ shop[1] ∈ shop ∧
    schema shop 1 "Order" = .ok shopSchema ∧ Faithful shop shop[1] := by
  have hmem : shop[1] ∈ shop := List.getElem_mem _
  have hschema : schema shop 1 "Order" = .ok shopSchema := by cbv
  have hiff := faithful_iff family_shop hmem
  refine ⟨family_shop, hmem, hschema, hiff.1.2 ⟨fun hc => ?_, fun s hs n hn => ?_⟩⟩
  · cases hschema.symm.trans (hiff.2.1 hc)
  · have hall : ∀ n ∈ shop, (n.fields.map Field.documentKey).Nodup := by decide
    exact hall n hn.mem

def namesakes : Model :=
  ⟨0, "Twice", [⟨"b", .plain .integer, none, true⟩, ⟨"a", .plain .string, some "b", true⟩]⟩

def closingChoice : Model := ⟨1, "Choice", [⟨"f", .literal [.string "*/"], none, true⟩]⟩

theorem family_namesakes : Family [namesakes, closingChoice] := by
  apply family_of_leaves (by decide)
  have hleaves : [namesakes, closingChoice].flatMap (fun m => m.fields.map Field.leaf) =
      [.integer, .string, .oneOf ["*/"]] := by cbv
  rw [hleaves]
  simp

/-- One of the two fields is lost, and the choice fails with the value error of its label. -/
theorem namesakes_lost : Family [namesakes, closingChoice] ∧
    ¬ Faithful [namesakes, closingChoice] namesakes ∧
    ¬ Faithful [namesakes, closingChoice] closingChoice := by
  refine ⟨family_namesakes, ?_, ?_⟩
  · have hschema : schema [namesakes, closingChoice] 0 "Twice" =
        .ok (.object .plain [("b", .string none)]) := by cbv
    rintro (⟨text, htext⟩ | ⟨s, -, hmirrors⟩)
    · cases hschema.symm.trans htext
    · have hkeys := hmirrors.nodup_keys (by decide) (.here .model (List.mem_cons_self ..))
      exact absurd hkeys (by decide)
  · have hschema : schema [namesakes, closingChoice] 1 "Choice" =
        .error ⟨.value, "label must not contain '*/', it would close the hint comment"⟩ := by cbv
    rintro (⟨text, htext⟩ | ⟨s, hs, -⟩)
    · cases hschema.symm.trans htext
    · cases hschema.symm.trans hs

end Model

end ReplySchema
