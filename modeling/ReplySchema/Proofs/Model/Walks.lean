import Mathlib.Data.List.Nodup
import ReplySchema.Proofs.Model.Compiled

/-!
Walks through models. The conversion of a model goes depth first along the fields that hold further
models, and gives up at the first field that it cannot convert: because of its type, because of the
label of its literals, or because its model is being converted already. A flaw is a walk to such a
field through models that are all different. The conversion returns a schema exactly if there is no
flaw, and otherwise reports the flaw that comes first when places are compared like words.
-/

namespace ReplySchema

namespace FieldType

def leaf (a : FieldType) : Reading :=
  match h : a.reading with
  | .list item =>
    have := sizeOf_reading h
    item.leaf
  | r => r
termination_by sizeOf a

theorem leaf_of_list {a item : FieldType} (h : a.reading = .list item) : a.leaf = item.leaf := by
  rw [leaf]
  split
  next b hb =>
    obtain rfl := Reading.list.inj (h.symm.trans hb)
    rfl
  next hn => exact absurd h (hn item)

theorem leaf_of_not_list {a : FieldType} (h : ∀ item, a.reading ≠ .list item) :
    a.leaf = a.reading := by
  rw [leaf]
  split
  next b hb => exact absurd hb (h b)
  next => rfl

/-- The type asks for what the reading says, or for lists of it, perhaps lists of lists. -/
inductive Asks : FieldType → Reading → Prop
  | self {a : FieldType} {r : Reading} : a.Reads r → (∀ item, r ≠ .list item) → Asks a r
  | item {a item : FieldType} {r : Reading} : a.Reads (.list item) → Asks item r → Asks a r

/-- By induction on the type, along its lists. -/
theorem asks_iff {a : FieldType} {r : Reading} : a.Asks r ↔ a.leaf = r ∧ r.IsSupported := by
  constructor
  · intro h
    induction h with
    | self ha hr =>
      refine ⟨?_, ha.isSupported⟩
      rw [leaf_of_not_list fun item h => hr item (ha.reading_eq.symm.trans h), ha.reading_eq]
    | item ha _ ih => exact ⟨(leaf_of_list ha.reading_eq).trans ih.1, ih.2⟩
  · rintro ⟨hleaf, hr⟩
    induction hn : sizeOf a using Nat.strongRecOn generalizing a with
    | ind n ih =>
      subst hn
      by_cases hlist : ∃ b, a.reading = .list b
      · obtain ⟨b, hb⟩ := hlist
        rw [leaf_of_list hb] at hleaf
        exact .item (reads_of_reading hb trivial) (ih _ (sizeOf_reading hb) hleaf rfl)
      · rw [leaf_of_not_list (not_exists.1 hlist)] at hleaf
        subst hleaf
        exact .self (reads_of_reading rfl hr) (not_exists.1 hlist)

end FieldType

def Field.leaf (f : Field) : Reading := f.type.withoutRemarks.leaf

def Field.Asks (f : Field) (r : Reading) : Prop := f.type.withoutRemarks.Asks r

theorem Field.asks_iff {f : Field} {r : Reading} : f.Asks r ↔ f.leaf = r ∧ r.IsSupported :=
  FieldType.asks_iff

theorem Field.asks_model_iff {f : Field} {id : Nat} {name : Text} :
    f.Asks (.model id name) ↔ f.leaf = .model id name :=
  asks_iff.trans (and_iff_left trivial)

namespace Model

/-- Models that differ in their numbers, and whose fields name no others. -/
structure Family (models : List Model) : Prop where
  ids : (models.map Model.id).Nodup
  closed : ∀ m ∈ models, ∀ f ∈ m.fields, ∀ id name, f.Asks (.model id name) →
    ∃ n ∈ models, n.id = id ∧ n.name = name

theorem Family.eq_of_id {models : List Model} (h : Family models) {m n : Model} (hm : m ∈ models)
    (hn : n ∈ models) (hid : m.id = n.id) : m = n :=
  List.inj_on_of_nodup_map h.ids hm hn hid

/-- A leg of a walk: a field of the model that it leaves, and its place there. -/
structure Leg where
  owner : Model
  place : Nat
  field : Field

/-- Why the conversion stops at a field, while the models of `met` are being converted. -/
inductive Obstacle (met : List Model) : Reading → ConvertError → Prop
  | type (cause : Unsupported) : Obstacle met (.unsupported cause) (.unsupported [] cause)
  | label {values : List Text} {e : BuildError} :
    Rule.oneOf values = .error e → Obstacle met (.oneOf values) (.label e)
  | again {n : Model} :
    n ∈ met → Obstacle met (.model n.id n.name) (.unsupported [] (.recursive n.name))

/-- `Flaw models met m legs e`: a walk from `m` through models that are not met twice, to an obstacle. -/
inductive Flaw (models : List Model) : List Model → Model → List Leg → ConvertError → Prop
  | here {met : List Model} {m : Model} {i : Nat} {f : Field} {e : ConvertError} :
    m.fields[i]? = some f → Obstacle (m :: met) f.leaf e → Flaw models met m [⟨m, i, f⟩] e
  | further {met : List Model} {m n : Model} {i : Nat} {f : Field} {legs : List Leg}
    {e : ConvertError} :
    m.fields[i]? = some f → f.leaf = .model n.id n.name → n ∈ models → n ∉ m :: met →
      Flaw models (m :: met) n legs e → Flaw models met m (⟨m, i, f⟩ :: legs) e

/-- One walk comes before another when their places are compared like words. -/
def Before (legs legs' : List Leg) : Prop :=
  List.Lex (· < ·) (legs.map Leg.place) (legs'.map Leg.place)

structure FirstFlaw (models met : List Model) (m : Model) (legs : List Leg) (e : ConvertError) :
    Prop where
  flaw : Flaw models met m legs e
  first : ∀ legs' e', Flaw models met m legs' e' → ¬ Before legs' legs

def reported (legs : List Leg) (e : ConvertError) : ConvertError :=
  legs.foldr (fun leg e => e.under leg.owner.name leg.field.name) e

theorem reported_unsupported (legs : List Leg) (cause : Unsupported) :
    reported legs (.unsupported [] cause) =
      .unsupported (legs.map fun leg => (leg.owner.name, leg.field.name)) cause := by
  induction legs with
  | nil => rfl
  | cons leg legs ih =>
    rw [reported, List.foldr_cons, ← reported, ih]
    rfl

section Outcomes

variable {outside : List Model} {a : FieldType}

theorem enter?_eq_none_iff {id : Nat} {ms : List Model} :
    enter? id ms = none ↔ ∀ m ∈ ms, m.id ≠ id := by
  induction ms with
  | nil => simp [enter?]
  | cons n ms ih =>
    rw [enter?]
    split_ifs with hid
    · simp [hid]
    · simp [hid, ih]

theorem perm_of_enter? {id : Nat} {ms rest : List Model} {m : Model}
    (h : enter? id ms = some (m, rest)) : (m :: rest).Perm ms := by
  induction ms generalizing rest with
  | nil => cases h
  | cons n ms ih =>
    rw [enter?] at h
    split_ifs at h with hid
    · cases h
      exact List.Perm.refl _
    · obtain ⟨⟨found, others⟩, hfound, he⟩ := Option.map_eq_some_iff.1 h
      cases he
      exact (List.Perm.swap n m others).trans ((ih hfound).cons n)

def outcome (outside : List Model) : Reading → Except ConvertError Unit
  | .unsupported cause => .error (.unsupported [] cause)
  | .oneOf values => ((Rule.oneOf values).mapError .label).map fun _ => ()
  | .model id name =>
    match enter? id outside with
    | none => .error (.unsupported [] (.recursive name))
    | some (m, rest) => (convertFields rest m.name m.fields []).map fun _ => ()
  | _ => .ok ()

theorem convert_list {item : FieldType} (h : a.reading = .list item) :
    convert outside a = (convert outside item).map (.array .plain) := by
  rw [convert]
  split <;> simp_all

theorem convert_model {id : Nat} {name : Text} {m : Model} {rest : List Model}
    (h : a.reading = .model id name) (hm : enter? id outside = some (m, rest)) :
    convert outside a = (convertFields rest m.name m.fields []).map (.object .plain) := by
  rw [convert]
  split <;> simp_all
  split <;> simp_all

theorem convert_not_list (h : ∀ item, a.reading ≠ .list item) :
    (convert outside a).map (fun _ => ()) = outcome outside a.reading := by
  rw [convert]
  split
  next hr => simp [hr, outcome, Except.map]
  next hr => simp [hr, outcome, Except.map]
  next hr => simp [hr, outcome, Except.map]
  next hr => simp [hr, outcome, Except.map]
  next values hr =>
    rw [hr, outcome]
    cases Rule.oneOf values <;> rfl
  next item hr => exact absurd hr (h item)
  next id name hr =>
    rw [hr, outcome]
    split
    next hm => simp [hm, Except.map]
    next m rest hm =>
      simp only [hm]
      cases convertFields rest m.name m.fields [] <;> rfl
  next cause hr => simp [hr, outcome, Except.map]

/-- Lists do not matter to whether a type is converted. -/
theorem convert_outcome (outside : List Model) (a : FieldType) :
    (convert outside a).map (fun _ => ()) = outcome outside a.leaf := by
  induction hn : sizeOf a using Nat.strongRecOn generalizing a with
  | ind n ih =>
    by_cases hlist : ∃ item, a.reading = .list item
    · obtain ⟨item, hitem⟩ := hlist
      have hitems := ih (sizeOf item) (hn ▸ FieldType.sizeOf_reading hitem) item rfl
      rw [FieldType.leaf_of_list hitem, ← hitems, convert_list hitem]
      cases convert outside item <;> rfl
    · have hleaf := not_exists.1 hlist
      rw [FieldType.leaf_of_not_list hleaf, convert_not_list hleaf]

theorem convert_error_iff {e : ConvertError} :
    convert outside a = .error e ↔ outcome outside a.leaf = .error e := by
  rw [← convert_outcome]
  cases convert outside a <;> simp [Except.map]

/-- Fields that are not converted have a first one that is not. -/
theorem convertFields_error {owner : Text} {fields : List Field} {done : List (Text × Schema)}
    {e : ConvertError} (h : convertFields outside owner fields done = .error e) :
    ∃ (i : Nat) (f : Field) (e' : ConvertError), fields[i]? = some f ∧
      convert outside f.type.withoutRemarks = .error e' ∧ e = e'.under owner f.name ∧
      ∀ j g, j < i → fields[j]? = some g → ∃ s, convert outside g.type.withoutRemarks = .ok s := by
  induction fields generalizing done with
  | nil => simp [convertFields] at h
  | cons f fields ih =>
    rw [convertFields] at h
    split at h
    next s hs =>
      obtain ⟨i, g, e', hg, he', rfl, hbefore⟩ := ih h
      refine ⟨i + 1, g, e', hg, he', rfl, fun j k hj hk => ?_⟩
      cases j with
      | zero =>
        obtain rfl := Option.some.inj hk
        exact ⟨s, hs⟩
      | succ j => exact hbefore j k (Nat.lt_of_succ_lt_succ hj) hk
    next e' he' =>
      cases h
      exact ⟨0, f, e', rfl, he', rfl, fun j g hj => absurd hj (Nat.not_lt_zero j)⟩

end Outcomes

section Search

variable {models met outside : List Model} {m n : Model} {f : Field} {e : ConvertError}

/-- Of the models those that are not met are left to be entered. -/
structure Left (models met outside : List Model) : Prop where
  ids : (outside.map Model.id).Nodup
  mem : ∀ n, n ∈ outside ↔ n ∈ models ∧ n ∉ met

theorem Left.all (h : Family models) : Left models [] models := ⟨h.ids, by simp⟩

theorem Left.enter (h : Left models met outside) (hn : n ∈ models) (hmet : n ∉ met) :
    ∃ rest, enter? n.id outside = some (n, rest) ∧ Left models (n :: met) rest ∧
      rest.length < outside.length := by
  have hout : n ∈ outside := (h.mem n).2 ⟨hn, hmet⟩
  cases hk : enter? n.id outside with
  | none => exact absurd rfl (enter?_eq_none_iff.1 hk n hout)
  | some p =>
    obtain ⟨k, rest⟩ := p
    obtain ⟨hkout, hid, -⟩ := mem_of_enter? hk
    obtain rfl : k = n := List.inj_on_of_nodup_map h.ids hkout hout hid
    have hperm := perm_of_enter? hk
    have hids := (hperm.map Model.id).nodup_iff.2 h.ids
    have hrest : k ∉ rest := List.Nodup.notMem (hids.of_map)
    refine ⟨rest, rfl, ⟨(List.nodup_cons.1 hids).2, fun l => ?_⟩, length_enter? hk⟩
    have hmem : l ∈ k :: rest ↔ l ∈ outside := hperm.mem_iff
    rw [h.mem, List.mem_cons] at hmem
    rw [List.mem_cons, not_or]
    constructor
    · intro hl
      obtain ⟨hl', hlmet⟩ := hmem.1 (.inr hl)
      exact ⟨hl', fun he => hrest (he ▸ hl), hlmet⟩
    · rintro ⟨hl, hne, hlmet⟩
      exact (hmem.2 ⟨hl, hlmet⟩).resolve_left hne

theorem Obstacle.outcome_eq (h : Family models) (hmet : met ⊆ models)
    (hl : Left models met outside) {r : Reading} (ho : Obstacle met r e) :
    outcome outside r = .error e := by
  cases ho with
  | type cause => rfl
  | label he =>
    rw [outcome, he]
    rfl
  | @again n hn =>
    have hnone : enter? n.id outside = none := by
      refine enter?_eq_none_iff.2 fun k hk hid => ?_
      obtain ⟨hkm, hknot⟩ := (hl.mem k).1 hk
      exact hknot (h.eq_of_id hkm (hmet hn) hid ▸ hn)
    rw [outcome, hnone]

theorem Flaw.head {leg : Leg} {legs : List Leg} (hf : Flaw models met m (leg :: legs) e) :
    leg.owner = m ∧ m.fields[leg.place]? = some leg.field := by
  cases hf with
  | here hi => exact ⟨rfl, hi⟩
  | further hi => exact ⟨rfl, hi⟩

theorem Flaw.ne_nil {legs : List Leg} (hf : Flaw models met m legs e) : legs ≠ [] := by
  cases hf <;> simp

structure Searched (models met : List Model) (m : Model) (outside : List Model) : Prop where
  none_of_ok : ∀ entries, convertFields outside m.name m.fields [] = .ok entries →
    ∀ legs e, ¬ Flaw models met m legs e
  first_of_error : ∀ e, convertFields outside m.name m.fields [] = .error e →
    ∃ legs cause, FirstFlaw models met m legs cause ∧ e = reported legs cause

def SearchedBehind (models met : List Model) (m : Model) (outside : List Model) : Prop :=
  ∀ n rest, n ∈ models → Left models (n :: m :: met) rest → rest.length < outside.length →
    Searched models (m :: met) n rest

/-- A walk to a flaw begins with a field that is not converted. -/
theorem Flaw.convert_error (h : Family models) (hm : m ∈ models) (hmet : met ⊆ models)
    (hl : Left models (m :: met) outside) (ih : SearchedBehind models met m outside) {leg : Leg}
    {legs : List Leg} (hf : Flaw models met m (leg :: legs) e) :
    ∃ e', convert outside leg.field.type.withoutRemarks = .error e' := by
  cases hf with
  | here hi ho =>
    have hout := ho.outcome_eq h (List.cons_subset.2 ⟨hm, hmet⟩) hl
    exact ⟨e, convert_error_iff.2 hout⟩
  | @further _ _ n _ f _ _ hi hleaf hn hnmet hf =>
    obtain ⟨rest, henter, hrest, hlt⟩ := hl.enter hn hnmet
    cases hc : convertFields rest n.name n.fields [] with
    | ok entries => exact absurd hf ((ih n rest hn hrest hlt).none_of_ok entries hc legs e)
    | error e' =>
      have hout : outcome outside f.leaf = .error e' := by
        rw [hleaf, outcome, henter]
        simp [hc, Except.map]
      exact ⟨e', convert_error_iff.2 hout⟩

/-- A field that is not converted is an obstacle, or its model has a first flaw. -/
theorem flaw_of_outcome (h : Family models) (hm : m ∈ models) (hmet : met ⊆ models)
    (hl : Left models (m :: met) outside) (ih : SearchedBehind models met m outside) (hf : f ∈ m.fields)
    (ho : outcome outside f.leaf = .error e) :
    Obstacle (m :: met) f.leaf e ∨
      ∃ n legs cause, f.leaf = .model n.id n.name ∧ n ∈ models ∧ n ∉ m :: met ∧
        FirstFlaw models (m :: met) n legs cause ∧ e = reported legs cause := by
  cases hleaf : f.leaf with
  | unsupported cause =>
    rw [hleaf] at ho
    cases ho
    exact .inl (.type cause)
  | oneOf values =>
    rw [hleaf, outcome] at ho
    cases hr : Rule.oneOf values with
    | ok rule => simp [hr, Except.map, Except.mapError] at ho
    | error e' =>
      rw [hr] at ho
      cases ho
      exact .inl (.label hr)
  | model id name =>
    obtain ⟨n, hn, rfl, rfl⟩ := h.closed m hm f hf id name (Field.asks_model_iff.2 hleaf)
    by_cases hnmet : n ∈ m :: met
    · have hob : Obstacle (m :: met) (.model n.id n.name) _ := .again hnmet
      rw [hleaf, hob.outcome_eq h (List.cons_subset.2 ⟨hm, hmet⟩) hl] at ho
      cases ho
      exact .inl hob
    · obtain ⟨rest, henter, hrest, hlt⟩ := hl.enter hn hnmet
      rw [hleaf, outcome, henter] at ho
      cases hc : convertFields rest n.name n.fields [] with
      | ok entries => simp [hc, Except.map] at ho
      | error e' =>
        simp only [hc, Except.map, Except.error.injEq] at ho
        subst ho
        obtain ⟨legs, cause, hfirst, rfl⟩ := (ih n rest hn hrest hlt).first_of_error e' hc
        exact .inr ⟨n, legs, cause, rfl, hn, hnmet, hfirst, rfl⟩
  | string | integer | number | boolean | list =>
    rw [hleaf] at ho
    cases ho

/-- Behind one and the same field only walks that go on are compared. -/
theorem first_of_further (h : Family models) (hm : m ∈ models) (hmet : met ⊆ models) {i : Nat}
    {legs legs' : List Leg} {e' : ConvertError} (hleaf : f.leaf = .model n.id n.name)
    (hn : n ∈ models) (hnmet : n ∉ m :: met) (hfirst : FirstFlaw models (m :: met) n legs e)
    (hf : Flaw models met m (⟨m, i, f⟩ :: legs') e') : ¬ Before legs' legs := by
  cases hf with
  | here _ ho =>
    rw [hleaf] at ho
    generalize hid : n.id = id at ho
    generalize n.name = name at ho
    cases ho with
    | @again k hk =>
      have hkm : k ∈ models := List.cons_subset.2 ⟨hm, hmet⟩ hk
      exact absurd (h.eq_of_id hn hkm hid ▸ hk) hnmet
  | @further _ _ k _ _ _ _ _ hleaf' hk _ hf =>
    have hid : n.id = k.id := (Reading.model.inj (hleaf.symm.trans hleaf')).1
    obtain rfl := h.eq_of_id hn hk hid
    exact hfirst.first _ _ hf

/-- A flaw before a walk lies behind an earlier field, or behind the same one on a walk before. -/
theorem Flaw.before_cases {leg : Leg} {legs legs' : List Leg} {i : Nat}
    (hf : Flaw models met m (leg :: legs') e) (hi : m.fields[i]? = some f)
    (hbefore : Before (leg :: legs') (⟨m, i, f⟩ :: legs)) :
    leg.place < i ∨ leg = ⟨m, i, f⟩ ∧ Before legs' legs := by
  rw [Before, List.map_cons, List.map_cons, List.cons_lex_cons_iff] at hbefore
  refine hbefore.imp_right fun ⟨hplace, hrest⟩ => ⟨?_, hrest⟩
  obtain ⟨howner, hfield⟩ := hf.head
  obtain ⟨owner, place, g⟩ := leg
  dsimp only at howner hfield hplace
  subst howner hplace
  rw [Option.some.inj (hi.symm.trans hfield)]

/-- By induction on the models that may still be entered. -/
theorem searched (h : Family models) (hm : m ∈ models) (hmet : met ⊆ models)
    (hl : Left models (m :: met) outside) : Searched models met m outside := by
  induction hk : outside.length using Nat.strongRecOn generalizing met m outside with
  | ind k ih =>
    subst hk
    have hbehind : SearchedBehind models met m outside := fun n rest hn hrest hlt =>
      ih rest.length hlt hn (List.cons_subset.2 ⟨hm, hmet⟩) hrest rfl
    refine ⟨fun entries hok legs e hf => ?_, fun e he => ?_⟩
    · obtain ⟨leg, legs, rfl⟩ := List.exists_cons_of_ne_nil hf.ne_nil
      obtain ⟨e', he'⟩ := hf.convert_error h hm hmet hl hbehind
      obtain ⟨pairs, hfields, hconvert, -⟩ := pairs_of_convertFields hok
      have hleg : leg.field ∈ pairs.map Prod.fst := hfields ▸ List.mem_of_getElem? hf.head.2
      obtain ⟨p, hp, hpf⟩ := List.mem_map.1 hleg
      rw [← hpf, hconvert p hp] at he'
      cases he'
    · obtain ⟨i, f, e', hi, he', rfl, hbefore⟩ := convertFields_error he
      -- No walk to a flaw leaves `m` by a field before this one.
      have hplace : ∀ leg legs' e', Flaw models met m (leg :: legs') e' → i ≤ leg.place := by
        intro leg legs' c hf
        obtain ⟨c', hc'⟩ := hf.convert_error h hm hmet hl hbehind
        refine Nat.le_of_not_lt fun hlt => ?_
        obtain ⟨s, hs⟩ := hbefore leg.place leg.field hlt hf.head.2
        rw [hs] at hc'
        cases hc'
      have hcase := flaw_of_outcome h hm hmet hl hbehind (List.mem_of_getElem? hi)
        (convert_error_iff.1 he')
      obtain ⟨legs, cause, hflaw, hrest, rfl⟩ : ∃ legs cause,
          Flaw models met m (⟨m, i, f⟩ :: legs) cause ∧
          (∀ legs' c, Flaw models met m (⟨m, i, f⟩ :: legs') c → ¬ Before legs' legs) ∧
          e' = reported legs cause := by
        rcases hcase with hob | ⟨n, legs, cause, hleaf, hn, hnmet, hfirst, rfl⟩
        · exact ⟨[], e', .here hi hob, fun legs' c hf => List.not_lex_nil, rfl⟩
        · exact ⟨legs, cause, .further hi hleaf hn hnmet hfirst.flaw,
            fun legs' c hf => first_of_further h hm hmet hleaf hn hnmet hfirst hf, rfl⟩
      refine ⟨_, cause, ⟨hflaw, fun legs' c hf hearlier => ?_⟩, rfl⟩
      obtain ⟨leg, legs', rfl⟩ := List.exists_cons_of_ne_nil hf.ne_nil
      rcases hf.before_cases hi hearlier with hlt | ⟨rfl, hrestearlier⟩
      · exact absurd hlt (Nat.not_lt_of_le (hplace leg legs' c hf))
      · exact hrest legs' c hf hrestearlier

/-- A model of the family has a schema exactly if there is no flaw, and else reports the first one. -/
theorem schema_of_family (h : Family models) (hm : m ∈ models) :
    ((∃ s, schema models m.id m.name = .ok s) ∧ ∀ legs e, ¬ Flaw models [] m legs e) ∨
      ∃ legs e, FirstFlaw models [] m legs e ∧
        schema models m.id m.name = .error (reported legs e).fault := by
  obtain ⟨rest, henter, hleft, -⟩ := (Left.all h).enter hm List.not_mem_nil
  have hsearched := searched h hm (List.nil_subset models) hleft
  have hconvert : convert models (.model m.id m.name) =
      (convertFields rest m.name m.fields []).map (.object .plain) := convert_model rfl henter
  rw [schema, hconvert]
  cases hc : convertFields rest m.name m.fields [] with
  | ok entries => exact .inl ⟨⟨_, rfl⟩, hsearched.none_of_ok entries hc⟩
  | error e =>
    obtain ⟨legs, cause, hfirst, rfl⟩ := hsearched.first_of_error e hc
    exact .inr ⟨legs, cause, hfirst, rfl⟩

end Search

end Model

end ReplySchema
