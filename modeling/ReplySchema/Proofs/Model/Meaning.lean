import Mathlib.Data.List.Nodup
import ReplySchema.Proofs.Model.Compiled
import ReplySchema.Proofs.Schema.Conformance
import ReplySchema.Proofs.Value.Members

/-!
The schema of a record model means what its field types say. What a type asks of a document is stated
over the types alone: a scalar of the kind, a list of what the item type asks for, an object with the
required fields; of objects the declared fields are kept, in the order of the model. A check under the
schema that a model is converted to returns exactly what is kept of the documents that fit.
-/

namespace ReplySchema

/-- A double is whole exactly if it equals an integer. -/
theorem Double.isWhole_iff {x : Double} :
    x.isWhole = true ↔ ∃ n : Int, x.compareInt? n = some .eq := by
  cases x with
  | nan => exact ⟨nofun, nofun⟩
  | infinity negative => cases negative <;> exact ⟨nofun, nofun⟩
  | finite negative m =>
    have hunits : (Magnitude.unitsPerOne : Int) ∣ signedUnits negative m ↔
        m.units % Magnitude.unitsPerOne = 0 := by
      rw [← Nat.dvd_iff_mod_eq_zero, ← Int.natCast_dvd_natCast]
      cases negative with
      | false => rfl
      | true => exact Int.dvd_neg
    rw [isWhole, Magnitude.isWhole, decide_eq_true_iff, ← hunits, dvd_iff_exists_eq_mul_left]
    simp only [compareInt?, Option.some.injEq, compare_eq_iff_eq]

/-- The value is what a scalar type asks for. -/
def Reading.HoldsOf : Reading → Value → Prop
  | string, v => ∃ t, v = .string t
  | integer, v => (∃ n, v = .int n) ∨ ∃ x, v = .float x ∧ ∃ n : Int, x.compareInt? n = some .eq
  | number, v => (∃ n, v = .int n) ∨ ∃ x, v = .float x
  | boolean, v => ∃ b, v = .bool b
  | oneOf values, v => ∃ t ∈ values, v = .string t
  | _, _ => False

namespace Model

def present (m : Model) (ms : List (Text × Value)) : List Field :=
  m.fields.filter fun f => (find? f.documentKey ms).isSome

/-- `Admits models a v r`: the value `v` is what the type `a` asks for, and `r` is what is kept. -/
inductive Admits (models : List Model) : FieldType → Value → Value → Prop
  | scalar {a : FieldType} {r : Reading} {v : Value} : a.Reads r → r.HoldsOf v → Admits models a v v
  | list {a item : FieldType} {vs rs : List Value} :
    a.Reads (.list item) → rs.length = vs.length →
      (∀ (i : Nat) v r, vs[i]? = some v → rs[i]? = some r → Admits models item v r) →
      Admits models a (.array vs) (.array rs)
  | model {a : FieldType} {name : Text} {m : Model} {v : Value} {ms rs : List (Text × Value)} :
    a.Reads (.model m.id name) → m ∈ models → v.members? = some ms →
      rs.map Prod.fst = (m.present ms).map Field.documentKey →
      (∀ (i : Nat) f v e, (m.present ms)[i]? = some f → find? f.documentKey ms = some v →
        rs[i]? = some e → Admits models f.type.withoutRemarks v e.2) →
      (∀ f ∈ m.fields, find? f.documentKey ms = none → f.required = false) →
      Admits models a v (.object rs)

/-- `Level models a m`: documents of the type `a` have an object of the model `m` at some level. -/
inductive Level (models : List Model) : FieldType → Model → Prop
  | here {a : FieldType} {name : Text} {m : Model} :
    a.Reads (.model m.id name) → m ∈ models → Level models a m
  | item {a item : FieldType} {m : Model} :
    a.Reads (.list item) → Level models item m → Level models a m
  | field {a : FieldType} {name : Text} {n m : Model} {f : Field} :
    a.Reads (.model n.id name) → n ∈ models → f ∈ n.fields →
      Level models f.type.withoutRemarks m → Level models a m

end Model

section Scalars

variable {s : Schema} {v w : Value}

theorem Schema.conforms_primitive_iff {m : Marks} {k : Primitive} :
    Conforms (.primitive m k) v w ↔ (k.accepts v ∧ m.Approves v) ∧ w = v := by
  rw [Primitive.accepts_iff]
  constructor
  · intro h
    cases h with
    | primitive hk ha => exact ⟨⟨hk, ha⟩, rfl⟩
  · rintro ⟨⟨hk, ha⟩, rfl⟩
    exact .primitive hk ha

theorem Marks.approves_rule_iff {rule : Rule} {optional : Bool} :
    Marks.Approves ⟨some rule, optional⟩ v ↔ (rule.test v).answer = .ok true :=
  ⟨fun h => h rule rfl, fun h _ hr => Option.some.inj hr ▸ h⟩

/-- The schema of a scalar is right for what the scalar asks for, and keeps it as it is. -/
theorem Reading.Scalar.conforms_iff {r : Reading} (h : r.Scalar s) :
    Conforms s v w ↔ r.HoldsOf v ∧ w = v := by
  cases h with
  | string =>
    rw [Schema.string, Schema.conforms_primitive_iff, and_iff_left (Schema.approves_of_no_rule _ _)]
    cases v <;> simp [Primitive.accepts, HoldsOf]
  | integer =>
    rw [Schema.number, Schema.conforms_primitive_iff, Marks.approves_rule_iff]
    cases v with
    | float x => simp [Primitive.accepts, HoldsOf, Rule.integer, Double.isWhole_iff]
    | _ => simp [Primitive.accepts, HoldsOf, Rule.integer]
  | number =>
    rw [Schema.number, Schema.conforms_primitive_iff, and_iff_left (Schema.approves_of_no_rule _ _)]
    cases v <;> simp [Primitive.accepts, HoldsOf]
  | boolean =>
    rw [Schema.boolean, Marks.plain, Schema.conforms_primitive_iff,
      and_iff_left (Schema.approves_of_no_rule _ _)]
    cases v <;> simp [Primitive.accepts, HoldsOf]
  | oneOf hrule =>
    obtain ⟨label, -, rfl⟩ := map_ok hrule
    rw [Schema.string, Schema.conforms_primitive_iff, Marks.approves_rule_iff]
    cases v <;> simp [Primitive.accepts, HoldsOf]

/-- A field may be left out or not; that does not matter for what stands there. -/
theorem Schema.conforms_asField_iff (required : Bool) :
    Conforms (s.asField required) v w ↔ Conforms s v w := by
  cases required with
  | true => rfl
  | false =>
    constructor
    · intro h
      cases s with
      | primitive m k =>
        cases h with
        | primitive hk ha => exact .primitive hk ha
      | array m item =>
        cases h with
        | array hl hc ha => exact .array hl hc ha
      | object m fields =>
        cases h with
        | object hv hk hc ho ha => exact .object hv hk hc ho ha
    · intro h
      cases h with
      | primitive hk ha => exact .primitive hk ha
      | array hl hc ha => exact .array hl hc ha
      | object hv hk hc ho ha => exact .object hv hk hc ho ha

theorem Schema.isOptional_asField (h : s.isOptional = false) (required : Bool) :
    (s.asField required).isOptional = !required := by
  cases required with
  | true => exact h
  | false => cases s <;> rfl

end Scalars

namespace Model

variable {models outside : List Model} {a : FieldType} {s : Schema} {v w : Value}

/-- What a field may be left out for is not in the schema of its type. -/
theorem Compiles.not_optional (h : Compiles outside a s) : s.isOptional = false := by
  cases h with
  | scalar _ hs => cases hs <;> rfl
  | list => rfl
  | model => rfl

theorem admits_scalar_iff {r : Reading} (ha : a.Reads r) (hs : r.Scalar s) :
    Admits models a v w ↔ r.HoldsOf v ∧ w = v := by
  constructor
  · intro h
    cases h with
    | scalar ha' hv =>
      cases ha.unique ha'
      exact ⟨hv, rfl⟩
    | list ha' =>
      cases ha.unique ha'
      cases hs
    | model ha' =>
      cases ha.unique ha'
      cases hs
  · rintro ⟨hv, rfl⟩
    exact .scalar ha hv

theorem conforms_list_iff {item : FieldType} (ha : a.Reads (.list item))
    (ih : ∀ {v w}, Conforms s v w ↔ Admits models item v w) :
    Conforms (.array .plain s) v w ↔ Admits models a v w := by
  constructor
  · intro h
    cases h with
    | array hl hc _ => exact .list ha hl fun i v r hv hr => ih.1 (hc i v r hv hr)
  · intro h
    cases h with
    | scalar ha' hv =>
      cases ha.unique ha'
      cases hv
    | list ha' hl hc =>
      cases ha.unique ha'
      exact .array hl (fun i v r hv hr => ih.2 (hc i v r hv hr)) (Schema.approves_of_no_rule _ _)
    | model ha' => cases ha.unique ha'

section Fields

variable {m : Model} {pairs : List (Field × Schema)} {ms rs : List (Text × Value)}

/-- The pairs whose key is present are the present fields with their schemas. -/
theorem present_eq (hp : pairs.map Prod.fst = m.fields) (ms : List (Text × Value)) :
    m.present ms = (pairs.filter fun p => (find? p.1.documentKey ms).isSome).map Prod.fst := by
  rw [present, ← hp, List.filter_map]
  rfl

theorem present_declare (pairs : List (Field × Schema)) (ms : List (Text × Value)) :
    ReplySchema.present (pairs.map Field.declare) ms =
      (pairs.filter fun p => (find? p.1.documentKey ms).isSome).map Field.declare := by
  rw [ReplySchema.present, List.filter_map]
  rfl

theorem foldl_declare (hp : pairs.map Prod.fst = m.fields)
    (hk : (m.fields.map Field.documentKey).Nodup) :
    (pairs.map Field.declare).foldl (fun ms f => assign f.1 f.2 ms) [] = pairs.map Field.declare := by
  apply foldl_assign
  rw [← hp, List.map_map] at hk
  rw [List.nil_append, List.map_map]
  exact hk

/-- An object is right for the declared fields exactly if it is for the fields of the model. -/
theorem conforms_fields_iff {name : Text} (ha : a.Reads (.model m.id name)) (hm : m ∈ models)
    (hids : (models.map Model.id).Nodup) (hp : pairs.map Prod.fst = m.fields)
    (hopt : ∀ p ∈ pairs, p.2.isOptional = false)
    (ih : ∀ p ∈ pairs, ∀ {v w}, Conforms p.2 v w ↔ Admits models p.1.type.withoutRemarks v w) :
    Conforms (.object .plain (pairs.map Field.declare)) v w ↔ Admits models a v w := by
  -- On both sides the present ones are counted among the pairs, so that indices agree.
  constructor
  · intro h
    cases h with
    | object hms hk hc ho _ =>
      rw [present_declare] at hk hc
      refine .model ha hm hms ?_ ?_ ?_
      · rw [hk, present_eq hp, List.map_map, List.map_map]
        rfl
      · intro i f v e hf hv he
        rw [present_eq hp, List.getElem?_map, Option.map_eq_some_iff] at hf
        obtain ⟨p, hi, rfl⟩ := hf
        have hmem := List.mem_of_mem_filter (List.mem_of_getElem? hi)
        have hconf := hc i (Field.declare p) v e (by rw [List.getElem?_map, hi]; rfl) hv he
        exact (ih p hmem).1 ((Schema.conforms_asField_iff _).1 hconf)
      · intro f hf hn
        rw [← hp] at hf
        obtain ⟨p, hmem, rfl⟩ := List.mem_map.1 hf
        have hmay := ho (Field.declare p) (List.mem_map_of_mem hmem) hn
        rw [Field.declare, Schema.isOptional_asField (hopt p hmem), Bool.not_eq_true'] at hmay
        exact hmay
  · intro h
    cases h with
    | scalar ha' hv =>
      cases ha.unique ha'
      cases hv
    | list ha' => cases ha.unique ha'
    | @model _ _ m' _ ms rs ha' hm' hms hk hc ho =>
      have hid : m.id = m'.id := (Reading.model.inj (ha.unique ha')).1
      -- The number tells which model is meant.
      obtain rfl : m = m' := List.inj_on_of_nodup_map hids hm hm' hid
      rw [present_eq hp] at hk hc
      refine .object hms ?_ ?_ ?_ (Schema.approves_of_no_rule _ _)
      · rw [present_declare, hk, List.map_map, List.map_map]
        rfl
      · intro i f v e hf hv he
        rw [present_declare, List.getElem?_map, Option.map_eq_some_iff] at hf
        obtain ⟨p, hi, rfl⟩ := hf
        have hmem := List.mem_of_mem_filter (List.mem_of_getElem? hi)
        have hadm := hc i p.1 v e (by rw [List.getElem?_map, hi]; rfl) hv he
        exact (Schema.conforms_asField_iff _).2 ((ih p hmem).2 hadm)
      · intro f hf hn
        obtain ⟨p, hmem, rfl⟩ := List.mem_map.1 hf
        have hmay := ho p.1 (hp ▸ List.mem_map_of_mem hmem) hn
        rw [Field.declare, Schema.isOptional_asField (hopt p hmem), hmay]
        rfl

end Fields

/-- The schema of a type is right for what the type asks for and keeps what the type keeps. -/
theorem Compiles.conforms_iff (h : Compiles outside a s) (hids : (models.map Model.id).Nodup)
    (hsub : outside ⊆ models)
    (hkeys : ∀ m, Level models a m → (m.fields.map Field.documentKey).Nodup) :
    Conforms s v w ↔ Admits models a v w := by
  induction h generalizing v w with
  | scalar ha hs => rw [hs.conforms_iff, admits_scalar_iff ha hs]
  | list ha _ ih => exact conforms_list_iff ha (ih hsub fun m hm => hkeys m (.item ha hm))
  | @model outside rest a id name m pairs ha hm hp hpairs ih =>
    obtain ⟨hmem, rfl, hrest⟩ := mem_of_enter? hm
    rw [foldl_declare hp (hkeys m (.here ha (hsub hmem)))]
    refine conforms_fields_iff ha (hsub hmem) hids hp (fun p hpm => (hpairs p hpm).not_optional) ?_
    intro p hpm v w
    have hfield : p.1 ∈ m.fields := hp ▸ List.mem_map_of_mem hpm
    exact ih p hpm (List.Subset.trans hrest hsub) fun n hn => hkeys n (.field ha (hsub hmem) hfield hn)

/--
Where a model has a schema and at every level the keys of the fields differ, a check under the schema
returns exactly what is kept of a value that is what the types of the model ask for, if that nests
within the limit.
-/
theorem check_schema_iff (limit : Nat) {id : Nat} {name : Text} (hids : (models.map Model.id).Nodup)
    (h : schema models id name = .ok s)
    (hkeys : ∀ m, Level models (.model id name) m → (m.fields.map Field.documentKey).Nodup)
    (v w : Value) : (s.check limit v).result = .ok w ↔
      Admits models (.model id name) v w ∧ w.depth ≤ limit := by
  have hconvert : convert models (.model id name) = .ok s := mapError_ok h
  rw [Schema.check_result, outcome_eq_ok_iff, ← Schema.conforms_iff]
  exact and_congr_left fun _ =>
    (compiles_of_convert hconvert).conforms_iff hids (List.Subset.refl _) hkeys

def shop : List Model :=
  [⟨0, "Line", [⟨"sku", .plain .string, none, true⟩,
      ⟨"count", .union .plain [.plain .integer, .plain .nothing], some "n", false⟩]⟩,
    ⟨1, "Order", [⟨"lines", .collection .plain .list [.model 0 "Line"], none, true⟩]⟩]

def shopSchema : Schema :=
  .object .plain [("lines", .array .plain (.object .plain
    [("sku", .string none), ("n", (Schema.number (some .integer)).asField false)]))]

theorem Level.mem {m : Model} (h : Level models a m) : m ∈ models := by
  induction h with
  | here _ hm => exact hm
  | item _ _ ih => exact ih
  | field _ _ _ _ ih => exact ih

theorem check_shopSchema :
    (shop.map Model.id).Nodup ∧ schema shop 1 "Order" = .ok shopSchema ∧
      (∀ m, Level shop (.model 1 "Order") m → (m.fields.map Field.documentKey).Nodup) ∧
      Admits shop (.model 1 "Order")
        (.object [("note", .null), ("lines", .array [.object [("n", .int 2), ("sku", .string "a")]])])
        (.object [("lines", .array [.object [("sku", .string "a"), ("n", .int 2)]])]) := by
  have hids : (shop.map Model.id).Nodup := by decide
  have hschema : schema shop 1 "Order" = .ok shopSchema := by cbv
  have hkeys : ∀ m, Level shop (.model 1 "Order") m → (m.fields.map Field.documentKey).Nodup := by
    intro m hm
    have hall : ∀ m ∈ shop, (m.fields.map Field.documentKey).Nodup := by decide
    exact hall m hm.mem
  exact ⟨hids, hschema, hkeys, ((check_schema_iff 1000 hids hschema hkeys _ _).1 rfl).1⟩

end Model

end ReplySchema
