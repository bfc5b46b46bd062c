import Mathlib.Data.List.Induction
import Mathlib.Logic.Relation
import Mathlib.Tactic.Tauto
import ReplySchema.Proofs.Model.Walks

/-!
Recursive models. Among models whose types can all be read, a model has no schema exactly if a cycle
of models can be reached from it: then some walk comes back to one of its own models. The conversion
names the first such walk in the order of the fields, depth first, which is the order of words when
walks are compared by the places of their fields. Models that are met along several branches are no
obstacle, and each branch has their objects in full.
-/

namespace ReplySchema.Model

open Relation

/-- Models whose fields all ask for something and whose literals all make a label. -/
structure Readable (models : List Model) : Prop extends Family models where
  types : ∀ m ∈ models, ∀ f ∈ m.fields, ∃ r, f.Asks r
  labels : ∀ m ∈ models, ∀ f ∈ m.fields, ∀ values, f.Asks (.oneOf values) →
    ∃ rule, Rule.oneOf values = .ok rule

/-- A field of the first model holds objects of the second one, perhaps in lists. -/
def Holds (models : List Model) (m n : Model) : Prop :=
  n ∈ models ∧ ∃ f ∈ m.fields, f.Asks (.model n.id n.name)

/-- From the model a cycle can be reached. -/
def ReachesCycle (models : List Model) (m : Model) : Prop :=
  ∃ n, ReflTransGen (Holds models) m n ∧ TransGen (Holds models) n n

inductive Walk (models : List Model) : Model → List Leg → Model → Prop
  | nil (m : Model) : Walk models m [] m
  | cons {m n k : Model} {i : Nat} {f : Field} {legs : List Leg} :
    m.fields[i]? = some f → f.Asks (.model n.id n.name) → n ∈ models → Walk models n legs k →
      Walk models m (⟨m, i, f⟩ :: legs) k

/-- A walk through models that are all different, which ends at one of them. -/
structure Reentry (models : List Model) (m : Model) (legs : List Leg) (n : Model) : Prop where
  walk : Walk models m legs n
  different : (legs.map Leg.owner).Nodup
  again : n ∈ legs.map Leg.owner

/-- The reentry that a search finds first when it takes the fields in order, depth first. -/
structure FirstReentry (models : List Model) (m : Model) (legs : List Leg) (n : Model) : Prop
    extends Reentry models m legs n where
  first : ∀ legs' n', Reentry models m legs' n' → ¬ Before legs' legs

variable {models met : List Model} {m n : Model} {legs : List Leg} {e : ConvertError}

section Walks

theorem walk_append_iff {front back : List Leg} :
    Walk models m (front ++ back) n ↔ ∃ k, Walk models m front k ∧ Walk models k back n := by
  induction front generalizing m with
  | nil =>
    constructor
    · intro h
      exact ⟨m, .nil m, h⟩
    · rintro ⟨k, ⟨⟩, h⟩
      exact h
  | cons leg front ih =>
    constructor
    · intro h
      cases h with
      | cons hi hleaf hn h =>
        obtain ⟨k, hfront, hback⟩ := ih.1 h
        exact ⟨k, .cons hi hleaf hn hfront, hback⟩
    · rintro ⟨k, hfront, hback⟩
      cases hfront with
      | cons hi hleaf hn hfront => exact .cons hi hleaf hn (ih.2 ⟨k, hfront, hback⟩)

theorem Walk.owner_eq {leg : Leg} (h : Walk models m (leg :: legs) n) : leg.owner = m := by
  cases h
  rfl

theorem Holds.walk (h : Holds models m n) : ∃ leg, Walk models m [leg] n := by
  obtain ⟨hn, f, hf, hleaf⟩ := h
  obtain ⟨i, hi⟩ := List.mem_iff_getElem?.1 hf
  exact ⟨⟨m, i, f⟩, .cons hi hleaf hn (.nil n)⟩

theorem Walk.reflTransGen (h : Walk models m legs n) : ReflTransGen (Holds models) m n := by
  induction h with
  | nil => exact .refl
  | cons hi hleaf hn _ ih => exact .head ⟨hn, _, List.mem_of_getElem? hi, hleaf⟩ ih

theorem Walk.transGen (h : Walk models m legs n) (hne : legs ≠ []) :
    TransGen (Holds models) m n := by
  cases h with
  | nil => exact absurd rfl hne
  | cons hi hleaf hn h => exact .head' ⟨hn, _, List.mem_of_getElem? hi, hleaf⟩ h.reflTransGen

theorem exists_walk (h : ReflTransGen (Holds models) m n) : ∃ legs, Walk models m legs n := by
  induction h with
  | refl => exact ⟨[], .nil m⟩
  | tail _ hstep ih =>
    obtain ⟨legs, hlegs⟩ := ih
    obtain ⟨leg, hleg⟩ := hstep.walk
    exact ⟨legs ++ [leg], walk_append_iff.2 ⟨_, hlegs, hleg⟩⟩

/-- A model that a walk leaves divides it into the walk to it and the walk from it. -/
theorem Walk.divide {k : Model} (h : Walk models m legs n) (hk : k ∈ legs.map Leg.owner) :
    ∃ front back, legs = front ++ back ∧ back ≠ [] ∧ Walk models m front k ∧
      Walk models k back n := by
  obtain ⟨leg, hleg, rfl⟩ := List.mem_map.1 hk
  obtain ⟨front, back, rfl⟩ := List.append_of_mem hleg
  obtain ⟨j, hfront, hback⟩ := walk_append_iff.1 h
  have howner := hback.owner_eq
  exact ⟨front, leg :: back, rfl, List.cons_ne_nil _ _, howner ▸ hfront, howner ▸ hback⟩

/-- Where no walk comes back, no walk passes a model twice. By induction on its last leg. -/
theorem Walk.nodup_of_no_reentry (hno : ∀ legs n, ¬ Reentry models m legs n)
    (h : Walk models m legs n) : (legs.map Leg.owner ++ [n]).Nodup := by
  induction legs using List.reverseRecOn generalizing n with
  | nil => simp
  | append_singleton legs leg ih =>
    obtain ⟨k, hlegs, hlast⟩ := walk_append_iff.1 h
    have howners : (legs ++ [leg]).map Leg.owner = legs.map Leg.owner ++ [k] := by
      rw [List.map_append, List.map_singleton, hlast.owner_eq]
    have hdifferent := howners ▸ ih hlegs
    refine List.nodup_append.2 ⟨hdifferent, List.nodup_singleton n, fun a ha b hb hab => ?_⟩
    rw [hab, List.mem_singleton.1 hb] at ha
    exact hno _ n ⟨h, hdifferent, ha⟩

/-- A cycle can be reached exactly if some walk comes back to one of its models. -/
theorem reachesCycle_iff : ReachesCycle models m ↔ ∃ legs n, Reentry models m legs n := by
  constructor
  · rintro ⟨n, hreach, hcycle⟩
    by_contra hno
    obtain ⟨front, hfront⟩ := exists_walk hreach
    obtain ⟨k, hstep, hrest⟩ := TransGen.head'_iff.1 hcycle
    obtain ⟨leg, hleg⟩ := hstep.walk
    obtain ⟨back, hback⟩ := exists_walk hrest
    have hwalk : Walk models m (front ++ ([leg] ++ back)) n :=
      walk_append_iff.2 ⟨n, hfront, walk_append_iff.2 ⟨k, hleg, hback⟩⟩
    have hnodup := hwalk.nodup_of_no_reentry fun legs n h => hno ⟨legs, n, h⟩
    have hmem : n ∈ (front ++ ([leg] ++ back)).map Leg.owner := by simp [← hleg.owner_eq]
    exact (List.nodup_append.1 hnodup).2.2 n hmem n (List.mem_singleton.2 rfl) rfl
  · rintro ⟨legs, n, hwalk, -, hagain⟩
    obtain ⟨front, back, -, hne, hfront, hback⟩ := hwalk.divide hagain
    exact ⟨n, hfront.reflTransGen, hback.transGen hne⟩

end Walks

section Flaws

/-- Among readable models the only obstacle is a model that is met again. -/
theorem Obstacle.again_of_readable (h : Readable models) (hm : m ∈ models) {f : Field}
    (hf : f ∈ m.fields) (ho : Obstacle met f.leaf e) :
    ∃ n ∈ met, f.Asks (.model n.id n.name) ∧ e = .unsupported [] (.recursive n.name) := by
  generalize hr : f.leaf = r at ho
  cases ho with
  | type cause =>
    obtain ⟨r, hasks⟩ := h.types m hm f hf
    obtain ⟨rfl, hsupported⟩ := Field.asks_iff.1 hasks
    rw [hr] at hsupported
    cases hsupported
  | label he =>
    obtain ⟨rule, hrule⟩ := h.labels m hm f hf _ (Field.asks_iff.2 ⟨hr, trivial⟩)
    cases he.symm.trans hrule
  | again hn => exact ⟨_, hn, Field.asks_model_iff.2 hr, rfl⟩

/-- A flaw among readable models is a walk to a model met again. -/
theorem Flaw.walk (h : Readable models) (hm : m ∈ models) (hmet : met ⊆ models) (hnot : m ∉ met)
    (hf : Flaw models met m legs e) :
    ∃ n, Walk models m legs n ∧ (legs.map Leg.owner).Nodup ∧ n ∈ legs.map Leg.owner ++ met ∧
      (∀ k ∈ legs.map Leg.owner, k ∉ met) ∧ e = .unsupported [] (.recursive n.name) := by
  induction hf with
  | @here met m i f e hi ho =>
    obtain ⟨n, hn, hleaf, rfl⟩ := ho.again_of_readable h hm (List.mem_of_getElem? hi)
    have hnm : n ∈ models := List.cons_subset.2 ⟨hm, hmet⟩ hn
    exact ⟨n, .cons hi hleaf hnm (.nil n), by simp, hn, by simpa using hnot, rfl⟩
  | @further met m n i f legs e hi hleaf hn hnmet _ ih =>
    obtain ⟨k, hwalk, hdifferent, hk, hapart, rfl⟩ :=
      ih hn (List.cons_subset.2 ⟨hm, hmet⟩) hnmet
    refine ⟨k, .cons hi (Field.asks_model_iff.2 hleaf) hn hwalk, ?_, ?_, ?_, rfl⟩
    · exact List.nodup_cons.2 ⟨fun hmem => hapart m hmem (List.mem_cons_self ..), hdifferent⟩
    · simp only [List.mem_append, List.mem_cons, List.map_cons] at hk ⊢
      tauto
    · intro j hj hjmet
      rcases List.mem_cons.1 hj with rfl | hj
      · exact hnot hjmet
      · exact hapart j hj (List.mem_cons_of_mem m hjmet)

/-- A walk to a model met again is a flaw. -/
theorem Walk.flaw (h : Walk models m legs n) (hdifferent : (legs.map Leg.owner).Nodup)
    (hne : legs ≠ []) (hagain : n ∈ legs.map Leg.owner ++ met)
    (hapart : ∀ k ∈ legs.map Leg.owner, k ∉ met) :
    Flaw models met m legs (.unsupported [] (.recursive n.name)) := by
  induction h generalizing met with
  | nil => exact absurd rfl hne
  | @cons m n k i f legs hi hleaf hn hwalk ih =>
    cases legs with
    | nil =>
      cases hwalk
      refine .here hi (Field.asks_model_iff.1 hleaf ▸ .again ?_)
      simpa using hagain
    | cons leg legs =>
      obtain ⟨hmnot, hdifferent⟩ := List.nodup_cons.1 hdifferent
      have howner : n ∈ (leg :: legs).map Leg.owner := by simp [hwalk.owner_eq]
      have hnmet : n ∉ m :: met := by
        rw [List.mem_cons, not_or]
        refine ⟨fun he => hmnot (he ▸ howner), ?_⟩
        exact hapart n (List.mem_cons_of_mem _ howner)
      refine .further hi (Field.asks_model_iff.1 hleaf) hn hnmet (ih hdifferent (List.cons_ne_nil _ _) ?_ ?_)
      · simp only [List.mem_append, List.mem_cons, List.map_cons] at hagain ⊢
        tauto
      · intro j hj hjmet
        rcases List.mem_cons.1 hjmet with rfl | hjmet
        · exact hmnot hj
        · exact hapart j (List.mem_cons_of_mem _ hj) hjmet

/-- Among readable models the flaws are the walks that come back. -/
theorem flaw_iff_reentry (h : Readable models) (hm : m ∈ models) :
    Flaw models [] m legs e ↔
      ∃ n, Reentry models m legs n ∧ e = .unsupported [] (.recursive n.name) := by
  constructor
  · intro hf
    obtain ⟨n, hwalk, hdifferent, hagain, -, rfl⟩ :=
      hf.walk h hm (List.nil_subset models) List.not_mem_nil
    exact ⟨n, ⟨hwalk, hdifferent, by simpa using hagain⟩, rfl⟩
  · rintro ⟨n, ⟨hwalk, hdifferent, hagain⟩, rfl⟩
    have hne : legs ≠ [] := by
      rintro rfl
      cases hagain
    exact hwalk.flaw hdifferent hne (by simpa using hagain) (by simp)

end Flaws

def Leg.text (leg : Leg) : Text := leg.owner.name ++ "." ++ leg.field.name ++ ": "

def reentryText (legs : List Leg) (n : Model) : Text :=
  legs.flatMap Leg.text ++ "recursive models are not supported: " ++ n.name

theorem fault_reported (legs : List Leg) (n : Model) :
    (reported legs (.unsupported [] (.recursive n.name))).fault = ⟨.type, reentryText legs n⟩ := by
  rw [reported_unsupported, ConvertError.fault, ConvertError.message, List.flatMap_map,
    reentryText, List.append_assoc]
  rfl

/--
A readable model has a schema exactly if no cycle can be reached from it. The schema has the objects
of every model at all places where the model is met. Otherwise the conversion raises the type error
that names the fields of the first walk that comes back, and the model that it comes back to.
-/
theorem schema_of_readable (h : Readable models) (hm : m ∈ models) :
    ((∃ s, schema models m.id m.name = .ok s) ↔ ¬ ReachesCycle models m) ∧
    (∀ s, schema models m.id m.name = .ok s → Expands models (.model m.id m.name) s) ∧
    (ReachesCycle models m → ∃ legs n, FirstReentry models m legs n ∧
      schema models m.id m.name = .error ⟨.type, reentryText legs n⟩) := by
  have hexpands : ∀ s, schema models m.id m.name = .ok s → Expands models (.model m.id m.name) s :=
    fun s hs => (compiles_of_convert (mapError_ok hs)).expands (List.Subset.refl _)
  rcases schema_of_family h.toFamily hm with ⟨hok, hno⟩ | ⟨legs, e, ⟨hflaw, hfirst⟩, herror⟩
  · have hcycle : ¬ ReachesCycle models m := by
      intro hc
      obtain ⟨legs, n, hr⟩ := reachesCycle_iff.1 hc
      exact hno legs _ ((flaw_iff_reentry h hm).2 ⟨n, hr, rfl⟩)
    exact ⟨iff_of_true hok hcycle, hexpands, fun hc => absurd hc hcycle⟩
  · obtain ⟨n, hr, rfl⟩ := (flaw_iff_reentry h hm).1 hflaw
    rw [fault_reported] at herror
    have hcycle : ReachesCycle models m := reachesCycle_iff.2 ⟨legs, n, hr⟩
    refine ⟨iff_of_false ?_ (not_not.2 hcycle), hexpands, fun _ => ⟨legs, n, ⟨hr, ?_⟩, herror⟩⟩
    · rintro ⟨s, hs⟩
      cases hs.symm.trans herror
    · exact fun legs' n' hr' => hfirst legs' _ ((flaw_iff_reentry h hm).2 ⟨n', hr', rfl⟩)

def node : Model :=
  ⟨1, "Node", [⟨"place", .model 0 "Place", none, true⟩,
    ⟨"children", .collection .plain .list [.model 1 "Node"], none, false⟩]⟩

/-- Before the nodes come two branches that meet one model, which is no reentry. -/
def tree : Model :=
  ⟨2, "Tree", [⟨"origin", .model 0 "Place", none, true⟩,
    ⟨"home", .union .typing [.model 0 "Place", .plain .nothing], none, false⟩,
    ⟨"root", .model 1 "Node", none, true⟩]⟩

def forest : List Model := [⟨0, "Place", [⟨"name", .plain .string, none, true⟩]⟩, node, tree]

theorem leaf_forest {m : Model} (hm : m ∈ forest) {f : Field} (hf : f ∈ m.fields) :
    f.leaf = .string ∨ f.leaf = .model 0 "Place" ∨ f.leaf = .model 1 "Node" := by
  have hleaves : forest.flatMap (fun m => m.fields.map Field.leaf) =
      [.string, .model 0 "Place", .model 1 "Node", .model 0 "Place", .model 0 "Place",
        .model 1 "Node"] := by cbv
  have hmem : f.leaf ∈ forest.flatMap fun m => m.fields.map Field.leaf :=
    List.mem_flatMap.2 ⟨m, hm, List.mem_map_of_mem hf⟩
  rw [hleaves] at hmem
  simp only [List.mem_cons, List.not_mem_nil, or_false] at hmem
  tauto

theorem family_forest : Family forest := by
  refine ⟨by decide, fun m hm f hf id name h => ?_⟩
  rcases leaf_forest hm hf with hleaf | hleaf | hleaf <;>
    cases hleaf.symm.trans (Field.asks_model_iff.1 h)
  · exact ⟨_, List.mem_cons_self .., rfl, rfl⟩
  · exact ⟨_, List.mem_cons_of_mem _ (List.mem_cons_self ..), rfl, rfl⟩

theorem readable_forest : Readable forest := by
  refine ⟨family_forest, fun m hm f hf => ?_, fun m hm f hf values h => ?_⟩
  · rcases leaf_forest hm hf with hleaf | hleaf | hleaf <;>
      exact ⟨_, Field.asks_iff.2 ⟨hleaf, trivial⟩⟩
  · rcases leaf_forest hm hf with hleaf | hleaf | hleaf <;>
      cases hleaf.symm.trans (Field.asks_iff.1 h).1

theorem reachesCycle_tree : ReachesCycle forest tree := by
  have hnode : node ∈ forest := by simp [forest]
  have hroot : Holds forest tree node :=
    ⟨hnode, ⟨"root", .model 1 "Node", none, true⟩, by simp [tree], .self .model nofun⟩
  have hchildren : Holds forest node node :=
    ⟨hnode, ⟨"children", .collection .plain .list [.model 1 "Node"], none, false⟩, by simp [node],
      .item .list (.self .model nofun)⟩
  exact ⟨node, .single hroot, .single hchildren⟩

theorem schema_forest :
    Readable forest ∧ tree ∈ forest ∧ ReachesCycle forest tree ∧
      ∃ legs n, FirstReentry forest tree legs n ∧
        schema forest tree.id tree.name = .error ⟨.type, reentryText legs n⟩ ∧
        reentryText legs n = "Tree.root: Node.children: recursive models are not supported: Node" := by
  have htree : tree ∈ forest := by simp [forest]
  have hraised : schema forest tree.id tree.name =
      .error ⟨.type, "Tree.root: Node.children: recursive models are not supported: Node"⟩ := by cbv
  obtain ⟨legs, n, hfirst, herror⟩ :=
    (schema_of_readable readable_forest htree).2.2 reachesCycle_tree
  refine ⟨readable_forest, htree, reachesCycle_tree, legs, n, hfirst, herror, ?_⟩
  exact congrArg Fault.text (Except.error.inj (herror.symm.trans hraised))

end ReplySchema.Model
