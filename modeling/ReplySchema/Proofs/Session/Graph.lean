import ReplySchema.Proofs.Schema.Hints
import ReplySchema.Proofs.Schema.Paths
import ReplySchema.Proofs.Session.Calls

/-!
The graph of a session. Children are older than their parents, so following the children of a node
comes to an end and the node unfolds to a schema. Every call keeps that, the shapes of the nodes that
are there and the form of all labels, so a node keeps its plain form for good.
-/

namespace ReplySchema

namespace Session

variable {s s' : Session} {shape : Shape} {id : NodeId} {marks : Marks}

def shapes (s : Session) : List Shape := s.nodes.map Node.shape

theorem shapes_add (s : Session) (shape : Shape) : (s.add shape).2.shapes = s.shapes ++ [shape] :=
  List.map_append

theorem getElem?_modifyMarks (s : Session) (id i : NodeId) (f : Marks → Marks) :
    (s.modifyMarks id f).nodes[i]? =
      s.nodes[i]?.map fun n => if id = i then { n with marks := f n.marks } else n :=
  List.getElem?_modify ..

theorem shapes_modifyMarks (s : Session) (id : NodeId) (f : Marks → Marks) :
    (s.modifyMarks id f).shapes = s.shapes := by
  apply List.ext_getElem?
  intro i
  rw [shapes, shapes, List.getElem?_map, List.getElem?_map, getElem?_modifyMarks, Option.map_map]
  congr 1
  funext node
  dsimp only [Function.comp]
  split <;> rfl

theorem length_shapes (s : Session) : s.shapes.length = s.nodes.length := List.length_map _

theorem getElem?_shapes (h : s.nodes[id]? = some ⟨marks, shape⟩) : s.shapes[id]? = some shape := by
  rw [shapes, List.getElem?_map, h]
  rfl

/-- A node is there before another one is added, or it is the one that is added. -/
theorem old_or_added {shape' : Shape} (h : (s.add shape).2.shapes[id]? = some shape') :
    s.shapes[id]? = some shape' ∨ s.nodes.length = id ∧ shape = shape' := by
  rw [shapes_add, List.getElem?_append] at h
  split at h
  · exact .inl h
  · rename_i hge
    obtain ⟨hlt, hshape⟩ := List.getElem?_eq_some_iff.1 h
    rw [List.getElem_singleton] at hshape
    rw [List.length_singleton, Nat.lt_one_iff, Nat.sub_eq_zero_iff_le, length_shapes] at hlt
    rw [length_shapes, Nat.not_lt] at hge
    exact .inr ⟨Nat.le_antisymm hge hlt, hshape⟩

/-- A shape of the session is that of a node. -/
theorem exists_node (h : s.shapes[id]? = some shape) :
    ∃ marks, s.nodes[id]? = some ⟨marks, shape⟩ := by
  rw [shapes, List.getElem?_map, Option.map_eq_some_iff] at h
  obtain ⟨⟨marks, shape'⟩, hnode, rfl⟩ := h
  exact ⟨marks, hnode⟩

theorem shape_kept (hp : s.shapes <+: s'.shapes) (h : s.shapes[id]? = some shape) :
    s'.shapes[id]? = some shape := by
  obtain ⟨hlt, rfl⟩ := List.getElem?_eq_some_iff.1 h
  exact List.prefix_iff_getElem?.1 hp id hlt

structure Sound (s : Session) : Prop where
  older : ∀ (id : NodeId) (shape : Shape), s.shapes[id]? = some shape →
    ∀ child ∈ shape.children, child < id
  distinct : ∀ shape ∈ s.shapes, shape.keys.Nodup
  labelled : ∀ node ∈ s.nodes, ∀ rule, node.marks.rule = some rule → rule.label.IsLabel

namespace Sound

theorem empty : Session.empty.Sound where
  older _ _ h := by cases h
  distinct _ h := by cases h
  labelled _ h := by cases h

theorem add (h : s.Sound) (hkeys : shape.keys.Nodup)
    (hchildren : ∀ child ∈ shape.children, child < s.nodes.length) : (s.add shape).2.Sound where
  older id shape' hs := by
    rcases old_or_added hs with hs | ⟨rfl, rfl⟩
    · exact h.older id shape' hs
    · exact hchildren
  distinct shape' hs := by
    rw [shapes_add] at hs
    rcases List.mem_append.1 hs with hs | hs
    · exact h.distinct shape' hs
    · rw [List.mem_singleton.1 hs]
      exact hkeys
  labelled node hn rule hr := by
    rcases List.mem_append.1 hn with hn | hn
    · exact h.labelled node hn rule hr
    · rw [List.mem_singleton.1 hn] at hr
      cases hr

theorem modifyMarks (h : s.Sound) (id : NodeId) {f : Marks → Marks}
    (hf : ∀ m rule, (f m).rule = some rule → m.rule = some rule ∨ rule.label.IsLabel) :
    (s.modifyMarks id f).Sound where
  older := by
    rw [shapes_modifyMarks]
    exact h.older
  distinct := by
    rw [shapes_modifyMarks]
    exact h.distinct
  labelled node hn rule hr := by
    obtain ⟨i, hi⟩ := List.mem_iff_getElem?.1 hn
    rw [getElem?_modifyMarks, Option.map_eq_some_iff] at hi
    obtain ⟨old, hold, rfl⟩ := hi
    have hmem := List.mem_of_getElem? hold
    split at hr
    · rcases hf old.marks rule hr with hr | hl
      · exact h.labelled old hmem rule hr
      · exact hl
    · exact h.labelled old hmem rule hr

theorem after (h : s.Sound) {c : Command} (ha : c.Admissible s) : (s.after c).Sound := by
  rcases after_cases ha with hc | ⟨shape, hmakes, hc⟩ | ⟨id, f, hc, hf⟩
  · rw [hc]
    exact h
  · rw [hc]
    exact h.add hmakes.nodup_keys (hmakes.children_lt ha)
  · rw [hc]
    exact h.modifyMarks id hf

theorem of_runs {cs : List Command} (hr : s.Runs cs s') (h : s.Sound) : s'.Sound := by
  induction hr with
  | nil => exact h
  | cons ha _ ih => exact ih (h.after ha)

end Sound

theorem shapes_prefix_after {c : Command} (ha : c.Admissible s) :
    s.shapes <+: (s.after c).shapes := by
  rcases after_cases ha with hc | ⟨shape, -, hc⟩ | ⟨id, f, hc, -⟩
  · rw [hc]
  · rw [hc, shapes_add]
    exact List.prefix_append ..
  · rw [hc, shapes_modifyMarks]

/-- The shapes of the nodes that are there stay for good. -/
theorem Runs.shapes_prefix {cs : List Command} (h : s.Runs cs s') : s.shapes <+: s'.shapes := by
  induction h with
  | nil => exact List.prefix_rfl
  | cons ha _ ih => exact (shapes_prefix_after ha).trans ih

/-- Among the calls that lead on from `s`, one made the node `id` with that shape. -/
def MakesNode (s : Session) (cs : List Command) (id : NodeId) (shape : Shape) : Prop :=
  ∃ earlier c later t, cs = earlier ++ c :: later ∧ s.Runs earlier t ∧ t.nodes.length = id ∧
    c.Makes shape ∧ t.after c = (t.add shape).2

theorem MakesNode.cons {c : Command} {cs : List Command} (ha : c.Admissible s)
    (h : (s.after c).MakesNode cs id shape) : s.MakesNode (c :: cs) id shape := by
  obtain ⟨earlier, d, later, t, rfl, hr, hrest⟩ := h
  exact ⟨c :: earlier, d, later, t, rfl, .cons ha hr, hrest⟩

/-- A node is there from the start, or its shape is what the call that made it asked for. -/
theorem Runs.old_or_made {cs : List Command} (h : s.Runs cs s') (hid : s'.shapes[id]? = some shape) :
    s.shapes[id]? = some shape ∨ s.MakesNode cs id shape := by
  induction h with
  | nil => exact .inl hid
  | @cons s t c cs ha hr ih =>
    rcases ih hid with hold | hmade
    · -- There after the first call: then it is older, or the node that this call adds.
      rcases after_cases ha with hc | ⟨shape', hmakes, hc⟩ | ⟨i, f, hc, -⟩
      · rw [hc] at hold
        exact .inl hold
      · rw [hc] at hold
        rcases old_or_added hold with hold | ⟨hlength, rfl⟩
        · exact .inl hold
        · exact .inr ⟨[], c, cs, s, rfl, .nil s, hlength, hmakes, hc⟩
      · rw [hc, shapes_modifyMarks] at hold
        exact .inl hold
    · exact .inr (hmade.cons ha)

mutual

/-- `s.Unfolds id t`: following the children from the node `id` makes the schema `t`. -/
inductive Unfolds (s : Session) : NodeId → Schema → Prop
  | primitive {id : NodeId} {marks : Marks} {kind : Primitive} :
    s.nodes[id]? = some ⟨marks, .primitive kind⟩ → Unfolds s id (.primitive marks kind)
  | array {id item : NodeId} {marks : Marks} {t : Schema} :
    s.nodes[id]? = some ⟨marks, .array item⟩ → Unfolds s item t → Unfolds s id (.array marks t)
  | object {id : NodeId} {marks : Marks} {fields : List (Text × NodeId)}
    {children : List (Text × Schema)} :
    s.nodes[id]? = some ⟨marks, .object fields⟩ → UnfoldsFields s fields children →
      Unfolds s id (.object marks children)

inductive UnfoldsFields (s : Session) : List (Text × NodeId) → List (Text × Schema) → Prop
  | nil : UnfoldsFields s [] []
  | cons {key : Text} {id : NodeId} {t : Schema} {fields : List (Text × NodeId)}
    {children : List (Text × Schema)} :
    Unfolds s id t → UnfoldsFields s fields children →
      UnfoldsFields s ((key, id) :: fields) ((key, t) :: children)

end

namespace UnfoldsFields

variable {fields : List (Text × NodeId)} {children : List (Text × Schema)}

theorem keys_eq (h : s.UnfoldsFields fields children) :
    children.map Prod.fst = fields.map Prod.fst := by
  induction children generalizing fields with
  | nil =>
    cases h
    rfl
  | cons f children ih =>
    cases h with
    | cons _ hrest => rw [List.map_cons, List.map_cons, ih hrest]

theorem exists_unfolds (h : s.UnfoldsFields fields children) {f : Text × Schema}
    (hf : f ∈ children) : ∃ child, s.Unfolds child f.2 := by
  induction children generalizing fields with
  | nil => cases hf
  | cons g children ih =>
    cases h with
    | @cons _ child _ _ _ hchild hrest =>
      rcases List.mem_cons.1 hf with rfl | hf
      · exact ⟨child, hchild⟩
      · exact ih hrest hf

end UnfoldsFields

def Child (s : Session) (child parent : NodeId) : Prop :=
  ∃ shape, s.shapes[parent]? = some shape ∧ child ∈ shape.children

namespace Sound

theorem wellFounded_child (h : s.Sound) : WellFounded s.Child := by
  refine Subrelation.wf ?_ Nat.lt_wfRel.wf
  rintro child parent ⟨shape, hs, hc⟩
  exact h.older parent shape hs child hc

theorem exists_unfoldsFields {fields : List (Text × NodeId)}
    (h : ∀ child ∈ fields.map Prod.snd, ∃ t, s.Unfolds child t) :
    ∃ children, s.UnfoldsFields fields children := by
  induction fields with
  | nil => exact ⟨[], .nil⟩
  | cons f fields ih =>
    obtain ⟨key, child⟩ := f
    rw [List.map_cons, List.forall_mem_cons] at h
    obtain ⟨⟨t, ht⟩, hrest⟩ := h
    obtain ⟨children, hchildren⟩ := ih hrest
    exact ⟨(key, t) :: children, .cons ht hchildren⟩

/-- By induction on the number of the node, as its children have smaller ones. -/
theorem exists_unfolds (h : s.Sound) (hid : id < s.nodes.length) : ∃ t, s.Unfolds id t := by
  induction id using Nat.strongRecOn with
  | ind id ih =>
    obtain ⟨⟨marks, shape⟩, hnode⟩ : ∃ node, s.nodes[id]? = some node :=
      ⟨_, List.getElem?_eq_getElem hid⟩
    have hchild : ∀ child ∈ shape.children, ∃ t, s.Unfolds child t := by
      intro child hc
      have hlt := h.older id shape (getElem?_shapes hnode) child hc
      exact ih child hlt (hlt.trans hid)
    cases shape with
    | primitive kind => exact ⟨_, .primitive hnode⟩
    | array item =>
      obtain ⟨t, ht⟩ := hchild item (List.mem_cons_self ..)
      exact ⟨_, .array hnode ht⟩
    | object fields =>
      obtain ⟨children, hchildren⟩ := exists_unfoldsFields hchild
      exact ⟨_, .object hnode hchildren⟩

theorem mapM_of_unfoldsFields {fields : List (Text × NodeId)} {children : List (Text × Schema)}
    (hf : s.UnfoldsFields fields children) (hlt : ∀ child ∈ fields.map Prod.snd, child < id)
    (ih : ∀ child < id, ∀ t, s.Unfolds child t → s.schema? child = some t) :
    (fields.mapM fun (f : Text × NodeId) =>
      if f.2 < id then (s.schema? f.2).map fun child => (f.1, child) else none) = some children := by
  induction fields generalizing children with
  | nil =>
    cases hf
    rfl
  | cons f fields ihf =>
    cases hf with
    | @cons key child t fields children ht hrest =>
      rw [List.map_cons, List.forall_mem_cons] at hlt
      rw [List.mapM_cons, if_pos hlt.1, ih child hlt.1 t ht, ihf hrest hlt.2]
      rfl

/-- What a node unfolds to is its schema. -/
theorem schema?_of_unfolds (h : s.Sound) {t : Schema} (ht : s.Unfolds id t) :
    s.schema? id = some t := by
  induction id using Nat.strongRecOn generalizing t with
  | ind id ih =>
    cases ht with
    | primitive hnode => rw [schema?, hnode]
    | @array _ item marks t hnode hitem =>
      have hlt := h.older id _ (getElem?_shapes hnode) item (List.mem_cons_self ..)
      rw [schema?, hnode]
      dsimp only
      rw [if_pos hlt, ih item hlt hitem, Option.map_some]
    | object hnode hfields =>
      have hlt := h.older id _ (getElem?_shapes hnode)
      rw [schema?, hnode]
      dsimp only
      rw [mapM_of_unfoldsFields hfields hlt fun child hc t ht => ih child hc ht, Option.map_some]

theorem entries_of_unfoldsFields {fields : List (Text × NodeId)} {children : List (Text × Schema)}
    (hf : s.UnfoldsFields fields children)
    (ih : ∀ child ∈ fields.map Prod.snd, ∀ t, s.Unfolds child t →
      ∃ t', s'.Unfolds child t' ∧ t'.plain = t.plain) :
    ∃ children', s'.UnfoldsFields fields children' ∧
      Schema.entries false children' = Schema.entries false children := by
  induction fields generalizing children with
  | nil =>
    cases hf
    exact ⟨[], .nil, rfl⟩
  | cons f fields ihf =>
    cases hf with
    | @cons key child t fields children ht hrest =>
      rw [List.map_cons, List.forall_mem_cons] at ih
      obtain ⟨t', ht', hplain⟩ := ih.1 t ht
      obtain ⟨children', hchildren', hentries⟩ := ihf hrest ih.2
      refine ⟨(key, t') :: children', .cons ht' hchildren', ?_⟩
      rw [Schema.entries, Schema.entries, hentries, Marks.annotate_false, Marks.annotate_false]
      exact congrArg (fun p => (key ++ ": " ++ p) :: Schema.entries false children) hplain

/-- While shapes stay, a node keeps its plain form. -/
theorem plain_kept (h : s.Sound) (hp : s.shapes <+: s'.shapes) {t : Schema} (ht : s.Unfolds id t) :
    ∃ t', s'.Unfolds id t' ∧ t'.plain = t.plain := by
  have hnodes : ∀ {i : NodeId} {marks : Marks} {shape : Shape},
      s.nodes[i]? = some ⟨marks, shape⟩ → ∃ marks', s'.nodes[i]? = some ⟨marks', shape⟩ :=
    fun hn => exists_node (shape_kept hp (getElem?_shapes hn))
  induction id using Nat.strongRecOn generalizing t with
  | ind id ih =>
    cases ht with
    | primitive hnode =>
      obtain ⟨marks', hnode'⟩ := hnodes hnode
      exact ⟨_, .primitive hnode', rfl⟩
    | @array _ item marks t hnode hitem =>
      obtain ⟨marks', hnode'⟩ := hnodes hnode
      have hlt := h.older id _ (getElem?_shapes hnode) item (List.mem_cons_self ..)
      obtain ⟨t', ht', hplain⟩ := ih item hlt hitem
      refine ⟨_, .array hnode' ht', ?_⟩
      rw [Schema.plain, Schema.plain, Schema.body, Schema.body]
      exact congrArg (fun p : Text => ("[" : Text) ++ p ++ "]") hplain
    | object hnode hfields =>
      obtain ⟨marks', hnode'⟩ := hnodes hnode
      have hlt := h.older id _ (getElem?_shapes hnode)
      obtain ⟨children', hchildren', hentries⟩ :=
        entries_of_unfoldsFields hfields fun child hc t ht => ih child (hlt child hc) ht
      refine ⟨_, .object hnode' hchildren', ?_⟩
      rw [Schema.plain, Schema.plain, Schema.body, Schema.body, hentries]

end Sound

/-- Every part of what a node unfolds to is what some node unfolds to. -/
theorem exists_unfolds_of_reaches {t n : Schema} {p : Path} (hr : t.Reaches p n)
    (ht : s.Unfolds id t) : ∃ child, s.Unfolds child n := by
  induction hr generalizing id with
  | here => exact ⟨id, ht⟩
  | item _ ih =>
    cases ht with
    | array _ hitem => exact ih hitem
  | field hc _ ih =>
    cases ht with
    | object _ hfields =>
      obtain ⟨child, hchild⟩ := hfields.exists_unfolds hc
      exact ih hchild

/-- No object in what a node unfolds to declares a key twice. -/
theorem Sound.distinctFields (h : s.Sound) {t : Schema} (ht : s.Unfolds id t) :
    t.DistinctFields := by
  intro p m children hr
  obtain ⟨child, hchild⟩ := exists_unfolds_of_reaches hr ht
  cases hchild with
  | object hnode hfields =>
    rw [hfields.keys_eq]
    exact h.distinct _ (List.mem_of_getElem? (getElem?_shapes hnode))

/-- All labels in what a node unfolds to are labels that a rule may have. -/
theorem Sound.labelsPass (h : s.Sound) {t : Schema} (ht : s.Unfolds id t) : t.LabelsPass := by
  have hself : ∀ {id : NodeId} {marks : Marks} {shape : Shape},
      s.nodes[id]? = some ⟨marks, shape⟩ → ∀ rule ∈ marks.rule.toList,
        Rule.checkLabel rule.label = .ok rule.label := by
    intro id marks shape hnode rule hr
    have hlabel := h.labelled _ (List.mem_of_getElem? hnode) rule (Option.mem_toList.1 hr)
    exact Rule.checkLabel_eq_ok_iff.2 ⟨rfl, hlabel⟩
  induction t using Schema.nodes generalizing id with
  | primitive m k =>
    cases ht with
    | primitive hnode => exact hself hnode
  | array m item ih =>
    cases ht with
    | array hnode hitem =>
      intro rule hr
      rw [Schema.rules] at hr
      rcases List.mem_append.1 hr with hr | hr
      · exact hself hnode rule hr
      · exact ih hitem rule hr
  | object m children ih =>
    cases ht with
    | object hnode hfields =>
      intro rule hr
      rw [Schema.rules, Schema.fieldRules_eq] at hr
      rcases List.mem_append.1 hr with hr | hr
      · exact hself hnode rule hr
      · obtain ⟨f, hf, hr⟩ := List.mem_flatMap.1 hr
        obtain ⟨child, hchild⟩ := hfields.exists_unfolds hf
        exact ih f hf hchild rule hr

/--
In every state that calls lead to, children are older than their parents and keys of fields differ,
and labels may stand in a comment. So following children comes to an end and every node unfolds to a
schema. The shape of a node is what the call that made it asked for and stays so in all later states,
in which the node has the same plain form.
-/
theorem sound_of_runs {before later : List Command} (hb : Session.empty.Runs before s)
    (hl : s.Runs later s') :
    s.Sound ∧ WellFounded s.Child ∧
      (∀ id shape, s.shapes[id]? = some shape →
        Session.empty.MakesNode before id shape ∧ s'.shapes[id]? = some shape) ∧
      ∀ id < s.nodes.length, ∃ t t', s.Unfolds id t ∧ s.schema? id = some t ∧
        s'.schema? id = some t' ∧ t'.plain = t.plain := by
  have hs := Sound.empty.of_runs hb
  have hs' := hs.of_runs hl
  have hprefix := hl.shapes_prefix
  refine ⟨hs, hs.wellFounded_child, fun id shape hshape => ⟨?_, shape_kept hprefix hshape⟩,
    fun id hid => ?_⟩
  · rcases hb.old_or_made hshape with hold | hmade
    · cases hold
    · exact hmade
  · obtain ⟨t, ht⟩ := hs.exists_unfolds hid
    obtain ⟨t', ht', hplain⟩ := hs.plain_kept hprefix ht
    exact ⟨t, t', ht, hs.schema?_of_unfolds ht, hs'.schema?_of_unfolds ht', hplain⟩

def drafting : List Command :=
  [.addPrimitive .string, .addObject [(.string "a", .node 0)] [("b", .node 0)],
    .validate 1 (.function (some " ") fun _ => ⟨[], .ok true⟩) .null,
    .validate 0 (.function none fun _ => ⟨[], .ok true⟩) (.string "short")]

def redrafting : List Command :=
  [.setOptional 0 none, .addArray (.value .null),
    .validate 1 (.function (some "both") fun _ => ⟨[], .ok true⟩) .null]

def drafted : Session := drafting.foldl Session.after .empty

def redrafted : Session := redrafting.foldl Session.after drafted

theorem sound_drafting : Session.empty.Runs drafting drafted ∧ drafted.Runs redrafting redrafted ∧
    drafted.Sound ∧ ∃ t t', drafted.schema? 1 = some t ∧ redrafted.schema? 1 = some t' ∧
      t'.plain = t.plain := by
  have hb : Session.empty.Runs drafting drafted := by
    refine .cons trivial (.cons ⟨?_, ?_⟩ (.cons ⟨?_, trivial⟩ (.cons ⟨?_, trivial⟩ (.nil _))))
    · intro f hf
      cases List.mem_singleton.1 hf
      exact Nat.zero_lt_one
    · intro f hf
      cases List.mem_singleton.1 hf
      exact Nat.zero_lt_one
    · exact Nat.one_lt_two
    · exact Nat.two_pos
  have hl : drafted.Runs redrafting redrafted :=
    .cons Nat.two_pos (.cons trivial (.cons ⟨Nat.one_lt_two, trivial⟩ (.nil _)))
  obtain ⟨hs, -, -, hnodes⟩ := sound_of_runs hb hl
  obtain ⟨t, t', -, ht, ht', hplain⟩ := hnodes 1 Nat.one_lt_two
  exact ⟨hb, hl, hs, t, t', ht, ht', hplain⟩

end Session

end ReplySchema
