import Mathlib.Logic.Relation
import ReplySchema.Proofs.Session.Graph

/-!
The marks of nodes. What a node is marked with is what the last call put there that is about this
node and this mark, so two calls about different marks can be swapped. A call on a node shows at that
node and at those above it only: the schema of a node hangs on what is reachable from it.
-/

namespace ReplySchema

namespace Command

/-- The rule that the call puts at the node `id`; a call that raises puts none. -/
def ruleFor? (id : NodeId) : Command → Option Rule
  | validate i source label => if i = id then (Rule.resolve source label).toOption else none
  | _ => none

def flagFor? (id : NodeId) : Command → Option Bool
  | setOptional i flag => if i = id then some ((flag.map Value.truth).getD true) else none
  | _ => none

def remark (c : Command) (id : NodeId) (m : Marks) : Marks where
  rule := (c.ruleFor? id).or m.rule
  optional := (c.flagFor? id).getD m.optional

/-- The calls set marks of different nodes, or different marks. -/
inductive Apart : Command → Command → Prop
  | nodes {c d : Command} {i j : NodeId} :
    c.target? = some i → d.target? = some j → i ≠ j → Apart c d
  | ruleBeforeFlag (i j : NodeId) (source : RuleSource) (label : Value) (flag : Option Value) :
    Apart (.validate i source label) (.setOptional j flag)
  | flagBeforeRule (i j : NodeId) (source : RuleSource) (label : Value) (flag : Option Value) :
    Apart (.setOptional i flag) (.validate j source label)

variable {s : Session} {c d : Command} {id i : NodeId}

/-- A call on a node can be made when the node is there. -/
theorem Admissible.lt (h : c.Admissible s) (hc : c.target? = some i) : i < s.nodes.length := by
  cases c with
  | validate => cases hc; exact h.1
  | setOptional => cases hc; exact h
  | addPrimitive | addArray | addObject => cases hc

theorem Apart.targets (h : c.Apart d) : ∃ i j, c.target? = some i ∧ d.target? = some j := by
  cases h with
  | nodes hc hd => exact ⟨_, _, hc, hd⟩
  | ruleBeforeFlag i j | flagBeforeRule i j => exact ⟨i, j, rfl, rfl⟩

theorem remark_of_no_target (h : c.target? = none) (id : NodeId) (m : Marks) :
    c.remark id m = m := by
  cases c <;> first | rfl | cases h

/-- A call leaves the marks of all nodes but one. -/
theorem remark_of_ne (h : c.target? = some i) (hne : i ≠ id) (m : Marks) : c.remark id m = m := by
  cases c <;> cases h <;> simp [remark, ruleFor?, flagFor?, hne]

theorem remark_comm (h : c.Apart d) (id : NodeId) (m : Marks) :
    d.remark id (c.remark id m) = c.remark id (d.remark id m) := by
  cases h with
  | nodes hc hd hne =>
    rename_i i j
    by_cases hi : i = id
    · have hj : j ≠ id := fun hj => hne (hi.trans hj.symm)
      rw [remark_of_ne hd hj, remark_of_ne hd hj]
    · rw [remark_of_ne hc hi, remark_of_ne hc hi]
  | ruleBeforeFlag | flagBeforeRule => simp [remark, ruleFor?, flagFor?]

theorem remark_of_resolve_ok {source : RuleSource} {label : Value} {rule : Rule}
    (h : Rule.resolve source label = .ok rule) :
    (validate i source label).remark i = fun m => { m with rule := some rule } := by
  funext m
  simp [remark, ruleFor?, flagFor?, h, Except.toOption]

theorem remark_of_resolve_error {source : RuleSource} {label : Value} {e : BuildError}
    (h : Rule.resolve source label = .error e) : (validate i source label).remark i = fun m => m := by
  funext m
  simp [remark, ruleFor?, flagFor?, h, Except.toOption]

theorem remark_setOptional (i : NodeId) (flag : Option Value) :
    (setOptional i flag).remark i =
      fun m => { m with optional := (flag.map Value.truth).getD true } := by
  funext m
  simp [remark, ruleFor?, flagFor?]

end Command

namespace Session

open Command (Apart)

variable {s t : Session} {c d : Command} {id i : NodeId}

theorem ext_nodes (h : ∀ id : NodeId, s.nodes[id]? = t.nodes[id]?) : s = t := by
  cases s
  cases t
  exact congrArg Session.mk (List.ext_getElem? h)

section Marking

/-- A call on a node, whether it succeeds or raises, makes its new marks of the old ones. -/
theorem after_of_target (h : c.target? = some i) : s.after c = s.modifyMarks i (c.remark i) := by
  cases c with
  | validate j source label =>
    cases h
    cases hr : Rule.resolve source label with
    | error e =>
      refine ext_nodes fun id => ?_
      rw [after, call_validate, hr, getElem?_modifyMarks, Command.remark_of_resolve_error hr]
      simp
    | ok rule => rw [after, call_validate, hr, Command.remark_of_resolve_ok hr]
  | setOptional j flag =>
    cases h
    rw [Command.remark_setOptional]
    rfl
  | addPrimitive | addArray | addObject => cases h

theorem getElem?_after (h : c.target? = some i) (id : NodeId) :
    (s.after c).nodes[id]? =
      s.nodes[id]?.map fun n => { n with marks := c.remark id n.marks } := by
  rw [after_of_target h, getElem?_modifyMarks]
  congr 1
  funext n
  split
  · rename_i hi
    rw [hi]
  · rename_i hi
    rw [Command.remark_of_ne h hi]

theorem length_after (h : c.target? = some i) : (s.after c).nodes.length = s.nodes.length := by
  rw [after_of_target h, modifyMarks, List.length_modify]

/-- Calls about different marks lead to the same session in either order. -/
theorem after_comm (h : c.Apart d) : (s.after c).after d = (s.after d).after c := by
  obtain ⟨i, j, hc, hd⟩ := h.targets
  refine ext_nodes fun id => ?_
  rw [getElem?_after hd, getElem?_after hc, getElem?_after hc, getElem?_after hd, Option.map_map,
    Option.map_map]
  congr 1
  funext n
  simp only [Function.comp, Command.remark_comm h]

/-- Whether a call that sets marks succeeds does not hang on the session. -/
theorem answer_eq (h : c.target? = some i) (s t : Session) : s.answer c = t.answer c := by
  cases c with
  | validate j source label =>
    rw [answer, answer, call_validate, call_validate]
    cases Rule.resolve source label <;> rfl
  | setOptional j flag => rfl
  | addPrimitive | addArray | addObject => cases h

theorem admissible_congr (h : c.target? = some i) (hl : s.nodes.length = t.nodes.length) :
    c.Admissible s ↔ c.Admissible t := by
  cases c with
  | validate | setOptional => rw [Command.Admissible, Command.Admissible, hl]
  | addPrimitive | addArray | addObject => cases h

def answers (s : Session) : List Command → List (Except BuildError Unit)
  | [] => []
  | c :: cs => s.answer c :: (s.after c).answers cs

/-- Two calls next to each other about different marks can be swapped, and so can their answers. -/
theorem Runs.swap {before later : List Command} (hcd : c.Apart d)
    (h : s.Runs (before ++ c :: d :: later) t) :
    s.Runs (before ++ d :: c :: later) t ∧
      ∃ a x y b, a.length = before.length ∧
        s.answers (before ++ c :: d :: later) = a ++ x :: y :: b ∧
        s.answers (before ++ d :: c :: later) = a ++ y :: x :: b := by
  induction before generalizing s with
  | nil =>
    obtain ⟨i, j, hc, hd⟩ := hcd.targets
    cases h with
    | cons hac h =>
      cases h with
      | cons had h =>
        rw [admissible_congr hd (length_after hc)] at had
        rw [← admissible_congr hc (length_after hd)] at hac
        rw [after_comm hcd] at h
        refine ⟨.cons had (.cons hac h), [], s.answer c, s.answer d,
          ((s.after d).after c).answers later, rfl, ?_, ?_⟩
        · rw [← after_comm hcd, answer_eq hd s (s.after c)]
          rfl
        · rw [answer_eq hc s (s.after d)]
          rfl
  | cons e before ih =>
    cases h with
    | cons hae h =>
      obtain ⟨hr, a, x, y, b, hl, hcs, hds⟩ := ih h
      refine ⟨.cons hae hr, s.answer e :: a, x, y, b, congrArg (· + 1) hl, ?_, ?_⟩
      · exact congrArg (s.answer e :: ·) hcs
      · exact congrArg (s.answer e :: ·) hds

end Marking

section LastWrite

def marksOf (s : Session) (id : NodeId) : Marks := ((s.nodes[id]?).map Node.marks).getD .plain

theorem marksOf_add (s : Session) (shape : Shape) (id : NodeId) :
    (s.add shape).2.marksOf id = s.marksOf id := by
  have hnew : ∀ n ∈ [(⟨.plain, shape⟩ : Node)][id - s.nodes.length]?, n.marks = .plain := by
    intro n hn
    rw [List.mem_singleton.1 (List.mem_of_getElem? hn)]
  unfold marksOf add
  dsimp only
  rw [List.getElem?_append]
  split
  · rfl
  · rename_i hge
    rw [List.getElem?_eq_none (Nat.not_lt.1 hge)]
    cases hn : [(⟨.plain, shape⟩ : Node)][id - s.nodes.length]? with
    | none => rfl
    | some n => exact hnew n hn

theorem marksOf_after (ha : c.Admissible s) (id : NodeId) :
    (s.after c).marksOf id = c.remark id (s.marksOf id) := by
  cases hc : c.target? with
  | none =>
    rw [Command.remark_of_no_target hc]
    rcases after_of_adder hc with h | ⟨shape, -, h⟩
    · rw [h]
    · rw [h, marksOf_add]
  | some i =>
    rw [marksOf, marksOf, getElem?_after hc]
    cases hn : s.nodes[id]? with
    | some n => rfl
    | none =>
      -- a node that is not there is not the one that the call is about
      have hne : i ≠ id := by
        rintro rfl
        exact absurd (ha.lt hc) (Nat.not_lt.2 (List.getElem?_eq_none_iff.1 hn))
      exact (Command.remark_of_ne hc hne .plain).symm

/-- The marks of a node after some calls, each of which put there what it was asked for. -/
theorem Runs.marksOf_eq {cs : List Command} (h : s.Runs cs t) (id : NodeId) :
    t.marksOf id =
      ⟨(cs.filterMap (Command.ruleFor? id)).getLast?.or (s.marksOf id).rule,
        (cs.filterMap (Command.flagFor? id)).getLast?.getD (s.marksOf id).optional⟩ := by
  induction h with
  | nil s => rfl
  | @cons s t c cs ha _ ih =>
    rw [ih, marksOf_after ha, Command.remark, List.filterMap_cons, List.filterMap_cons]
    cases c.ruleFor? id <;> cases c.flagFor? id <;> simp [List.getLast?_cons]

end LastWrite

section Locality

theorem mapM_congr {α β : Type} {f g : α → Option β} {xs : List α}
    (h : ∀ x ∈ xs, f x = g x) : xs.mapM f = xs.mapM g := by
  induction xs with
  | nil => rfl
  | cons x xs ih =>
    obtain ⟨hx, hxs⟩ := List.forall_mem_cons.1 h
    rw [List.mapM_cons, List.mapM_cons, hx, ih hxs]

/-- The schema of a node hangs on nothing but the nodes that are reachable from it. -/
theorem schema?_congr {n : NodeId}
    (h : ∀ i, Relation.ReflTransGen s.Child i n → t.nodes[i]? = s.nodes[i]?) :
    t.schema? n = s.schema? n := by
  induction n using Nat.strongRecOn with
  | ind n ih =>
    rw [schema?, schema?, h n .refl]
    cases hnode : s.nodes[n]? with
    | none => rfl
    | some node =>
      obtain ⟨marks, shape⟩ := node
      have hchild : ∀ child ∈ shape.children, child < n → t.schema? child = s.schema? child := by
        intro child hc hlt
        have hedge : s.Child child n := ⟨shape, getElem?_shapes hnode, hc⟩
        exact ih child hlt fun i hi => h i (hi.tail hedge)
      cases shape with
      | primitive kind => rfl
      | array item =>
        dsimp only
        split
        · rename_i hlt
          rw [hchild item (List.mem_cons_self ..) hlt]
        · rfl
      | object fields =>
        dsimp only
        congr 1
        refine mapM_congr fun f hf => ?_
        split
        · rename_i hlt
          rw [hchild f.2 (List.mem_map_of_mem hf) hlt]
        · rfl

/-- A call on a node keeps the schema of every node from which it is not reachable. -/
theorem schema?_after (hc : c.target? = some i) {n : NodeId}
    (h : ¬ Relation.ReflTransGen s.Child i n) : (s.after c).schema? n = s.schema? n := by
  refine schema?_congr fun j hj => ?_
  have hne : i ≠ j := by
    rintro rfl
    exact h hj
  rw [getElem?_after hc]
  simp [Command.remark_of_ne hc hne]

end Locality

/--
After any calls the rule of a node is that of the last call that succeeded in putting one there, and
its flag is the truth of what the last call on its flag said. A call that raises changes nothing; two
neighbouring calls about different marks can be swapped, with their answers and for the same outcome;
and a call on a node leaves the notation and every check of all nodes from which it is not reachable.
-/
theorem marks_of_runs {cs : List Command} (h : Session.empty.Runs cs s) :
    (∀ id node, s.nodes[id]? = some node →
      node.marks.rule = (cs.filterMap (Command.ruleFor? id)).getLast? ∧
        node.marks.optional = (cs.filterMap (Command.flagFor? id)).getLast?.getD false) ∧
    (∀ c e, s.answer c = .error e → s.after c = s) ∧
    (∀ before c d later, cs = before ++ c :: d :: later → c.Apart d →
      Session.empty.Runs (before ++ d :: c :: later) s ∧
        ∃ a x y b, a.length = before.length ∧ Session.empty.answers cs = a ++ x :: y :: b ∧
          Session.empty.answers (before ++ d :: c :: later) = a ++ y :: x :: b) ∧
    ∀ c m, c.Admissible s → c.target? = some m → ∀ n < s.nodes.length,
      ∃ t t', s.schema? n = some t ∧ (s.after c).schema? n = some t' ∧
        (¬ Relation.ReflTransGen s.Child m n →
          t'.hinted = t.hinted ∧ t'.plain = t.plain ∧
            ∀ limit v, t'.check limit v = t.check limit v) := by
  refine ⟨fun id node hnode => ?_, fun c e he => after_of_error he, ?_, fun c m ha hc n hn => ?_⟩
  · have hmarks := h.marksOf_eq id
    rw [marksOf, hnode, Option.map_some, Option.getD_some] at hmarks
    rw [hmarks]
    simp [marksOf, Session.empty, Marks.plain]
  · rintro before c d later rfl hcd
    exact h.swap hcd
  · have hs := Sound.empty.of_runs h
    have hs' := hs.after ha
    obtain ⟨t, ht⟩ := hs.exists_unfolds hn
    obtain ⟨t', ht'⟩ := hs'.exists_unfolds ((length_after hc).symm ▸ hn)
    have hschema := hs.schema?_of_unfolds ht
    have hschema' := hs'.schema?_of_unfolds ht'
    refine ⟨t, t', hschema, hschema', fun hnot => ?_⟩
    rw [schema?_after hc hnot, hschema] at hschema'
    cases hschema'
    exact ⟨rfl, rfl, fun _ _ => rfl⟩

/-- A list of strings beside a number; the string is marked again and again, once with a blank label. -/
def marking : List Command :=
  [.addPrimitive .string, .addPrimitive .number, .addArray (.node 0),
    .validate 0 (.function (some "first") fun _ => ⟨[], .ok true⟩) .null,
    .setOptional 0 none,
    .validate 0 (.function (some "last") fun _ => ⟨[], .ok false⟩) .null,
    .validate 0 (.function (some " ") fun _ => ⟨[], .ok true⟩) .null,
    .setOptional 0 (some (.int 0))]

def marked : Session := marking.foldl Session.after .empty

theorem runs_marking : Session.empty.Runs marking marked := by
  refine .cons trivial (.cons trivial (.cons Nat.zero_lt_two (.cons ⟨?_, trivial⟩ (.cons ?_
    (.cons ⟨?_, trivial⟩ (.cons ⟨?_, trivial⟩ (.cons ?_ (.nil _))))))))
  all_goals exact Nat.zero_lt_succ _

def remarking : List Command :=
  marking.take 3 ++ marking[4] :: marking[3] :: marking.drop 5

theorem marks_marking :
    Session.empty.Runs marking marked ∧
      (∃ node, marked.nodes[0]? = some node ∧ node.marks.label? = some ("last" : Text) ∧
        node.marks.optional = false) ∧
      Session.empty.Runs remarking marked ∧
      ¬ Relation.ReflTransGen marked.Child 0 1 ∧
      ∃ t t', marked.schema? 1 = some t ∧
        (marked.after (.setOptional 0 none)).schema? 1 = some t' ∧ t'.hinted = t.hinted := by
  obtain ⟨hlast, -, hswap, hlocal⟩ := marks_of_runs runs_marking
  have happart : Command.Apart marking[3] marking[4] := .ruleBeforeFlag ..
  have hnot : ¬ Relation.ReflTransGen marked.Child 0 1 := by
    intro h
    cases h with
    | tail _ hchild =>
      obtain ⟨shape, hs, hc⟩ := hchild
      cases hs
      cases hc
  obtain ⟨hrule, hflag⟩ := hlast 0 _ rfl
  obtain ⟨hruns, -⟩ := hswap (marking.take 3) _ _ (marking.drop 5) rfl happart
  obtain ⟨t, t', ht, ht', hsame⟩ := hlocal (.setOptional 0 none) 0 (Nat.zero_lt_succ _) rfl 1
    (Nat.succ_lt_succ (Nat.zero_lt_succ _))
  refine ⟨runs_marking, ⟨_, rfl, ?_, hflag⟩, hruns, hnot, t, t', ht, ht', (hsame hnot).1⟩
  rw [Marks.label?, hrule]
  rfl

end Session

end ReplySchema
