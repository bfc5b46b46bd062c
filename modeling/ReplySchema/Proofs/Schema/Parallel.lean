import ReplySchema.Proofs.Schema.Nodes

/-!
Schemas of one shape. Two schemas are walked node by node, and a relation of the marks is asked for
at each pair of nodes.
-/

namespace ReplySchema.Schema

mutual

/-- `Parallel same s t`: two schemas of one shape, with marks at each node that are the `same`. -/
inductive Parallel (same : Marks → Marks → Prop) : Schema → Schema → Prop
  | primitive {m n : Marks} {k : Primitive} :
    same m n → Parallel same (.primitive m k) (.primitive n k)
  | array {m n : Marks} {item item' : Schema} :
    same m n → Parallel same item item' → Parallel same (.array m item) (.array n item')
  | object {m n : Marks} {fields fields' : List (Text × Schema)} :
    same m n → ParallelFields same fields fields' →
      Parallel same (.object m fields) (.object n fields')

inductive ParallelFields (same : Marks → Marks → Prop) :
    List (Text × Schema) → List (Text × Schema) → Prop
  | nil : ParallelFields same [] []
  | cons {key : Text} {child child' : Schema} {fields fields' : List (Text × Schema)} :
    Parallel same child child' → ParallelFields same fields fields' →
      ParallelFields same ((key, child) :: fields) ((key, child') :: fields')

end

def SameShape (s t : Schema) : Prop := Parallel (fun _ _ => True) s t

variable {same same' : Marks → Marks → Prop}

theorem ParallelFields.imp {fields fields' : List (Text × Schema)}
    (hf : ParallelFields same fields fields')
    (ih : ∀ f ∈ fields, ∀ g ∈ fields', Parallel same f.2 g.2 → Parallel same' f.2 g.2) :
    ParallelFields same' fields fields' := by
  induction fields generalizing fields' with
  | nil =>
    cases hf
    exact .nil
  | cons f fields ihf =>
    cases hf with
    | cons hchild hfields =>
      refine .cons (ih _ (List.mem_cons_self ..) _ (List.mem_cons_self ..) hchild) (ihf hfields ?_)
      intro f hf g hg
      exact ih f (List.mem_cons_of_mem _ hf) g (List.mem_cons_of_mem _ hg)

/-- Marks that are compared under what is known of the rules of both schemas. -/
theorem Parallel.imp {P : Rule → Prop}
    (himp : ∀ m n : Marks, (∀ rule, m.rule = some rule → P rule) →
      (∀ rule, n.rule = some rule → P rule) → same m n → same' m n)
    {s t : Schema} (h : Parallel same s t) (hs : ∀ rule ∈ s.rules, P rule)
    (ht : ∀ rule ∈ t.rules, P rule) : Parallel same' s t := by
  have own {s : Schema} (hs : ∀ rule ∈ s.rules, P rule) (rule : Rule)
      (hrule : s.marks.rule = some rule) : P rule := hs rule (mem_rules_self hrule)
  induction s using nodes generalizing t with
  | primitive m k =>
    cases h with
    | primitive hmarks => exact .primitive (himp _ _ (own hs) (own ht) hmarks)
  | array m item ih =>
    cases h with
    | array hmarks hitem =>
      refine .array (himp _ _ (own hs) (own ht) hmarks) (ih hitem ?_ ?_)
      · exact fun rule hr => hs rule (mem_rules_item hr)
      · exact fun rule hr => ht rule (mem_rules_item hr)
  | object m fields ih =>
    cases h with
    | object hmarks hfields =>
      refine .object (himp _ _ (own hs) (own ht) hmarks) (hfields.imp fun f hf g hg h => ?_)
      apply ih f hf h
      · exact fun rule hr => hs rule (mem_rules_field hf hr)
      · exact fun rule hr => ht rule (mem_rules_field hg hr)

theorem Parallel.mono (himp : ∀ m n, same m n → same' m n) {s t : Schema}
    (h : Parallel same s t) : Parallel same' s t :=
  h.imp (P := fun _ => True) (fun m n _ _ => himp m n) (fun _ _ => trivial) fun _ _ => trivial

end ReplySchema.Schema
