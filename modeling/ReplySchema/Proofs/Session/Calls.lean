import ReplySchema.Proofs.Schema.Labels
import ReplySchema.Proofs.Session.Fields

/-!
Calls on a session. A call that raises leaves everything as it was. One that succeeds either adds a
node behind the others, whose shape is what was asked for, or changes the marks of one node, and the
only rules it can put there have a label that may stand.
-/

namespace ReplySchema

inductive Command
  | addPrimitive (kind : Primitive)
  | addArray (item : Argument)
  | addObject (mapping : List (Value × Argument)) (named : List (Text × Argument))
  | validate (id : NodeId) (source : RuleSource) (label : Value)
  /-- Without a flag the mark is set. -/
  | setOptional (id : NodeId) (flag : Option Value)

namespace Shape

def children : Shape → List NodeId
  | primitive _ => []
  | array item => [item]
  | object fields => fields.map Prod.snd

def keys : Shape → List Text
  | object fields => fields.map Prod.fst
  | _ => []

end Shape

/-- The call, which need not tell the number of a node that it makes. -/
def Command.build : Command → Building Unit
  | addPrimitive kind => discard (Building.addPrimitive kind)
  | addArray item => discard (Building.addArray item)
  | addObject mapping named => discard (Building.addObject mapping named)
  | validate id source label => Building.validate id source label
  | setOptional id flag => Building.setOptional id ((flag.map Value.truth).getD true)

namespace Session

def call (s : Session) (c : Command) : Except BuildError Unit × Session := c.build.run s

/-- Whether the call succeeds, or what it raises. -/
def answer (s : Session) (c : Command) : Except BuildError Unit := (s.call c).1

/-- The session that the call leaves behind. -/
def after (s : Session) (c : Command) : Session := (s.call c).2

end Session

def Argument.IsIn (s : Session) : Argument → Prop
  | .node id => id < s.nodes.length
  | .value _ => True

namespace Command

def target? : Command → Option NodeId
  | validate id _ _ | setOptional id _ => some id
  | _ => none

/-- The call can be made: the nodes it is about exist, and a rule that it hands in was made. -/
def Admissible (s : Session) : Command → Prop
  | addPrimitive _ => True
  | addArray item => item.IsIn s
  | addObject mapping named => (∀ f ∈ mapping, f.2.IsIn s) ∧ ∀ f ∈ named, f.2.IsIn s
  | validate id source _ => id < s.nodes.length ∧ source.Made
  | setOptional id _ => id < s.nodes.length

/--
`c.Makes shape`: the node that the call asks for. The fields of an object node are the members of the
mapping, bound in their order, and behind them the named ones, under keys that are new.
-/
inductive Makes : Command → Shape → Prop
  | primitive (kind : Primitive) : Makes (.addPrimitive kind) (.primitive kind)
  | array (id : NodeId) : Makes (.addArray (.node id)) (.array id)
  | object {given named : List (Text × Argument)} {fields : List (Text × NodeId)} :
    (named.map Prod.fst).Nodup → (∀ f ∈ named, f.1 ∉ given.map Prod.fst) →
      given.foldl (fun fs f => assign f.1 f.2 fs) [] ++ named =
        fields.map (fun f => (f.1, Argument.node f.2)) →
      Makes (.addObject (given.map Argument.under) named) (.object fields)

variable {s : Session} {c : Command} {shape : Shape}

theorem Makes.nodup_keys (h : c.Makes shape) : shape.keys.Nodup := by
  cases h with
  | primitive => exact List.nodup_nil
  | array => exact List.nodup_nil
  | @object given named fields hnodup hnew hfields =>
    have hkeys := congrArg (List.map Prod.fst) hfields
    rw [List.map_append, List.map_map] at hkeys
    rw [Shape.keys, show fields.map Prod.fst = _ from hkeys.symm]
    refine List.nodup_append.2 ⟨nodup_keys_foldl_assign given, hnodup, ?_⟩
    rintro k hk l hl rfl
    obtain ⟨f, hf, rfl⟩ := List.mem_map.1 hl
    exact hnew f hf (mem_keys_foldl_assign.1 hk)

/-- The children of a new node are nodes that were handed in. -/
theorem Makes.children_lt (h : c.Makes shape) (ha : c.Admissible s) :
    ∀ child ∈ shape.children, child < s.nodes.length := by
  cases h with
  | primitive => exact fun child hc => absurd hc List.not_mem_nil
  | array id =>
    intro child hc
    rw [List.mem_singleton.1 hc]
    exact ha
  | @object given named fields hnodup hnew hfields =>
    obtain ⟨hmapping, hnamed⟩ := ha
    have hgiven : ∀ f ∈ given.foldl (fun fs f => assign f.1 f.2 fs) [], f.2.IsIn s := by
      have hnil : (([] : List (Text × Argument)).map Prod.fst).Nodup := List.nodup_nil
      refine (foldl_assign_inv (P := Argument.IsIn s) ⟨hnil, ?_⟩ ?_).2
      · exact fun f hf => absurd hf List.not_mem_nil
      · exact fun f hf => hmapping _ (List.mem_map_of_mem hf)
    intro child hc
    obtain ⟨f, hf, rfl⟩ := List.mem_map.1 hc
    have hmem : (f.1, Argument.node f.2) ∈
        given.foldl (fun fs f => assign f.1 f.2 fs) [] ++ named := by
      rw [hfields]
      exact List.mem_map_of_mem hf
    rcases List.mem_append.1 hmem with hmem | hmem
    · exact hgiven _ hmem
    · exact hnamed _ hmem

end Command

namespace Session

open Command (Makes)

variable {s : Session}

theorem run_ofExcept_bind {α β : Type} (r : Except BuildError α) (f : α → Building β)
    (s : Session) :
    (MonadExcept.ofExcept r >>= f : Building β).run s =
      match r with
      | .ok a => (f a).run s
      | .error e => (.error e, s) := by
  cases r <;> rfl

theorem run_discard {α : Type} (b : Building α) (s : Session) :
    (discard b : Building Unit).run s = ((b.run s).1.map fun _ => (), (b.run s).2) := by
  change (b >>= fun _ => pure ()).run s = _
  rw [ExceptT.run_bind]
  change StateT.bind b.run _ s = _
  unfold StateT.bind
  obtain ⟨r, t⟩ := b.run s
  cases r <;> rfl

theorem call_addArray (item : Argument) :
    (∃ e, s.call (.addArray item) = (.error e, s)) ∨
      ∃ shape, (Command.addArray item).Makes shape ∧
        s.call (.addArray item) = (.ok (), (s.add shape).2) := by
  cases item with
  | node id => exact .inr ⟨.array id, .array id, rfl⟩
  | value v => exact .inl ⟨_, rfl⟩

/-- Fields that are merged and resolved are those of an object node that can be made. -/
theorem makes_of_fields {mapping merged : List (Value × Argument)} {named : List (Text × Argument)}
    {fields : List (Text × NodeId)} (hmerge : mergeFields mapping named = .ok merged)
    (hresolve : resolveFields merged = .ok fields) :
    (Command.addObject mapping named).Makes (.object fields) := by
  obtain ⟨hmerged, hnodup, hnew⟩ := named_of_foldlM hmerge
  have hresolved := eq_of_resolveFields hresolve
  -- All keys that were resolved are strings, and the keys of the mapping are among them.
  have hstrings : ∀ k ∈ mapping.map Prod.fst, ∃ t, k = Value.string t := by
    intro k hk
    have hmem : k ∈ merged.map Prod.fst := by
      rw [hmerged, List.map_append]
      exact List.mem_append_left _ (mem_keys_foldl_assignKey (.inl hk))
    rw [hresolved, List.map_map] at hmem
    obtain ⟨f, -, rfl⟩ := List.mem_map.1 hmem
    exact ⟨f.1, rfl⟩
  obtain ⟨given, rfl⟩ := exists_given hstrings
  have hbound := foldl_assignKey_under given []
  rw [List.map_nil] at hbound
  rw [hbound] at hmerged hnew
  refine .object hnodup ?_ ?_
  · intro f hf hmem
    have htaken := hasKey_under.2 (mem_keys_foldl_assign.2 hmem)
    rw [hnew f hf] at htaken
    cases htaken
  · apply List.map_injective_iff.2 Argument.under_injective
    rw [List.map_append, ← hmerged, hresolved, List.map_map]
    rfl

theorem call_addObject (mapping : List (Value × Argument)) (named : List (Text × Argument)) :
    (∃ e, s.call (.addObject mapping named) = (.error e, s)) ∨
      ∃ shape, (Command.addObject mapping named).Makes shape ∧
        s.call (.addObject mapping named) = (.ok (), (s.add shape).2) := by
  rw [call, Command.build, run_discard, Building.addObject, run_ofExcept_bind]
  cases hmerge : mergeFields mapping named with
  | error e => exact .inl ⟨e, rfl⟩
  | ok merged =>
    dsimp only
    rw [run_ofExcept_bind]
    cases hresolve : resolveFields merged with
    | error e => exact .inl ⟨e, rfl⟩
    | ok fields => exact .inr ⟨.object fields, makes_of_fields hmerge hresolve, rfl⟩

theorem call_validate (s : Session) (id : NodeId) (source : RuleSource) (label : Value) :
    s.call (.validate id source label) =
      match Rule.resolve source label with
      | .ok rule => (.ok (), s.modifyMarks id fun m => { m with rule := some rule })
      | .error e => (.error e, s) := by
  rw [call, Command.build, Building.validate, run_ofExcept_bind]
  cases Rule.resolve source label <;> rfl

/-- A call that sets no marks raises and changes nothing, or adds the node that was asked for. -/
theorem call_of_adder {c : Command} (hc : c.target? = none) :
    (∃ e, s.call c = (.error e, s)) ∨
      ∃ shape, c.Makes shape ∧ s.call c = (.ok (), (s.add shape).2) := by
  cases c with
  | addPrimitive kind => exact .inr ⟨_, .primitive kind, rfl⟩
  | addArray item => exact call_addArray item
  | addObject mapping named => exact call_addObject mapping named
  | validate | setOptional => cases hc

theorem after_of_adder {c : Command} (hc : c.target? = none) :
    s.after c = s ∨ ∃ shape, c.Makes shape ∧ s.after c = (s.add shape).2 := by
  rw [after]
  rcases call_of_adder hc with ⟨e, hcall⟩ | ⟨shape, hmakes, hcall⟩
  · exact .inl (congrArg Prod.snd hcall)
  · exact .inr ⟨shape, hmakes, congrArg Prod.snd hcall⟩

/-- What raises has changed nothing before. -/
theorem after_of_error {c : Command} {e : BuildError} (h : s.answer c = .error e) :
    s.after c = s := by
  cases hc : c.target? with
  | none =>
    rcases call_of_adder hc with ⟨e', hcall⟩ | ⟨shape, -, hcall⟩
    · exact congrArg Prod.snd hcall
    · cases (congrArg Prod.fst hcall).symm.trans h
  | some i =>
    cases c with
    | validate id source label =>
      rw [answer, call_validate] at h
      rw [after, call_validate]
      cases hr : Rule.resolve source label with
      | error e' => rfl
      | ok rule =>
        rw [hr] at h
        cases h
    | setOptional => cases h
    | addPrimitive | addArray | addObject => cases hc

/--
What a call does: nothing, or it adds the node that was asked for, or it changes the marks of a node,
where a rule that comes in has a label that may stand.
-/
theorem after_cases {c : Command} (ha : c.Admissible s) :
    s.after c = s ∨ (∃ shape, c.Makes shape ∧ s.after c = (s.add shape).2) ∨
      ∃ id f, s.after c = s.modifyMarks id f ∧
        ∀ m rule, (f m).rule = some rule → m.rule = some rule ∨ rule.label.IsLabel := by
  cases c with
  | addPrimitive | addArray | addObject => exact (after_of_adder rfl).imp_right .inl
  | validate id source label =>
    rw [after, call_validate]
    cases hrule : Rule.resolve source label with
    | error e => exact .inl rfl
    | ok rule =>
      refine .inr (.inr ⟨id, fun m => { m with rule := some rule }, rfl, fun m r hr => .inr ?_⟩)
      cases hr
      exact Rule.isLabel_of_resolve ha.2 hrule
  | setOptional id flag =>
    exact .inr (.inr ⟨id, fun m => { m with optional := (flag.map Value.truth).getD true }, rfl,
      fun m r hr => .inl hr⟩)

/-- `s.Runs cs t`: the calls `cs` lead from `s` to `t`, and each can be made when it is its turn. -/
inductive Runs : Session → List Command → Session → Prop
  | nil (s : Session) : Runs s [] s
  | cons {s t : Session} {c : Command} {cs : List Command} :
    c.Admissible s → Runs (s.after c) cs t → Runs s (c :: cs) t

end Session

end ReplySchema
