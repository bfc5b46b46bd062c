import ReplySchema.Proofs.Schema.Conformance
import ReplySchema.Proofs.Schema.Paths

/-!
The walk of a check. The places of a schema in a value stand in post-order: items by index, fields as
declared, and a node after all below it. A required field that finds no member is a place with
nothing at it; an optional field that finds none is no place, and neither is an undeclared member.
-/

namespace ReplySchema

/-- A place of the walk: a node, and the part at its path if there is one. -/
structure Visit where
  path : Path
  node : Schema
  part : Option Value

namespace Schema

instance (s : Schema) (v : Value) : Decidable (s.Fits v) :=
  match s, v with
  | primitive _ k, v => inferInstanceAs (Decidable (v.kind = k.name))
  | array .., .array vs => .isTrue ⟨vs, rfl⟩
  | object .., v => decidable_of_iff (v.members?.isSome) Option.isSome_iff_exists
  | array .., .null | array .., .bool _ | array .., .int _ | array .., .float _
  | array .., .string _ | array .., .object _ | array .., .mapping _ | array .., .tuple _
  | array .., .foreign _ => .isFalse nofun

end Schema

namespace Visit

def within (step : Step) (x : Visit) : Visit := { x with path := step :: x.path }

def beneath (p : Path) (x : Visit) : Visit := { x with path := p ++ x.path }

/-- What is assembled of `u` at the place stands within the limit, and so does all it holds. -/
def Holds (limit : Nat) (x : Visit) (u : Value) : Prop :=
  x.node.Fits u ∧ x.path.length + (x.node.project u).depth ≤ limit

instance (limit : Nat) (x : Visit) (u : Value) : Decidable (x.Holds limit u) :=
  inferInstanceAs (Decidable (_ ∧ _))

def call? (limit : Nat) (x : Visit) : Option Call :=
  match x.part, x.node.marks.rule with
  | some u, some rule =>
    if x.Holds limit u then some ⟨x.path, x.node.project u, rule.test (x.node.project u)⟩ else none
  | _, _ => none

def Passes (limit : Nat) (x : Visit) : Prop :=
  ∃ u, x.part = some u ∧ x.Holds limit u ∧ x.node.marks.Approves (x.node.project u)

section Limit

variable {limit : Nat} {x : Visit} {u : Value}

theorem holds_within_iff {step : Step} :
    (x.within step).Holds (limit + 1) u ↔ x.Holds limit u := by
  simp only [Holds, within, List.length_cons]
  rw [Nat.add_right_comm, Nat.add_le_add_iff_right]

theorem passes_within_iff {step : Step} :
    (x.within step).Passes (limit + 1) ↔ x.Passes limit :=
  exists_congr fun _ => and_congr_right fun _ => and_congr_left fun _ => holds_within_iff

theorem passes_beneath_iff {p : Path} :
    (x.beneath p).Passes (limit + p.length) ↔ x.Passes limit := by
  induction p with
  | nil => exact Iff.rfl
  | cons step p ih => exact passes_within_iff.trans ih

theorem call?_within (step : Step) (limit : Nat) (x : Visit) :
    (x.within step).call? (limit + 1) =
      (x.call? limit).map fun c => { c with path := step :: c.path } := by
  have hholds (u : Value) : (x.within step).Holds (limit + 1) u ↔ x.Holds limit u :=
    holds_within_iff
  simp only [call?, hholds]
  unfold within
  dsimp only
  split
  · split <;> rfl
  · rfl

theorem call?_eq_some {c : Call} (h : x.call? limit = some c) :
    ∃ u rule, x.part = some u ∧ x.Holds limit u ∧ x.node.marks.rule = some rule ∧
      c = ⟨x.path, x.node.project u, rule.test (x.node.project u)⟩ := by
  unfold call? at h
  split at h
  · rename_i u rule hu hr
    split at h
    · rename_i hf
      cases h
      exact ⟨u, rule, hu, hf, hr, rfl⟩
    · cases h
  · cases h

/-- A place that passes and has a rule puts its question, and the answer is yes. -/
theorem Passes.call (h : x.Passes limit) (hr : x.node.marks.rule ≠ none) :
    ∃ c, x.call? limit = some c ∧ c.path = x.path ∧ c.verdict.answer = .ok true := by
  obtain ⟨u, hu, hf, ha⟩ := h
  obtain ⟨rule, hr⟩ := Option.ne_none_iff_exists'.1 hr
  refine ⟨⟨x.path, x.node.project u, rule.test (x.node.project u)⟩, ?_, rfl, ha rule hr⟩
  simp [call?, hu, hr, hf]

/-- A place that cannot hold its part neither passes nor puts a question. -/
theorem not_passes_of_not_holds (h : ∀ u, x.part = some u → ¬ x.Holds limit u) :
    ¬ x.Passes limit ∧ x.call? limit = none := by
  constructor
  · rintro ⟨u, hu, hf, -⟩
    exact h u hu hf
  · unfold call?
    split
    · rename_i u rule hu hr
      exact if_neg (h u hu)
    · rfl

end Limit

end Visit

namespace Schema

def itemVisits (visits : Value → List Visit) (i : Nat) (vs : List Value) : List Visit :=
  (vs.zipIdx i).flatMap fun p => (visits p.1).map (.within (.index p.2))

mutual

def visits (s : Schema) (v : Value) : List Visit :=
  (match s with
  | primitive .. => []
  | array _ item =>
    match v with
    | .array vs => itemVisits (fun w => visits item w) 0 vs
    | _ => []
  | object _ fields =>
    match v.members? with
    | some ms => fieldVisits fields ms
    | none => []) ++ [⟨[], s, some v⟩]

def fieldVisits (fields : List (Text × Schema)) (ms : List (Text × Value)) : List Visit :=
  match fields with
  | [] => []
  | (key, child) :: rest =>
    match find? key ms with
    | some v => (visits child v).map (.within (.key key)) ++ fieldVisits rest ms
    | none =>
      if child.isOptional then fieldVisits rest ms
      else ⟨[.key key], child, none⟩ :: fieldVisits rest ms

end

def innerVisits : Schema → Value → List Visit
  | primitive .., _ => []
  | array _ item, .array vs => itemVisits item.visits 0 vs
  | array .., _ => []
  | object _ fields, v =>
    match v.members? with
    | some ms => fieldVisits fields ms
    | none => []

theorem visits_eq (s : Schema) (v : Value) : s.visits v = s.innerVisits v ++ [⟨[], s, some v⟩] := by
  cases s with
  | primitive m k => simp only [visits, innerVisits]
  | array m item => cases v <;> simp only [visits, innerVisits]
  | object m fields => simp only [visits, innerVisits]

theorem innerVisits_object {m : Marks} {fields : List (Text × Schema)} {v : Value}
    {ms : List (Text × Value)} (h : v.members? = some ms) :
    (object m fields).innerVisits v = fieldVisits fields ms := by
  simp only [innerVisits, h]

theorem innerVisits_object_of_none {m : Marks} {fields : List (Text × Schema)} {v : Value}
    (h : v.members? = none) : (object m fields).innerVisits v = [] := by
  simp only [innerVisits, h]

theorem innerVisits_bare (s : Schema) (v : Value) : s.bare.innerVisits v = s.innerVisits v := by
  cases s <;> cases v <;> rfl

/-- The places in one field: in the member it finds, or where a required one is missing. -/
def visitsIn (ms : List (Text × Value)) (f : Text × Schema) : List Visit :=
  match find? f.1 ms with
  | some v => (f.2.visits v).map (.within (.key f.1))
  | none => if f.2.isOptional then [] else [⟨[.key f.1], f.2, none⟩]

theorem fieldVisits_eq (fields : List (Text × Schema)) (ms : List (Text × Value)) :
    fieldVisits fields ms = fields.flatMap (visitsIn ms) := by
  induction fields with
  | nil => rfl
  | cons f fields ih =>
    obtain ⟨key, child⟩ := f
    rw [List.flatMap_cons, ← ih, fieldVisits, visitsIn]
    cases find? key ms with
    | some v => rfl
    | none => by_cases ho : child.isOptional <;> simp [ho]

theorem mem_itemVisits {visits : Value → List Visit} {vs : List Value} {x : Visit} :
    x ∈ itemVisits visits 0 vs ↔
      ∃ (w : Value) (j : Nat), vs[j]? = some w ∧ ∃ y ∈ visits w, y.within (.index j) = x := by
  simp [itemVisits, List.mem_flatMap, List.mk_mem_zipIdx_iff_getElem?]

theorem mem_visitsIn {ms : List (Text × Value)} {f : Text × Schema} {x : Visit}
    (h : x ∈ visitsIn ms f) :
    (∃ w, find? f.1 ms = some w ∧ ∃ y ∈ f.2.visits w, y.within (.key f.1) = x) ∨
      find? f.1 ms = none ∧ f.2.isOptional = false ∧ x = ⟨[.key f.1], f.2, none⟩ := by
  unfold visitsIn at h
  split at h
  · rename_i w hw
    exact .inl ⟨w, hw, List.mem_map.1 h⟩
  · rename_i hn
    split at h
    · cases h
    · rename_i ho
      exact .inr ⟨hn, by simpa using ho, List.mem_singleton.1 h⟩

/-- `Visited s v x`: the place `x` is the node itself, or one in an item or a declared field. -/
inductive Visited : Schema → Value → Visit → Prop
  | self (s : Schema) (v : Value) : Visited s v ⟨[], s, some v⟩
  | item {m : Marks} {item : Schema} {vs : List Value} {j : Nat} {w : Value} {x : Visit} :
    vs[j]? = some w → Visited item w x →
      Visited (.array m item) (.array vs) (x.within (.index j))
  | field {m : Marks} {fields : List (Text × Schema)} {v : Value} {ms : List (Text × Value)}
    {key : Text} {child : Schema} {w : Value} {x : Visit} :
    v.members? = some ms → (key, child) ∈ fields → find? key ms = some w → Visited child w x →
      Visited (.object m fields) v (x.within (.key key))
  | missing {m : Marks} {fields : List (Text × Schema)} {v : Value} {ms : List (Text × Value)}
    {key : Text} {child : Schema} :
    v.members? = some ms → (key, child) ∈ fields → find? key ms = none → child.isOptional = false →
      Visited (.object m fields) v ⟨[.key key], child, none⟩

theorem visited_of_mem {s : Schema} {v : Value} {x : Visit} (h : x ∈ s.visits v) :
    Visited s v x := by
  induction s using nodes generalizing v x with
  | primitive m k =>
    rw [visits_eq, innerVisits, List.nil_append, List.mem_singleton] at h
    rw [h]
    exact .self _ v
  | array m item ih =>
    rw [visits_eq, List.mem_append, List.mem_singleton] at h
    rcases h with h | rfl
    · cases v with
      | array vs =>
        obtain ⟨w, j, hw, y, hy, rfl⟩ := mem_itemVisits.1 h
        exact .item hw (ih hy)
      | _ => cases h
    · exact .self _ v
  | object m fields ih =>
    rw [visits_eq, List.mem_append, List.mem_singleton] at h
    rcases h with h | rfl
    · cases hv : v.members? with
      | some ms =>
        rw [innerVisits_object hv, fieldVisits_eq] at h
        obtain ⟨f, hf, h⟩ := List.mem_flatMap.1 h
        rcases mem_visitsIn h with ⟨w, hw, y, hy, rfl⟩ | ⟨hn, ho, rfl⟩
        · exact .field hv hf hw (ih f hf hy)
        · exact .missing hv hf hn ho
      | none =>
        rw [innerVisits_object_of_none hv] at h
        cases h
    · exact .self _ v

theorem Visited.mem {s : Schema} {v : Value} {x : Visit} (h : Visited s v x) : x ∈ s.visits v := by
  induction h with
  | self s v =>
    rw [visits_eq]
    exact List.mem_append_right _ (List.mem_cons_self ..)
  | @item m item vs j w x hw _ ih =>
    rw [visits_eq]
    exact List.mem_append_left _ (mem_itemVisits.2 ⟨w, j, hw, x, ih, rfl⟩)
  | @field m fields v ms key child w x hv hc hw _ ih =>
    have hin : x.within (.key key) ∈ visitsIn ms (key, child) := by
      rw [visitsIn, hw]
      exact List.mem_map.2 ⟨x, ih, rfl⟩
    rw [visits_eq, innerVisits_object hv, fieldVisits_eq]
    exact List.mem_append_left _ (List.mem_flatMap.2 ⟨_, hc, hin⟩)
  | @missing m fields v ms key child hv hc hn ho =>
    have hin : ⟨[.key key], child, none⟩ ∈ visitsIn ms (key, child) := by
      simp [visitsIn, hn, ho]
    rw [visits_eq, innerVisits_object hv, fieldVisits_eq]
    exact List.mem_append_left _ (List.mem_flatMap.2 ⟨_, hc, hin⟩)

/-- A place has the node that its path leads to, and the part, if there is one. -/
theorem Visited.reaches {s : Schema} {v : Value} {x : Visit} (h : Visited s v x) :
    s.Reaches x.path x.node ∧ ∀ u, x.part = some u → v.at? x.path = some u := by
  induction h with
  | self s v => exact ⟨.here s, fun u hu => (Value.at?_nil v).trans hu⟩
  | item hw _ ih => exact ⟨.item ih.1, fun u hu => (Value.at?_array hw).trans (ih.2 u hu)⟩
  | field hv hc hw _ ih =>
    exact ⟨.field hc ih.1, fun u hu => (Value.at?_members hv hw).trans (ih.2 u hu)⟩
  | missing _ hc _ _ => exact ⟨.field hc (.here _), nofun⟩

/-- A node and a part that one path leads to are a place. -/
theorem visited_of_reaches {s n : Schema} {p : Path} (hn : s.Reaches p n) {v u : Value}
    (hu : v.at? p = some u) : Visited s v ⟨p, n, some u⟩ := by
  induction hn generalizing v with
  | here s =>
    cases (Value.at?_nil v).symm.trans hu
    exact .self s u
  | item _ ih =>
    cases v with
    | array vs =>
      obtain ⟨j, w, hi, hw, hrest⟩ := Value.at?_array_cons hu
      cases hi
      exact .item hw (ih hrest)
    | _ => cases hu
  | field hc _ ih =>
    obtain ⟨ms, w, hv, hw, hrest⟩ := Value.at?_key hu
    exact .field hv hc hw (ih hrest)

/-- The places of a part are places of the whole. -/
theorem Visited.beneath {s : Schema} {v : Value} {x : Visit} (hx : Visited s v x) {u : Value}
    (hu : x.part = some u) {y : Visit} (hy : Visited x.node u y) :
    Visited s v (y.beneath x.path) := by
  induction hx with
  | self s v =>
    cases hu
    exact hy
  | item hw _ ih => exact .item hw (ih hu hy)
  | field hv hc hw _ ih => exact .field hv hc hw (ih hu hy)
  | missing => cases hu

theorem path_ne_nil_of_mem_innerVisits {s : Schema} {v : Value} {x : Visit}
    (h : x ∈ s.innerVisits v) : x.path ≠ [] := by
  unfold innerVisits at h
  split at h
  · cases h
  · obtain ⟨w, j, -, y, -, rfl⟩ := mem_itemVisits.1 h
    exact List.cons_ne_nil _ _
  · cases h
  · split at h
    · rw [fieldVisits_eq] at h
      obtain ⟨f, -, h⟩ := List.mem_flatMap.1 h
      rcases mem_visitsIn h with ⟨w, -, y, -, rfl⟩ | ⟨-, -, rfl⟩
      · exact List.cons_ne_nil _ _
      · exact List.cons_ne_nil _ _
    · cases h

def Climbs (xs : List Visit) : Prop := xs.Pairwise fun x y => ¬ x.path <+: y.path

theorem Climbs.within {xs : List Visit} (h : Climbs xs) (step : Step) :
    Climbs (xs.map (.within step)) := by
  refine List.pairwise_map.2 (h.imp ?_)
  intro x y hxy hp
  exact hxy (List.cons_prefix_cons.1 hp).2

/-- Places in two items, or in two fields, are not above one another. -/
theorem not_prefix_of_head_ne {x y : Visit} {a b : Step} {p q : Path} (hx : x.path = a :: p)
    (hy : y.path = b :: q) (h : a ≠ b) : ¬ x.path <+: y.path := by
  rw [hx, hy, List.cons_prefix_cons]
  exact fun hp => h hp.1

theorem climbs_itemVisits {visits : Value → List Visit} (h : ∀ v, Climbs (visits v))
    (vs : List Value) : Climbs (itemVisits visits 0 vs) := by
  refine List.pairwise_flatMap.2 ⟨fun p _ => (h p.1).within _, ?_⟩
  have hne : (vs.zipIdx 0).Pairwise fun p q => p.2 ≠ q.2 := by
    apply List.pairwise_map.1
    rw [List.zipIdx_map_snd]
    exact List.nodup_range'
  refine hne.imp ?_
  intro p q hpq x hx y hy
  obtain ⟨x', -, rfl⟩ := List.mem_map.1 hx
  obtain ⟨y', -, rfl⟩ := List.mem_map.1 hy
  refine not_prefix_of_head_ne rfl rfl ?_
  intro he
  injection he with he
  exact hpq (Int.ofNat_inj.1 he)

theorem path_of_mem_visitsIn {ms : List (Text × Value)} {f : Text × Schema} {x : Visit}
    (h : x ∈ visitsIn ms f) : ∃ p, x.path = .key f.1 :: p := by
  rcases mem_visitsIn h with ⟨w, -, y, -, rfl⟩ | ⟨-, -, rfl⟩
  · exact ⟨y.path, rfl⟩
  · exact ⟨[], rfl⟩

theorem climbs_visitsIn {f : Text × Schema} (h : ∀ v, Climbs (f.2.visits v))
    (ms : List (Text × Value)) : Climbs (visitsIn ms f) := by
  unfold visitsIn
  split
  · exact (h _).within _
  · split
    · exact List.Pairwise.nil
    · exact List.pairwise_singleton _ _

theorem climbs_fieldVisits {fields : List (Text × Schema)} (hk : (fields.map Prod.fst).Nodup)
    (h : ∀ f ∈ fields, ∀ v, Climbs (f.2.visits v)) (ms : List (Text × Value)) :
    Climbs (fieldVisits fields ms) := by
  rw [fieldVisits_eq]
  refine List.pairwise_flatMap.2 ⟨fun f hf => climbs_visitsIn (h f hf) ms, ?_⟩
  refine (List.pairwise_map.1 hk).imp ?_
  intro f g hfg x hx y hy
  obtain ⟨p, hp⟩ := path_of_mem_visitsIn hx
  obtain ⟨q, hq⟩ := path_of_mem_visitsIn hy
  refine not_prefix_of_head_ne hp hq ?_
  intro he
  injection he with he
  exact hfg he

/-- A place comes after all below it and at most once. -/
theorem climbs_visits {s : Schema} (hs : s.DistinctFields) (v : Value) : Climbs (s.visits v) := by
  have own {s : Schema} {v : Value} (h : Climbs (s.innerVisits v)) : Climbs (s.visits v) := by
    rw [visits_eq]
    refine List.pairwise_append.2 ⟨h, List.pairwise_singleton _ _, ?_⟩
    intro x hx y hy hp
    rw [List.mem_singleton.1 hy, List.prefix_nil] at hp
    exact path_ne_nil_of_mem_innerVisits hx hp
  induction s using nodes generalizing v with
  | primitive m k => exact own List.Pairwise.nil
  | array m item ih =>
    apply own
    cases v with
    | array vs => exact climbs_itemVisits (ih hs.item) vs
    | _ => exact List.Pairwise.nil
  | object m fields ih =>
    apply own
    cases hv : v.members? with
    | some ms =>
      rw [innerVisits_object hv]
      exact climbs_fieldVisits hs.keys (fun f hf => ih f hf (hs.field hf)) ms
    | none =>
      rw [innerVisits_object_of_none hv]
      exact List.Pairwise.nil

end Schema

end ReplySchema
