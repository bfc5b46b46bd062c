import ReplySchema.Proofs.Value.Parts
import ReplySchema.Schema.Check

/-!
Schemas as trees, and what a run of a check comes to. The rules of a schema stand in the order of
its nodes, a path through items and fields leads from a node to one below it, and each step of a
check says what becomes of its result.
-/

namespace ReplySchema

namespace Schema

/-- Induction with one hypothesis for every field of an object node. -/
theorem nodes {motive : Schema → Prop} (primitive : ∀ m k, motive (.primitive m k))
    (array : ∀ m item, motive item → motive (.array m item))
    (object : ∀ m fields, (∀ f ∈ fields, motive f.2) → motive (.object m fields))
    (s : Schema) : motive s := by
  refine s.rec (motive_1 := motive) (motive_2 := fun fields => ∀ f ∈ fields, motive f.2)
    (motive_3 := fun f => motive f.2) primitive array object ?_ ?_ ?_
  · exact fun _ h => absurd h List.not_mem_nil
  · intro f fs hf hfs g hg
    rcases List.mem_cons.1 hg with rfl | hg
    · exact hf
    · exact hfs g hg
  · exact fun _ _ h => h

mutual

def rules : Schema → List Rule
  | primitive m _ => m.rule.toList
  | array m item => m.rule.toList ++ rules item
  | object m fields => m.rule.toList ++ fieldRules fields

def fieldRules : List (Text × Schema) → List Rule
  | [] => []
  | (_, child) :: rest => rules child ++ fieldRules rest

end

theorem fieldRules_eq (fields : List (Text × Schema)) :
    fieldRules fields = fields.flatMap fun f => f.2.rules := by
  induction fields with
  | nil => rfl
  | cons f fs ih => rw [fieldRules, List.flatMap_cons, ih]

theorem mem_rules_self {s : Schema} {rule : Rule} (h : s.marks.rule = some rule) :
    rule ∈ s.rules := by
  cases s <;> simp_all [rules, marks]

theorem mem_rules_item {m : Marks} {item : Schema} {rule : Rule} (h : rule ∈ item.rules) :
    rule ∈ (array m item).rules := by
  rw [rules]
  exact List.mem_append_right _ h

theorem mem_rules_field {m : Marks} {fields : List (Text × Schema)} {f : Text × Schema}
    (hf : f ∈ fields) {rule : Rule} (h : rule ∈ f.2.rules) : rule ∈ (object m fields).rules := by
  rw [rules, fieldRules_eq]
  exact List.mem_append_right _ (List.mem_flatMap.2 ⟨f, hf, h⟩)

/-- Every rule answers on every value, and raises on none. -/
def RulesAnswer (s : Schema) : Prop :=
  ∀ rule ∈ s.rules, ∀ v, ∃ b, (rule.test v).answer = .ok b

theorem RulesAnswer.item {m : Marks} {item : Schema} (h : (array m item).RulesAnswer) :
    item.RulesAnswer :=
  fun rule hr => h rule (mem_rules_item hr)

theorem RulesAnswer.field {m : Marks} {fields : List (Text × Schema)}
    (h : (object m fields).RulesAnswer) {f : Text × Schema} (hf : f ∈ fields) :
    f.2.RulesAnswer :=
  fun rule hr => h rule (mem_rules_field hf hr)

/-- `n` is the node that a path through items and fields leads to. -/
inductive Reaches : Schema → Path → Schema → Prop
  | here (s : Schema) : Reaches s [] s
  | item {m : Marks} {item : Schema} {i : Int} {p : Path} {n : Schema} :
    Reaches item p n → Reaches (.array m item) (.index i :: p) n
  | field {m : Marks} {fields : List (Text × Schema)} {key : Text} {child : Schema} {p : Path}
    {n : Schema} :
    (key, child) ∈ fields → Reaches child p n → Reaches (.object m fields) (.key key :: p) n

theorem Reaches.rules_subset {s n : Schema} {p : Path} (h : s.Reaches p n) :
    n.rules ⊆ s.rules := by
  induction h with
  | here s => exact fun _ hr => hr
  | item _ ih => exact fun _ hr => mem_rules_item (ih hr)
  | field hc _ ih => exact fun _ hr => mem_rules_field hc (ih hr)

/-- Rules that answer leave every node with an answer. -/
theorem RulesAnswer.judge {s n : Schema} (h : s.RulesAnswer) {p : Path} (hn : s.Reaches p n)
    (v : Value) : ∃ b, (n.marks.judge v).answer = .ok b := by
  cases hm : n.marks.rule with
  | none => exact ⟨true, by rw [Marks.judge, hm]⟩
  | some rule =>
    obtain ⟨b, hb⟩ := h rule (hn.rules_subset (mem_rules_self hm)) v
    exact ⟨b, by rw [Marks.judge, hm]; exact hb⟩

end Schema

namespace Marks

theorem judge_of_rule {m : Marks} {rule : Rule} (h : m.rule = some rule) (v : Value) :
    m.judge v = rule.test v := by
  rw [judge, h]

theorem judge_of_no_rule {m : Marks} (h : m.rule = none) (v : Value) :
    m.judge v = ⟨[], .ok true⟩ := by
  rw [judge, h]

theorem ask_result (m : Marks) (v : Value) : (m.ask v).result = (m.judge v).answer := by
  unfold ask
  split
  · rfl
  · rename_i h
    rw [judge_of_no_rule h]
    rfl

end Marks

namespace Run

variable {α β : Type}

theorem bind_of_ok {r : Run α} {a : α} (h : r.result = .ok a) (f : α → Run β) :
    r.bind f = ⟨r.calls ++ (f a).calls, (f a).result⟩ := by
  rw [bind, h]

theorem bind_of_error {r : Run α} {e : Raised} (h : r.result = .error e) (f : α → Run β) :
    r.bind f = ⟨r.calls, .error e⟩ := by
  rw [bind, h]

theorem inside_succ (d : Nat) (run : Nat → Run α) : inside (d + 1) run = run d := rfl

theorem result_bind (r : Run α) (f : α → Run β) :
    (r.bind f).result = r.result.bind fun a => (f a).result := by
  unfold bind
  split <;> rename_i h <;> rw [h] <;> rfl

@[simp] theorem result_map (f : α → β) (r : Run α) : (r.map f).result = r.result.map f := rfl

@[simp] theorem result_under (step : Step) (r : Run α) :
    (r.under step).result = r.result.mapError (Raised.under step) := rfl

@[simp] theorem result_pure (a : α) : (pure a).result = .ok a := rfl

@[simp] theorem result_raise (e : Raised) : (raise e : Run α).result = .error e := rfl

@[simp] theorem result_fail (f : Failure) : (fail f : Run α).result = .error (.failure f) := rfl

end Run

namespace Schema

/-- Lists of one length are checked alike when their items are, one by one. -/
theorem checkItems_congr {check check' : Value → Run Value} {vs ws : List Value}
    (hl : vs.length = ws.length)
    (h : ∀ (i : Nat) v w, vs[i]? = some v → ws[i]? = some w → check v = check' w) (i : Nat) :
    checkItems check i vs = checkItems check' i ws := by
  induction vs generalizing ws i with
  | nil =>
    rw [List.eq_nil_of_length_eq_zero hl.symm]
    rfl
  | cons v vs ih =>
    cases ws with
    | nil => cases hl
    | cons w ws =>
      have hhead : check v = check' w := h 0 v w rfl rfl
      have htail : checkItems check (i + 1) vs = checkItems check' (i + 1) ws := by
        apply ih (Nat.succ.inj hl)
        intro j x y hx hy
        exact h (j + 1) x y hx hy
      rw [checkItems, checkItems, hhead, htail]

/-- Objects are checked alike when the declared fields find alike members, or both find none. -/
theorem checkFields_congr {d limit : Nat} {fields : List (Text × Schema)}
    {ms ns : List (Text × Value)}
    (hp : ∀ f ∈ fields, (find? f.1 ms).isSome = (find? f.1 ns).isSome)
    (h : ∀ f ∈ fields, ∀ v w, find? f.1 ms = some v → find? f.1 ns = some w →
      f.2.check d v = f.2.check limit w) :
    checkFields d fields ms = checkFields limit fields ns := by
  induction fields with
  | nil => rw [checkFields, checkFields]
  | cons f fields ih =>
    obtain ⟨key, child⟩ := f
    obtain ⟨hhere, hp⟩ := List.forall_mem_cons.1 hp
    obtain ⟨hchild, h⟩ := List.forall_mem_cons.1 h
    have hrest : checkFields d fields ms = checkFields limit fields ns := ih hp h
    simp only at hhere hchild
    rw [checkFields, checkFields, hrest]
    cases hv : find? key ms with
    | none =>
      have hw : find? key ns = none := by simpa [hv] using hhere.symm
      rw [hw]
    | some v =>
      obtain ⟨w, hw⟩ : ∃ w, find? key ns = some w := by
        apply Option.isSome_iff_exists.1
        rw [← hhere, hv]
        rfl
      rw [hw]
      dsimp only
      rw [hchild v w hv hw]

/-- A parse that returns has decoded a value and checked it. -/
theorem parse_ok {st : Json.Strictness} {s : Schema} {source : Json.Source} {v : Value}
    (h : (s.parse st source).result = .ok v) :
    ∃ w, Json.decode st source = .ok w ∧ (s.check st.nesting w).result = .ok v := by
  rw [parse] at h
  cases hd : Json.decode st source with
  | error e =>
    rw [hd] at h
    cases h
  | ok w =>
    rw [hd] at h
    exact ⟨w, rfl, h⟩

end Schema

end ReplySchema
