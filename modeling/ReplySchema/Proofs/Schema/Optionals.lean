import ReplySchema.Proofs.Schema.FirstFailure

/-!
What the optional mark does. A check asks for the mark of a field whose key is absent, and of nothing
else: the marks of the root and of items change no run, and a run under marks that were only set goes
as before, up to the first key that is missing and need not be there any more.
-/

namespace ReplySchema

mutual

/--
`Reflagged allowed s t`: the schema `t` is `s` but for the optional marks. The mark of a field may
change as `allowed` says, the marks of the root and of items in any way.
-/
inductive Reflagged (allowed : Bool → Bool → Prop) : Schema → Schema → Prop
  | primitive {rule : Option Rule} {k : Primitive} (a b : Bool) :
    Reflagged allowed (.primitive ⟨rule, a⟩ k) (.primitive ⟨rule, b⟩ k)
  | array {rule : Option Rule} {item item' : Schema} (a b : Bool) :
    Reflagged allowed item item' → Reflagged allowed (.array ⟨rule, a⟩ item) (.array ⟨rule, b⟩ item')
  | object {rule : Option Rule} {fields fields' : List (Text × Schema)} (a b : Bool) :
    ReflaggedFields allowed fields fields' →
      Reflagged allowed (.object ⟨rule, a⟩ fields) (.object ⟨rule, b⟩ fields')

inductive ReflaggedFields (allowed : Bool → Bool → Prop) :
    List (Text × Schema) → List (Text × Schema) → Prop
  | nil : ReflaggedFields allowed [] []
  | cons {key : Text} {child child' : Schema} {fields fields' : List (Text × Schema)} :
    allowed child.isOptional child'.isOptional → Reflagged allowed child child' →
      ReflaggedFields allowed fields fields' →
        ReflaggedFields allowed ((key, child) :: fields) ((key, child') :: fields')

end

/-- The second run is the first one, unless the first one raises what `E` tells of. -/
def Tracks {α : Type} (E : Raised → Prop) (r r' : Run α) : Prop :=
  r' = r ∨ ∃ e, r.result = .error e ∧ E e

namespace Tracks

variable {α β : Type} {E E' : Raised → Prop} {r r' : Run α}

theorem refl (r : Run α) : Tracks E r r := .inl rfl

theorem mono (h : Tracks E r r') (hE : ∀ e, E e → E' e) : Tracks E' r r' := by
  rcases h with h | ⟨e, he, hs⟩
  · exact .inl h
  · exact .inr ⟨e, he, hE e hs⟩

theorem bind {f f' : α → Run β} (h : Tracks E r r')
    (hf : ∀ a, r.result = .ok a → Tracks E (f a) (f' a)) : Tracks E (r.bind f) (r'.bind f') := by
  rcases h with rfl | ⟨e, he, hs⟩
  · cases hr : r'.result with
    | error e =>
      left
      rw [Run.bind_of_error hr, Run.bind_of_error hr]
    | ok a =>
      rw [Run.bind_of_ok hr, Run.bind_of_ok hr]
      rcases hf a hr with heq | ⟨e, he, hs⟩
      · left
        rw [heq]
      · exact .inr ⟨e, he, hs⟩
  · right
    rw [Run.bind_of_error he]
    exact ⟨e, rfl, hs⟩

theorem map (f : α → β) (h : Tracks E r r') : Tracks E (r.map f) (r'.map f) := by
  rcases h with rfl | ⟨e, he, hs⟩
  · exact .refl _
  · right
    rw [Run.result_map, he]
    exact ⟨e, rfl, hs⟩

theorem inside {run run' : Nat → Run α} (h : ∀ d, Tracks E (run d) (run' d)) (limit : Nat) :
    Tracks E (Run.inside limit run) (Run.inside limit run') := by
  cases limit with
  | zero => exact .refl _
  | succ d => exact h d

theorem under (step : Step) (h : Tracks E r r') :
    Tracks (fun e => ∃ e', E e' ∧ e = e'.under step) (r.under step) (r'.under step) := by
  rcases h with rfl | ⟨e, he, hs⟩
  · exact .refl _
  · right
    rw [Run.result_under, he]
    exact ⟨e.under step, rfl, e, hs, rfl⟩

end Tracks

namespace Schema

/-- At `p` stands an object without `key`, a field that is required there in `s` and not in `t`. -/
def Excuses (s t : Schema) (v : Value) (p : Path) (key : Text) : Prop :=
  ∃ m m' fields fields' child child' u ms,
    s.Reaches p (.object m fields) ∧ t.Reaches p (.object m' fields') ∧
      v.at? p = some u ∧ u.members? = some ms ∧ find? key ms = none ∧
      (key, child) ∈ fields ∧ child.isOptional = false ∧
      (key, child') ∈ fields' ∧ child'.isOptional = true

/-- What is raised is that a key is missing where `t` does not ask for it any more. -/
def Excused (s t : Schema) (v : Value) (e : Raised) : Prop :=
  ∃ f key, e = .failure f ∧ f.root = .missingKey key ∧ s.Excuses t v f.path key

variable {allowed : Bool → Bool → Prop}

/-- A stretch of items tracks when the checks of items do; `i` is the index of the first of them. -/
theorem tracks_checkItems {check check' : Value → Run Value} {E : Value → Raised → Prop}
    (h : ∀ v, Tracks (E v) (check v) (check' v)) (i : Nat) (vs : List Value) :
    Tracks (fun e => ∃ (j : Nat) (v : Value) (e' : Raised),
        vs[j]? = some v ∧ E v e' ∧ e = e'.under (.index (i + j : Nat)))
      (checkItems check i vs) (checkItems check' i vs) := by
  induction vs generalizing i with
  | nil => exact .refl _
  | cons v vs ih =>
    refine Tracks.bind (((h v).under (.index i)).mono ?_) fun r _ => ((ih (i + 1)).mono ?_).map _
    · rintro e ⟨e', he', rfl⟩
      exact ⟨0, v, e', rfl, he', rfl⟩
    · rintro e ⟨j, w, e', hw, he', rfl⟩
      exact ⟨j + 1, w, e', hw, he', by rw [Nat.add_assoc, Nat.add_comm 1 j]⟩

def FieldsExcused (fields fields' : List (Text × Schema)) (ms : List (Text × Value)) (e : Raised) :
    Prop :=
  ∃ key child child', (key, child) ∈ fields ∧ (key, child') ∈ fields' ∧
    ((∃ v e', find? key ms = some v ∧ child.Excused child' v e' ∧ e = e'.under (.key key)) ∨
      find? key ms = none ∧ child.isOptional = false ∧ child'.isOptional = true ∧
        e = .failure (.missingKey key))

theorem FieldsExcused.cons {fields fields' : List (Text × Schema)} {ms : List (Text × Value)}
    {e : Raised} (h : FieldsExcused fields fields' ms e) (f f' : Text × Schema) :
    FieldsExcused (f :: fields) (f' :: fields') ms e := by
  obtain ⟨key, child, child', hc, hc', he⟩ := h
  exact ⟨key, child, child', List.mem_cons_of_mem _ hc, List.mem_cons_of_mem _ hc', he⟩

theorem tracks_checkFields {limit : Nat} (hset : ∀ b, allowed true b → b = true)
    {fields fields' : List (Text × Schema)} (hf : ReflaggedFields allowed fields fields')
    (ih : ∀ f ∈ fields, ∀ t v, Reflagged allowed f.2 t →
      Tracks (fun e => allowed false true ∧ f.2.Excused t v e) (f.2.check limit v)
        (t.check limit v))
    (ms : List (Text × Value)) :
    Tracks (fun e => allowed false true ∧ FieldsExcused fields fields' ms e)
      (checkFields limit fields ms) (checkFields limit fields' ms) := by
  induction fields generalizing fields' with
  | nil =>
    cases hf
    exact .refl _
  | cons f fields ihf =>
    cases hf with
    | @cons key child child' fields fields' hmark hchild hfields =>
      obtain ⟨hhere, hlater⟩ := List.forall_mem_cons.1 ih
      have hrest : Tracks (fun e => allowed false true ∧
          FieldsExcused ((key, child) :: fields) ((key, child') :: fields') ms e)
          (checkFields limit fields ms) (checkFields limit fields' ms) :=
        (ihf hfields hlater).mono fun e he => ⟨he.1, he.2.cons _ _⟩
      rw [checkFields, checkFields]
      cases hv : find? key ms with
      | some v =>
        refine Tracks.bind (((hhere child' v hchild).under (.key key)).mono ?_) fun r _ => hrest.map _
        rintro e ⟨e', ⟨hallowed, he'⟩, rfl⟩
        exact ⟨hallowed, key, child, child', List.mem_cons_self .., List.mem_cons_self ..,
          .inl ⟨v, e', hv, he', rfl⟩⟩
      | none =>
        dsimp only
        cases ho : child.isOptional with
        | true =>
          rw [ho] at hmark
          rw [hset _ hmark, if_pos rfl, if_pos rfl]
          exact hrest
        | false =>
          cases ho' : child'.isOptional with
          | false => exact .refl _
          | true =>
            rw [ho, ho'] at hmark
            exact .inr ⟨_, rfl, hmark, key, child, child', List.mem_cons_self ..,
              List.mem_cons_self .., .inr ⟨hv, ho, ho', rfl⟩⟩

theorem Excused.item {m m' : Marks} {item item' : Schema} {vs : List Value} {j : Nat} {v : Value}
    {e : Raised} (hv : vs[j]? = some v) (h : item.Excused item' v e) :
    (array m item).Excused (array m' item') (.array vs) (e.under (.index j)) := by
  obtain ⟨f, key, rfl, hroot, n, n', fields, fields', child, child', u, ms, hs, ht, hu, hrest⟩ := h
  refine ⟨f.under (.index j), key, rfl, (Failure.root_under _ _).trans hroot, ?_⟩
  rw [Failure.path_under]
  exact ⟨n, n', fields, fields', child, child', u, ms, .item hs, .item ht,
    (Value.at?_array hv).trans hu, hrest⟩

theorem Excused.field {m m' : Marks} {fields fields' : List (Text × Schema)}
    {v : Value} {ms : List (Text × Value)} {e : Raised} (hms : v.members? = some ms)
    (h : FieldsExcused fields fields' ms e) :
    (object m fields).Excused (object m' fields') v e := by
  obtain ⟨key, child, child', hc, hc', ⟨w, e', hw, he', rfl⟩ | ⟨hw, ho, ho', rfl⟩⟩ := h
  · obtain ⟨f, k, rfl, hroot, n, n', fs, fs', c, c', u, ns, hs, ht, hu, hrest⟩ := he'
    refine ⟨f.under (.key key), k, rfl, (Failure.root_under _ _).trans hroot, ?_⟩
    rw [Failure.path_under]
    exact ⟨n, n', fs, fs', c, c', u, ns, .field hc hs, .field hc' ht,
      (Value.at?_members hms hw).trans hu, hrest⟩
  · exact ⟨_, key, rfl, rfl, m, m', fields, fields', child, child', v, ms, .here _, .here _,
      Value.at?_nil _, hms, hw, hc, ho, hc', ho'⟩

/-- The check under other optional marks is the same run, or one that is let go on. -/
theorem tracks_check (hset : ∀ b, allowed true b → b = true) {s t : Schema}
    (h : Reflagged allowed s t) (limit : Nat) (v : Value) :
    Tracks (fun e => allowed false true ∧ s.Excused t v e) (s.check limit v) (t.check limit v) := by
  induction s using nodes generalizing t limit v with
  | primitive m k =>
    cases h
    exact .refl _
  | array m item ih =>
    cases h with
    | @array rule _ item' a b hitem =>
      cases v with
      | array vs =>
        rw [check, check]
        refine Tracks.bind (.inside (fun d =>
          (tracks_checkItems (fun w => ih hitem d w) 0 vs).mono ?_) limit) ?_
        · rintro e ⟨j, w, e', hw, ⟨hallowed, he'⟩, rfl⟩
          rw [Nat.zero_add]
          exact ⟨hallowed, he'.item hw⟩
        · intro rs _
          exact .refl _
      | _ => exact .refl _
  | object m fields ih =>
    cases h with
    | object a b hfields =>
      rw [check, check]
      cases hms : v.members? with
      | some ms =>
        refine Tracks.bind (.inside (fun d => (tracks_checkFields hset hfields
          (fun f hf t v ht => ih f hf ht d v) ms).mono ?_) limit) ?_
        · rintro e ⟨hallowed, he⟩
          exact ⟨hallowed, .field hms he⟩
        · intro rs _
          exact .refl _
      | none => exact .refl _

/--
The marks of the root and of items change nothing. Where marks are only set, a value that passes is
checked by the same run as before; and if the runs differ, the check raised that a key is missing,
from an object in which the mark of that field was set.
-/
theorem check_of_reflagged (limit : Nat) (s t : Schema) (v : Value) :
    (Reflagged (· = ·) s t → t.check limit v = s.check limit v) ∧
    (Reflagged (· ≤ ·) s t →
      (∀ r, (s.check limit v).result = .ok r → t.check limit v = s.check limit v) ∧
      (t.check limit v ≠ s.check limit v →
        ∃ f key, (s.check limit v).result = .error (.failure f) ∧
          f.root = .missingKey key ∧ s.Excuses t v f.path key)) := by
  refine ⟨fun h => ?_, fun h => ?_⟩
  · rcases tracks_check (fun b hb => hb.symm) h limit v with heq | ⟨e, -, habsurd, -⟩
    · exact heq
    · cases habsurd
  · rcases tracks_check (fun b hb => hb rfl) h limit v with
      heq | ⟨e, he, -, f, key, rfl, hroot, hat⟩
    · exact ⟨fun r _ => heq, fun hne => absurd heq hne⟩
    · refine ⟨fun r hr => ?_, fun _ => ⟨f, key, he, hroot, hat⟩⟩
      cases hr.symm.trans he

def notedOrder (whole line note : Bool) : Schema :=
  .object ⟨none, whole⟩
    [("lines", .array .plain (.object ⟨none, line⟩
      [("code", .primitive .plain .string), ("note", .primitive ⟨none, note⟩ .string)]))]

def unnotedMembers : List (Text × Value) := [("lines", .array [.object [("code", .string "x")]])]

theorem reflagged_notedOrder {note note' : Bool} (ha : allowed note note')
    (hf : allowed false false) (whole line whole' line' : Bool) :
    Reflagged allowed (notedOrder whole line note) (notedOrder whole' line' note') :=
  .object _ _ (.cons hf (.array _ _ (.object _ _ (.cons hf (.primitive _ _)
    (.cons ha (.primitive _ _) .nil)))) .nil)

theorem check_unnotedMembers :
    (Reflagged (· = ·) (notedOrder false false false) (notedOrder true true false) ∧
      (notedOrder true true false).check 1000 (.object unnotedMembers) =
        (notedOrder false false false).check 1000 (.object unnotedMembers)) ∧
    Reflagged (· ≤ ·) (notedOrder false false false) (notedOrder true true true) ∧
      (notedOrder true true true).check 1000 (.object unnotedMembers) ≠
        (notedOrder false false false).check 1000 (.object unnotedMembers) ∧
      ∃ f key, ((notedOrder false false false).check 1000 (.object unnotedMembers)).result =
          .error (.failure f) ∧ f.root = .missingKey key ∧
        (notedOrder false false false).Excuses (notedOrder true true true)
          (.object unnotedMembers) f.path key := by
  have hsame : Reflagged (· = ·) (notedOrder false false false) (notedOrder true true false) :=
    reflagged_notedOrder rfl rfl ..
  have hset : Reflagged (· ≤ ·) (notedOrder false false false) (notedOrder true true true) :=
    reflagged_notedOrder (by decide) (by decide) ..
  have hne : (notedOrder true true true).check 1000 (.object unnotedMembers) ≠
      (notedOrder false false false).check 1000 (.object unnotedMembers) := by
    intro heq
    cases congrArg Run.result heq
  refine ⟨⟨hsame, ?_⟩, hset, hne, ?_⟩
  · exact (check_of_reflagged _ _ _ _).1 hsame
  · exact ((check_of_reflagged _ _ _ _).2 hset).2 hne

end Schema

end ReplySchema
