import ReplySchema.Proofs.Schema.Visits

/-!
When a rule is asked. A check walks the places in post-order, puts the question of each place that
has one, and stops at the first place that does not pass, or cannot be reached within the limit. So
a rule is asked once a place, about what was assembled there, and only after every rule below it has
been asked and has said yes.
-/

namespace ReplySchema

def Rule.always : Rule := ⟨"always", fun _ => ⟨[], .ok true⟩⟩

/-- The run walks the places `xs`: through all of them, or up to the first that does not pass. -/
inductive Follows {α : Type} (limit : Nat) (r : Run α) (xs : List Visit) : Prop
  | through (a : α) : (∀ x ∈ xs, x.Passes limit) → r.calls = xs.filterMap (Visit.call? limit) →
    r.result = .ok a → Follows limit r xs
  | halted (before : List Visit) (x : Visit) (after : List Visit) (e : Raised) :
    xs = before ++ x :: after → (∀ y ∈ before, y.Passes limit) → ¬ x.Passes limit →
    r.calls = (before ++ [x]).filterMap (Visit.call? limit) → r.result = .error e →
      Follows limit r xs

namespace Follows

variable {α β : Type} {limit : Nat} {r : Run α} {xs ys : List Visit}

theorem pure (limit : Nat) (a : α) : Follows limit (Run.pure a) [] :=
  .through a (List.forall_mem_nil _) rfl rfl

theorem map (f : α → β) (h : Follows limit r xs) : Follows limit (r.map f) xs := by
  cases h with
  | through a hp hc hr => exact .through (f a) hp hc (by rw [Run.result_map, hr]; rfl)
  | halted before x after e hx hp hn hc hr =>
    exact .halted before x after e hx hp hn hc (by rw [Run.result_map, hr]; rfl)

theorem filterMap_call?_within (step : Step) (limit : Nat) (xs : List Visit) :
    (xs.map (Visit.within step)).filterMap (Visit.call? (limit + 1)) =
      (xs.filterMap (Visit.call? limit)).map fun c => { c with path := step :: c.path } := by
  rw [List.filterMap_map, List.map_filterMap]
  congr 1
  funext x
  exact Visit.call?_within step limit x

/-- A walk from inside a container has one level more to go. -/
theorem under (step : Step) (h : Follows limit r xs) :
    Follows (limit + 1) (r.under step) (xs.map (Visit.within step)) := by
  cases h with
  | through a hp hc hr =>
    refine .through a ?_ ?_ (by rw [Run.result_under, hr]; rfl)
    · intro x hx
      obtain ⟨y, hy, rfl⟩ := List.mem_map.1 hx
      exact Visit.passes_within_iff.2 (hp y hy)
    · rw [Run.under, hc, filterMap_call?_within]
  | halted before x after e hx hp hn hc hr =>
    refine .halted (before.map (Visit.within step)) (x.within step)
      (after.map (Visit.within step)) (e.under step) ?_ ?_ (mt Visit.passes_within_iff.1 hn) ?_
      (by rw [Run.result_under, hr]; rfl)
    · rw [hx, List.map_append, List.map_cons]
    · intro y hy
      obtain ⟨z, hz, rfl⟩ := List.mem_map.1 hy
      exact Visit.passes_within_iff.2 (hp z hz)
    · rw [Run.under, hc, ← filterMap_call?_within, List.map_append, List.map_singleton]

/-- A run that goes on walks on; one that has halted does not. -/
theorem bind {f : α → Run β} (h : Follows limit r xs)
    (hf : ∀ a, r.result = .ok a → Follows limit (f a) ys) :
    Follows limit (r.bind f) (xs ++ ys) := by
  cases h with
  | through a hp hc hr =>
    rw [Run.bind_of_ok hr]
    cases hf a hr with
    | through b hp' hc' hr' =>
      refine .through b ?_ (by rw [hc, hc', List.filterMap_append]) hr'
      intro x hx
      rcases List.mem_append.1 hx with hx | hx
      · exact hp x hx
      · exact hp' x hx
    | halted before x after e hx hp' hn hc' hr' =>
      refine .halted (xs ++ before) x after e ?_ ?_ hn ?_ hr'
      · rw [hx, List.append_assoc]
      · intro y hy
        rcases List.mem_append.1 hy with hy | hy
        · exact hp y hy
        · exact hp' y hy
      · rw [List.append_assoc, List.filterMap_append, ← hc, ← hc']
  | halted before x after e hx hp hn hc hr =>
    rw [Run.bind_of_error hr]
    refine .halted before x (after ++ ys) e ?_ hp hn hc rfl
    rw [hx, List.append_assoc, List.cons_append]

/-- A run that raises at once stops at the first place, where nothing is asked. -/
theorem raise {x : Visit} (hx : ∀ u, x.part = some u → ¬ x.Holds limit u) (e : Raised) :
    Follows limit (Run.raise e : Run α) (x :: xs) := by
  obtain ⟨hn, hcall⟩ := Visit.not_passes_of_not_holds hx
  refine .halted [] x xs e rfl (List.forall_mem_nil _) hn ?_ rfl
  simp [Run.raise, hcall]

end Follows

namespace Schema

variable {limit : Nat}

theorem follows_mismatch {s : Schema} {v : Value} (h : ¬ s.Fits v) :
    Follows limit (s.mismatch v) [⟨[], s, some v⟩] := by
  apply Follows.raise
  rintro u hu ⟨hf, -⟩
  cases hu
  exact h hf

/-- A node with a part that fits puts its own question, if it has one, and passes on a yes. -/
theorem follows_confirm {s : Schema} {v : Value} (h : s.Fits v) (hd : (s.project v).depth ≤ limit)
    (message : Text → Text) :
    Follows limit (s.marks.confirm limit message (s.project v)) [⟨[], s, some v⟩] := by
  have hholds : Visit.Holds limit ⟨[], s, some v⟩ v := ⟨h, (Nat.zero_add _).trans_le hd⟩
  unfold Marks.confirm Marks.ask
  cases hr : s.marks.rule with
  | none =>
    have hp : Visit.Passes limit ⟨[], s, some v⟩ := ⟨v, rfl, hholds, by simp [Marks.Approves, hr]⟩
    refine .through (s.project v) (List.forall_mem_singleton.2 hp) ?_ rfl
    simp [Visit.call?, hr, Run.bind, Run.pure]
  | some rule =>
    have hcall : [(⟨[], s, some v⟩ : Visit)].filterMap (Visit.call? limit) =
        [⟨[], s.project v, rule.test (s.project v)⟩] := by
      simp [Visit.call?, hr, hholds]
    have hpass : Visit.Passes limit ⟨[], s, some v⟩ ↔
        (rule.test (s.project v)).answer = .ok true := by
      simp [Visit.Passes, Marks.Approves, hr, hholds]
    rw [Marks.judge_of_rule hr]
    cases ha : (rule.test (s.project v)).answer with
    | error e =>
      refine .halted [] _ [] e rfl (List.forall_mem_nil _) ?_ ?_ ?_
      · rw [hpass, ha]
        intro hok
        cases hok
      · simp [hcall, Run.bind]
      · simp [Run.bind]
    | ok b =>
      cases b with
      | true =>
        refine .through (s.project v) (List.forall_mem_singleton.2 (hpass.2 ha)) ?_ rfl
        simp [hcall, Run.bind, Run.pure]
      | false =>
        have hn : ¬ Visit.Passes limit ⟨[], s, some v⟩ := by
          rw [hpass, ha]
          intro hok
          cases hok
        cases he : Json.encode limit (s.project v) with
        | ok text =>
          refine .halted [] _ [] _ rfl (List.forall_mem_nil _) hn ?_ rfl
          simp [hcall, Run.bind, Run.fail, Run.raise]
        | error e =>
          refine .halted [] _ [] _ rfl (List.forall_mem_nil _) hn ?_ rfl
          simp [hcall, Run.bind, Run.raise]

theorem follows_missing {α : Type} (key : Text) (child : Schema) (rest : List Visit) :
    Follows limit (.fail (.missingKey key) : Run α) (⟨[.key key], child, none⟩ :: rest) := by
  apply Follows.raise
  intro u hu
  cases hu

theorem follows_checkItems {check : Value → Run Value} {visits : Value → List Visit}
    (h : ∀ v, Follows limit (check v) (visits v)) (i : Nat) (vs : List Value) :
    Follows (limit + 1) (checkItems check i vs) (itemVisits visits i vs) := by
  induction vs generalizing i with
  | nil => exact .pure _ []
  | cons v vs ih =>
    rw [checkItems, itemVisits, List.zipIdx_cons, List.flatMap_cons]
    apply ((h v).under _).bind
    intro r _
    exact (ih (i + 1)).map _

theorem follows_checkFields {fields : List (Text × Schema)}
    (h : ∀ f ∈ fields, ∀ v, Follows limit (f.2.check limit v) (f.2.visits v))
    (ms : List (Text × Value)) :
    Follows (limit + 1) (checkFields limit fields ms) (fieldVisits fields ms) := by
  induction fields with
  | nil => exact .pure _ []
  | cons f fields ih =>
    obtain ⟨key, child⟩ := f
    obtain ⟨hf, hfields⟩ := List.forall_mem_cons.1 h
    rw [checkFields, fieldVisits]
    cases find? key ms with
    | some v =>
      apply ((hf v).under _).bind
      intro r _
      exact (ih hfields).map _
    | none =>
      dsimp only
      split
      · exact ih hfields
      · exact follows_missing key child _

/-- Where no container may be opened, a check stops before all places in the first that it meets. -/
theorem follows_closed {α : Type} {s : Schema} {v : Value} (h : 0 < (s.project v).depth)
    (e : Raised) : Follows 0 (Run.raise e : Run α) (s.innerVisits v ++ [⟨[], s, some v⟩]) := by
  have hout : ∀ x ∈ s.innerVisits v ++ [⟨[], s, some v⟩],
      ∀ u, x.part = some u → ¬ x.Holds 0 u := by
    rintro x hx u hu ⟨-, hd⟩
    rcases List.mem_append.1 hx with hx | hx
    · have hpath := List.length_pos_iff.2 (path_ne_nil_of_mem_innerVisits hx)
      omega
    · cases List.mem_singleton.1 hx
      cases hu
      dsimp only at hd
      omega
  cases hxs : s.innerVisits v ++ [⟨[], s, some v⟩] with
  | nil => exact absurd hxs (List.append_ne_nil_of_right_ne_nil _ (List.cons_ne_nil _ _))
  | cons x xs =>
    rw [hxs] at hout
    exact .raise (hout x (List.mem_cons_self ..)) e

/-- A check walks the places of the schema in the value. -/
theorem follows_check (limit : Nat) (s : Schema) (v : Value) :
    Follows limit (s.check limit v) (s.visits v) := by
  induction s using nodes generalizing limit v with
  | primitive m k =>
    rw [check, visits_eq, innerVisits, List.nil_append]
    split
    · rename_i hk
      have hb : (primitive m k).bare.failures limit v = [] :=
        failures_primitive_eq_nil_iff.2 ⟨hk, approves_of_no_rule _ _⟩
      have hown := follows_confirm (s := primitive m k) (Primitive.accepts_iff.1 hk)
        (depth_project_le hb)
      rw [project] at hown
      exact hown _
    · rename_i hk
      exact follows_mismatch (mt Primitive.accepts_iff.2 hk)
  | array m item ih =>
    cases v with
    | array vs =>
      rw [check, visits_eq]
      cases limit with
      | zero => exact follows_closed (by simp [project, Value.depth]) _
      | succ d =>
        apply (follows_checkItems (ih d) 0 vs).bind
        intro rs hrs
        rw [checkItems_result (item.check_result d), outcome_eq_ok_iff] at hrs
        have hb : (array m item).bare.failures (d + 1) (.array vs) = [] :=
          failures_array_eq_nil_iff.2
            ⟨d, vs, rfl, rfl, itemFailures_eq_nil_iff.1 hrs.1, approves_of_no_rule _ _⟩
        have hown := follows_confirm (s := array m item) (v := .array vs) ⟨vs, rfl⟩
          (depth_project_le hb)
        rw [project, ← hrs.2] at hown
        exact hown _
    | _ =>
      rw [visits_eq]
      apply follows_mismatch
      rintro ⟨vs, hv⟩
      cases hv
  | object m fields ih =>
    rw [check, visits_eq]
    cases hv : v.members? with
    | some ms =>
      cases limit with
      | zero => exact follows_closed (by simp [project_object hv, Value.depth]) _
      | succ d =>
        rw [innerVisits_object hv]
        apply (follows_checkFields (fun f hf => ih f hf d) ms).bind
        intro rs hrs
        rw [checkFields_result fun f _ => f.2.check_result d, outcome_eq_ok_iff] at hrs
        have hb : (object m fields).bare.failures (d + 1) v = [] :=
          failures_object_eq_nil_iff.2
            ⟨d, ms, rfl, hv, fieldFailures_eq_nil_iff.1 hrs.1, approves_of_no_rule _ _⟩
        have hown := follows_confirm (s := object m fields) ⟨ms, hv⟩ (depth_project_le hb)
        rw [project_object hv, ← hrs.2] at hown
        exact hown _
    | none =>
      rw [innerVisits_object_of_none hv]
      apply follows_mismatch
      rintro ⟨ms, hms⟩
      cases hv.symm.trans hms

end Schema

theorem eq_of_append_cons_eq_concat {α : Type} {l₁ l₂ before : List α} {x z : α}
    (h : l₁ ++ x :: l₂ = before ++ [z]) :
    l₁ = before ∧ l₂ = [] ∨ ∃ l, before = l₁ ++ x :: l := by
  rcases List.eq_nil_or_concat l₂ with rfl | ⟨l, w, rfl⟩
  · exact .inl ⟨(List.append_inj' h rfl).1, rfl⟩
  · rw [List.concat_eq_append, ← List.cons_append, ← List.append_assoc] at h
    exact .inr ⟨l, (List.append_inj' h rfl).1.symm⟩

namespace Follows

variable {α : Type} {limit : Nat} {r : Run α} {xs : List Visit}

/-- The places that were walked: all before the last of them pass, and their questions were put. -/
theorem walked (h : Follows limit r xs) :
    ∃ done rest, xs = done ++ rest ∧ r.calls = done.filterMap (Visit.call? limit) ∧
      ∀ l₁ x l₂, done = l₁ ++ x :: l₂ →
        (∀ y ∈ l₁, y.Passes limit) ∧ (¬ x.Passes limit → l₂ = []) := by
  cases h with
  | through a hp hc hr =>
    refine ⟨xs, [], (List.append_nil xs).symm, hc, ?_⟩
    rintro l₁ x l₂ rfl
    refine ⟨fun y hy => hp y (List.mem_append_left _ hy), fun hn => absurd (hp x ?_) hn⟩
    exact List.mem_append_right _ (List.mem_cons_self ..)
  | halted before z after e hx hp hn hc hr =>
    refine ⟨before ++ [z], after, ?_, hc, ?_⟩
    · rw [hx, List.append_assoc, List.singleton_append]
    · intro l₁ x l₂ hd
      rcases eq_of_append_cons_eq_concat hd.symm with ⟨rfl, rfl⟩ | ⟨l, rfl⟩
      · exact ⟨hp, fun _ => rfl⟩
      · refine ⟨fun y hy => hp y (List.mem_append_left _ hy), fun hn => absurd (hp x ?_) hn⟩
        exact List.mem_append_right _ (List.mem_cons_self ..)

/-- A question was put at a place, after those of the places before it, all of which pass. -/
theorem asked (h : Follows limit r xs) {earlier later : List Call} {c : Call}
    (hc : r.calls = earlier ++ c :: later) :
    ∃ l₁ x l₂, xs = l₁ ++ x :: l₂ ∧ (∀ y ∈ l₁, y.Passes limit) ∧
      l₁.filterMap (Visit.call? limit) = earlier ∧ x.call? limit = some c ∧
      (¬ x.Passes limit → later = []) := by
  obtain ⟨done, rest, hxs, hcalls, hdone⟩ := h.walked
  rw [hcalls] at hc
  obtain ⟨m, n, hmn, hm, hn⟩ := List.filterMap_eq_append_iff.1 hc
  obtain ⟨k, x, l₂, hk, hnone, hx, hl⟩ := List.filterMap_eq_cons_iff.1 hn
  have hd : done = (m ++ k) ++ x :: l₂ := by rw [hmn, hk, List.append_assoc]
  obtain ⟨hpass, hlast⟩ := hdone _ _ _ hd
  refine ⟨m ++ k, x, l₂ ++ rest, ?_, hpass, ?_, hx, ?_⟩
  · rw [hxs, hd, List.append_assoc, List.cons_append]
  · rw [List.filterMap_append, hm, List.filterMap_eq_nil_iff.2 hnone, List.append_nil]
  · intro hnp
    rw [← hl, hlast hnp, List.filterMap_nil]

/-- Beyond a place that does not pass no question is put. -/
theorem calls_prefix (h : Follows limit r xs) {before after : List Visit} {x : Visit}
    (hx : xs = before ++ x :: after) (hn : ¬ x.Passes limit) :
    r.calls <+: (before ++ [x]).filterMap (Visit.call? limit) := by
  obtain ⟨done, rest, hxs, hcalls, hdone⟩ := h.walked
  have hdp : done <+: xs := ⟨rest, hxs.symm⟩
  have hbp : before ++ [x] <+: xs := ⟨after, by rw [hx, List.append_assoc, List.singleton_append]⟩
  rw [hcalls]
  apply List.IsPrefix.filterMap
  rcases List.prefix_or_prefix_of_prefix hdp hbp with hle | ⟨l, hl⟩
  · exact hle
  · rw [List.append_assoc, List.singleton_append] at hl
    obtain rfl : l = [] := (hdone before x l hl.symm).2 hn
    exact hl ▸ List.prefix_rfl

end Follows

namespace Schema

/-- What is so when the question `c` about the document `v` is put after the questions `earlier`. -/
structure Gated (s : Schema) (v : Value) (earlier : List Call) (c : Call) : Prop where
  /-- No question was put there before. -/
  once : ∀ b ∈ earlier, b.path ≠ c.path
  /-- It is put to the rule of the node there, about what the node keeps of the part there. -/
  placed : ∃ n u rule, s.at? c.path = some n ∧ v.at? c.path = some u ∧
    n.marks.rule = some rule ∧ Conforms n.bare u c.value ∧ c.verdict = rule.test c.value
  /-- The rules below have been asked, and have said yes. -/
  settled : ∀ q n u, q ≠ [] → s.at? (c.path ++ q) = some n → v.at? (c.path ++ q) = some u →
    n.marks.rule ≠ none → ∃ b ∈ earlier, b.path = c.path ++ q ∧ b.verdict.answer = .ok true

theorem marks_bare (s : Schema) : s.bare.marks = ⟨none, s.isOptional⟩ := by
  cases s <;> rfl

theorem fits_bare_iff {s : Schema} {v : Value} : s.bare.Fits v ↔ s.Fits v := by
  cases s <;> exact Iff.rfl

/-- A value all of whose places pass has nothing wrong with it. -/
theorem failures_eq_nil_of_passes {s : Schema} {v : Value}
    (h : ∀ x ∈ s.visits v, x.Passes limit) : s.failures limit v = [] := by
  cases follows_check limit s v with
  | through a _ _ hr =>
    rw [check_result, outcome_eq_ok_iff] at hr
    exact hr.1
  | halted before x after e hx _ hn _ _ =>
    refine absurd (h x ?_) hn
    rw [hx]
    exact List.mem_append_right _ (List.mem_cons_self ..)

section Places

variable {s : Schema} {v : Value} {l₁ l₂ : List Visit} {x : Visit}

/-- All places below a place stand before it. -/
theorem mem_before_of_below (hs : s.DistinctFields) (h : s.visits v = l₁ ++ x :: l₂) {y : Visit}
    (hy : y ∈ s.visits v) {q : Path} (hq : q ≠ []) (hp : y.path = x.path ++ q) : y ∈ l₁ := by
  have hclimbs := climbs_visits hs v
  rw [h] at hy hclimbs
  rcases List.mem_append.1 hy with hy | hy
  · exact hy
  · rcases List.mem_cons.1 hy with rfl | hy
    · exact absurd (List.self_eq_append_right.1 hp) hq
    · have hxy := (List.pairwise_append.1 hclimbs).2.1
      exact absurd ⟨q, hp.symm⟩ ((List.pairwise_cons.1 hxy).1 y hy)

/-- At a place that all below it passes, what the node keeps of the part is assembled. -/
theorem conforms_of_below (hs : s.DistinctFields) (h : s.visits v = l₁ ++ x :: l₂)
    (hl : ∀ y ∈ l₁, y.Passes limit) {u : Value} (hu : x.part = some u) (hf : x.Holds limit u) :
    Conforms x.node.bare u (x.node.project u) := by
  have hx : x ∈ s.visits v := by
    rw [h]
    exact List.mem_append_right _ (List.mem_cons_self ..)
  obtain ⟨hfits, hdepth⟩ := hf
  obtain ⟨d, rfl⟩ : ∃ d, limit = d + x.path.length := ⟨limit - x.path.length, by omega⟩
  have hbare : ∀ y ∈ x.node.bare.visits u, y.Passes d := by
    intro y hy
    rw [visits_eq, innerVisits_bare, List.mem_append, List.mem_singleton] at hy
    rcases hy with hy | rfl
    · have hv : y ∈ x.node.visits u := by
        rw [visits_eq]
        exact List.mem_append_left _ hy
      have hmem : y.beneath x.path ∈ s.visits v :=
        ((visited_of_mem hx).beneath hu (visited_of_mem hv)).mem
      have hbefore : y.beneath x.path ∈ l₁ :=
        mem_before_of_below hs h hmem (path_ne_nil_of_mem_innerVisits hy) rfl
      exact Visit.passes_beneath_iff.1 (hl _ hbefore)
    · refine ⟨u, rfl, ⟨fits_bare_iff.2 hfits, ?_⟩, ?_⟩
      · rw [project_bare, List.length_nil]
        omega
      · rw [marks_bare]
        exact approves_of_no_rule _ _
  exact (conforms_bare_iff.2 ⟨failures_eq_nil_of_passes hbare, rfl⟩).1

/-- A question that is put after those of the places before it is gated by them. -/
theorem gated_of_place (hs : s.DistinctFields) (h : s.visits v = l₁ ++ x :: l₂)
    (hl : ∀ y ∈ l₁, y.Passes limit) {c : Call} (hc : x.call? limit = some c) :
    s.Gated v (l₁.filterMap (Visit.call? limit)) c := by
  obtain ⟨u, rule, hu, hf, hr, rfl⟩ := Visit.call?_eq_some hc
  have hx : x ∈ s.visits v := by
    rw [h]
    exact List.mem_append_right _ (List.mem_cons_self ..)
  obtain ⟨hreach, hpart⟩ := (visited_of_mem hx).reaches
  refine ⟨?_, ?_, ?_⟩
  · intro b hb
    obtain ⟨y, hy, hyb⟩ := List.mem_filterMap.1 hb
    obtain ⟨w, rule', -, -, -, rfl⟩ := Visit.call?_eq_some hyb
    intro he
    have hclimbs := climbs_visits hs v
    rw [h] at hclimbs
    refine (List.pairwise_append.1 hclimbs).2.2 y hy x (List.mem_cons_self ..) ?_
    exact ⟨[], (List.append_nil _).trans he⟩
  · exact ⟨x.node, u, rule, at?_of_reaches hs hreach, hpart u hu, hr,
      conforms_of_below hs h hl hu hf, rfl⟩
  · intro q n w hq hn hw hnr
    have hy := (visited_of_reaches (reaches_of_at? hn) hw).mem
    have hmem := mem_before_of_below hs h hy hq rfl
    obtain ⟨b, hb, hpath, hyes⟩ := (hl _ hmem).call hnr
    exact ⟨b, List.mem_filterMap.2 ⟨_, hmem, hb⟩, hpath, hyes⟩

end Places

/--
Every question of a check is gated by the ones before it, and one without a yes is the last. Beyond a
place that does not pass, for a rule, a kind, a missing key or the limit, no question is put. The
parts among the places are those that some path leads to together with a node; a check that returns
passes all places and puts their questions in post-order, and one that raises puts those up to the
first place that does not pass.
-/
theorem check_calls_gated (limit : Nat) {s : Schema} (hs : s.DistinctFields) (v : Value) :
    (∀ earlier c later, (s.check limit v).calls = earlier ++ c :: later →
      s.Gated v earlier c ∧ (c.verdict.answer ≠ .ok true → later = [])) ∧
    (∀ before x after, s.visits v = before ++ x :: after → ¬ x.Passes limit →
      (s.check limit v).calls <+: (before ++ [x]).filterMap (Visit.call? limit)) ∧
    (∀ p n u, ⟨p, n, some u⟩ ∈ s.visits v ↔ s.at? p = some n ∧ v.at? p = some u) ∧
    (∀ a, (s.check limit v).result = .ok a → (∀ x ∈ s.visits v, x.Passes limit) ∧
      (s.check limit v).calls = (s.visits v).filterMap (Visit.call? limit)) ∧
    (∀ e, (s.check limit v).result = .error e →
      ∃ before x after, s.visits v = before ++ x :: after ∧
        (∀ y ∈ before, y.Passes limit) ∧ ¬ x.Passes limit ∧
        (s.check limit v).calls = (before ++ [x]).filterMap (Visit.call? limit)) := by
  have hrun := follows_check limit s v
  refine ⟨?_, ?_, fun p n u => ⟨fun hx => ?_, fun h => ?_⟩, ?_, ?_⟩
  · intro earlier c later hc
    obtain ⟨l₁, x, l₂, hx, hl, rfl, hcall, hlast⟩ := hrun.asked hc
    refine ⟨gated_of_place hs hx hl hcall, fun hno => hlast ?_⟩
    obtain ⟨u, rule, hu, -, hr, rfl⟩ := Visit.call?_eq_some hcall
    rintro ⟨w, hw, -, ha⟩
    cases hu.symm.trans hw
    exact hno (ha rule hr)
  · intro before x after hx hn
    exact hrun.calls_prefix hx hn
  · obtain ⟨hreach, hpart⟩ := (visited_of_mem hx).reaches
    exact ⟨at?_of_reaches hs hreach, hpart u rfl⟩
  · exact (visited_of_reaches (reaches_of_at? h.1) h.2).mem
  · intro a ha
    cases hrun with
    | through _ hp hc _ => exact ⟨hp, hc⟩
    | halted before x after e _ _ _ _ hr => cases ha.symm.trans hr
  · intro e he
    cases hrun with
    | through a _ _ hr => cases he.symm.trans hr
    | halted before x after e' hx hp hn hc _ => exact ⟨before, x, after, hx, hp, hn, hc⟩

/-- A list of names under rules that hold, in an object under a rule that does not. -/
def roster : Schema :=
  .object ⟨some .never, false⟩
    [("names", .array ⟨some .always, false⟩ (.primitive ⟨some .always, false⟩ .string)),
      ("note", .primitive ⟨some .always, true⟩ .string)]

def rosterMembers : List (Text × Value) :=
  [("draft", .null), ("names", .array [.string "x", .string "y"])]

def nameCalls : List Call :=
  [⟨[.key "names", .index 0], .string "x", ⟨[], .ok true⟩⟩,
    ⟨[.key "names", .index 1], .string "y", ⟨[], .ok true⟩⟩,
    ⟨[.key "names"], .array [.string "x", .string "y"], ⟨[], .ok true⟩⟩]

def rosterCall : Call :=
  ⟨[], .object [("names", .array [.string "x", .string "y"])], ⟨[], .ok false⟩⟩

theorem check_rosterMembers :
    roster.DistinctFields ∧
      (roster.check 2 (.object rosterMembers)).calls = nameCalls ++ [rosterCall] ∧
      roster.Gated (.object rosterMembers) nameCalls rosterCall := by
  have hs : roster.DistinctFields := by
    simp only [roster, distinctFields_object_iff, List.forall_mem_cons, distinctFields_array_iff,
      distinctFields_primitive]
    exact ⟨by decide, trivial, trivial, List.forall_mem_nil _⟩
  obtain ⟨hgated, -⟩ :=
    (check_calls_gated 2 hs (.object rosterMembers)).1 nameCalls rosterCall [] rfl
  exact ⟨hs, rfl, hgated⟩

end Schema

end ReplySchema
