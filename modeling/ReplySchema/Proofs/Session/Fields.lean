import ReplySchema.Proofs.Results
import ReplySchema.Proofs.Value.Members
import ReplySchema.Session

/-!
The fields of an object node. The builder takes a mapping and named fields; when it makes a node, all
keys of the mapping are strings, bound in their order, and the named fields stand behind them under
keys of their own.
-/

namespace ReplySchema

def Argument.under (f : Text × Argument) : Value × Argument := (.string f.1, f.2)

theorem Argument.under_injective : Function.Injective Argument.under := by
  intro f g h
  obtain ⟨hk, ha⟩ := Prod.mk.inj h
  exact Prod.ext (Value.string.inj hk) ha

open Argument (under)

variable {key : Text} {a : Argument} {mapping done : List (Value × Argument)}
  {named given : List (Text × Argument)}

theorem mem_keys_assignKey {k key : Value} :
    k ∈ (assignKey key a done).map Prod.fst ↔ k = key ∨ k ∈ done.map Prod.fst := by
  induction done with
  | nil => exact List.mem_cons
  | cons f done ih =>
    obtain ⟨l, b⟩ := f
    rw [assignKey.eq_def]
    dsimp only
    split
    · split
      · rename_i hxy
        rw [hxy, List.map_cons, List.map_cons, List.mem_cons, or_self_left]
      · rw [List.map_cons, List.map_cons, List.mem_cons, List.mem_cons, ih, or_left_comm]
    · rw [List.map_cons, List.map_cons, List.mem_cons, List.mem_cons, ih, or_left_comm]

theorem mem_keys_foldl_assignKey {k : Value} (h : k ∈ mapping.map Prod.fst ∨ k ∈ done.map Prod.fst) :
    k ∈ (mapping.foldl (fun fields (key, a) => assignKey key a fields) done).map Prod.fst := by
  induction mapping generalizing done with
  | nil => exact h.resolve_left List.not_mem_nil
  | cons f mapping ih =>
    apply ih
    rw [mem_keys_assignKey]
    rw [List.map_cons, List.mem_cons] at h
    tauto

theorem assignKey_under (key : Text) (a : Argument) (given : List (Text × Argument)) :
    assignKey (.string key) a (given.map under) = (assign key a given).map under := by
  induction given with
  | nil => rfl
  | cons f given ih =>
    obtain ⟨k, b⟩ := f
    rw [List.map_cons, assign, under, assignKey]
    by_cases hk : key = k
    · rw [if_pos hk, if_pos hk.symm]
      rfl
    · rw [if_neg hk, if_neg (Ne.symm hk), ih]
      rfl

theorem foldl_assignKey_under (given done : List (Text × Argument)) :
    (given.map under).foldl (fun fields (key, a) => assignKey key a fields) (done.map under) =
      (given.foldl (fun ms m => assign m.1 m.2 ms) done).map under := by
  induction given generalizing done with
  | nil => rfl
  | cons f given ih =>
    rw [List.map_cons, List.foldl_cons, List.foldl_cons, ← ih, ← assignKey_under]
    rfl

theorem hasKey_append (key : Text) (fields others : List (Value × Argument)) :
    hasKey key (fields ++ others) = (hasKey key fields || hasKey key others) := List.any_append

theorem hasKey_under : hasKey key (given.map under) = true ↔ key ∈ given.map Prod.fst := by
  induction given with
  | nil => exact iff_of_false Bool.false_ne_true List.not_mem_nil
  | cons f given ih =>
    rw [List.map_cons, List.map_cons, List.mem_cons, ← ih, hasKey, List.any_cons, Bool.or_eq_true]
    exact or_congr_left (decide_eq_true_iff.trans eq_comm)

/-- A key that is new goes last. -/
theorem assignKey_of_not_hasKey (h : hasKey key done = false) (a : Argument) :
    assignKey (.string key) a done = done ++ [under (key, a)] := by
  induction done with
  | nil => rfl
  | cons f done ih =>
    obtain ⟨k, b⟩ := f
    rw [hasKey, List.any_cons, Bool.or_eq_false_iff] at h
    cases k with
    | string t =>
      have hne : key ≠ t := fun he => of_decide_eq_false h.1 he.symm
      rw [assignKey, if_neg hne, ih h.2, List.cons_append]
    | _ =>
      rw [assignKey, ih h.2, List.cons_append]
      intro x y _ hy
      cases hy

/-- Named fields that are taken stand behind the mapping, with keys that are new. -/
theorem named_of_foldlM {fields : List (Value × Argument)}
    (h : named.foldlM (fun fields (key, a) =>
      if hasKey key fields then .error (.fieldTwice key) else .ok (assignKey (.string key) a fields))
      done = (.ok fields : Except BuildError _)) :
    fields = done ++ named.map under ∧ (named.map Prod.fst).Nodup ∧
      ∀ f ∈ named, hasKey f.1 done = false := by
  induction named generalizing done with
  | nil =>
    cases h
    simp
  | cons f named ih =>
    obtain ⟨key, a⟩ := f
    rw [List.foldlM_cons] at h
    dsimp only at h
    cases hk : hasKey key done with
    | true =>
      rw [hk, if_pos rfl] at h
      cases h
    | false =>
      rw [hk, if_neg Bool.false_ne_true] at h
      obtain ⟨hfields, hnodup, hnew⟩ := ih h
      rw [assignKey_of_not_hasKey hk] at hfields hnew
      have hapart : ∀ g ∈ named,
          hasKey g.1 done = false ∧ hasKey g.1 ([(key, a)].map under) = false := by
        intro g hg
        rw [← Bool.or_eq_false_iff, ← hasKey_append]
        exact hnew g hg
      refine ⟨?_, List.nodup_cons.2 ⟨?_, hnodup⟩, List.forall_mem_cons.2 ⟨hk, ?_⟩⟩
      · rw [hfields, List.append_assoc, List.map_cons, List.singleton_append]
      · intro hmem
        obtain ⟨g, hg, he⟩ := List.mem_map.1 hmem
        have hself : hasKey g.1 ([(key, a)].map under) = true := by
          rw [hasKey_under, he]
          exact List.mem_cons_self ..
        rw [(hapart g hg).2] at hself
        cases hself
      · exact fun g hg => (hapart g hg).1

/-- Fields that are resolved were nodes under strings. -/
theorem eq_of_resolveFields {fields : List (Text × NodeId)} (h : resolveFields mapping = .ok fields) :
    mapping = fields.map fun f => under (f.1, .node f.2) := by
  induction mapping generalizing fields with
  | nil =>
    cases h
    rfl
  | cons f mapping ih =>
    obtain ⟨k, a⟩ := f
    cases k with
    | string key =>
      cases a with
      | value v => cases h
      | node id =>
        obtain ⟨rest, hrest, rfl⟩ := map_ok h
        rw [ih hrest]
        rfl
    | _ => cases h

/-- A mapping whose keys are strings, as the pairs under them. -/
theorem exists_given (h : ∀ k ∈ mapping.map Prod.fst, ∃ t, k = Value.string t) :
    ∃ given : List (Text × Argument), mapping = given.map under := by
  induction mapping with
  | nil => exact ⟨[], rfl⟩
  | cons f mapping ih =>
    obtain ⟨k, a⟩ := f
    rw [List.map_cons, List.forall_mem_cons] at h
    obtain ⟨⟨t, rfl⟩, hrest⟩ := h
    obtain ⟨given, rfl⟩ := ih hrest
    exact ⟨(t, a) :: given, rfl⟩

end ReplySchema
