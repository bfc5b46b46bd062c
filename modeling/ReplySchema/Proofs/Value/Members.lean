import Mathlib.Data.List.Induction
import ReplySchema.Value

/-!
Pair lists. Binding a key keeps the keys apart: a new key goes behind the others and an old one
keeps its place, so keys that differ are bound in their order and nothing else comes in. A list with
distinct keys is told by its keys and by what stands behind each.
-/

namespace ReplySchema

theorem find?_mem {α : Type} {key : Text} {a : α} {ms : List (Text × α)}
    (h : find? key ms = some a) : (key, a) ∈ ms := by
  induction ms with
  | nil => cases h
  | cons m ms ih =>
    obtain ⟨k, b⟩ := m
    rw [find?] at h
    split at h
    · rename_i hk
      cases h
      rw [hk]
      exact List.mem_cons_self ..
    · exact List.mem_cons_of_mem _ (ih h)

theorem find?_of_mem {α : Type} {key : Text} {a : α} {ms : List (Text × α)}
    (hk : (ms.map Prod.fst).Nodup) (h : (key, a) ∈ ms) : find? key ms = some a := by
  induction ms with
  | nil => cases h
  | cons m ms ih =>
    obtain ⟨k, b⟩ := m
    rw [List.map_cons, List.nodup_cons] at hk
    rw [find?]
    rcases List.mem_cons.1 h with he | hrest
    · cases he
      rw [if_pos rfl]
    · have hne : k ≠ key := by
        rintro rfl
        exact hk.1 (List.mem_map.2 ⟨(k, a), hrest, rfl⟩)
      rw [if_neg hne]
      exact ih hk.2 hrest

theorem find?_append {α : Type} (key : Text) (ms ns : List (Text × α)) :
    find? key (ms ++ ns) = (find? key ms).or (find? key ns) := by
  induction ms with
  | nil => rfl
  | cons m ms ih =>
    obtain ⟨k, b⟩ := m
    rw [List.cons_append, find?, find?]
    split
    · rfl
    · exact ih

theorem find?_of_not_mem {α : Type} {key : Text} {ms : List (Text × α)}
    (h : key ∉ ms.map Prod.fst) : find? key ms = none := by
  cases hf : find? key ms with
  | none => rfl
  | some a => exact absurd (List.mem_map_of_mem (find?_mem hf)) h

/-- Lists with the same distinct keys and the same values behind them are equal. -/
theorem eq_of_find?_eq {α : Type} {ms ns : List (Text × α)} (hn : (ms.map Prod.fst).Nodup)
    (hk : ms.map Prod.fst = ns.map Prod.fst) (hf : ∀ key, find? key ms = find? key ns) :
    ms = ns := by
  induction ms generalizing ns with
  | nil => exact (List.map_eq_nil_iff.1 hk.symm).symm
  | cons m ms ih =>
    obtain ⟨n, ns, rfl⟩ : ∃ n rest, ns = n :: rest := by
      cases ns with
      | nil => cases hk
      | cons n ns => exact ⟨n, ns, rfl⟩
    obtain ⟨k, a⟩ := m
    obtain ⟨l, b⟩ := n
    obtain ⟨hkl, hkeys⟩ := List.cons.inj hk
    obtain ⟨hnot, hn⟩ := List.nodup_cons.1 hn
    dsimp only at hkl hnot
    subst hkl
    have hvalue : a = b := by simpa [find?] using hf k
    have hrest : ∀ key, find? key ms = find? key ns := by
      intro key
      by_cases h : k = key
      · subst h
        rw [find?_of_not_mem hnot, find?_of_not_mem (hkeys ▸ hnot)]
      · simpa [find?, h] using hf key
    rw [hvalue, ih hn hkeys hrest]

theorem find?_assign {α : Type} (key k : Text) (a : α) (ms : List (Text × α)) :
    find? k (assign key a ms) = if key = k then some a else find? k ms := by
  induction ms with
  | nil => rfl
  | cons m ms ih =>
    obtain ⟨l, b⟩ := m
    rw [assign]
    by_cases hl : l = key
    · rw [if_pos hl, find?, find?]
      subst hl
      split <;> rfl
    · rw [if_neg hl, find?, ih, find?]
      by_cases hk : l = k
      · rw [if_pos hk, if_pos hk, if_neg (hk ▸ Ne.symm hl)]
      · rw [if_neg hk, if_neg hk]

/-- The value bound last is the one that is found. -/
theorem find?_foldl_assign {α : Type} (k : Text) (ms done : List (Text × α)) :
    find? k (ms.foldl (fun ms m => assign m.1 m.2 ms) done) =
      (find? k ms.reverse).or (find? k done) := by
  induction ms generalizing done with
  | nil => rfl
  | cons m ms ih =>
    obtain ⟨key, a⟩ := m
    rw [List.foldl_cons, ih, find?_assign, List.reverse_cons, find?_append, Option.or_assoc]
    congr 1
    rw [find?]
    split <;> rfl

theorem assign_of_not_mem {α : Type} {key : Text} {ms : List (Text × α)}
    (h : key ∉ ms.map Prod.fst) (a : α) : assign key a ms = ms ++ [(key, a)] := by
  induction ms with
  | nil => rfl
  | cons m ms ih =>
    obtain ⟨k, b⟩ := m
    rw [List.map_cons, List.mem_cons, not_or] at h
    rw [assign, if_neg (Ne.symm h.1), ih h.2, List.cons_append]

theorem foldl_assign {α : Type} {done ms : List (Text × α)}
    (h : ((done ++ ms).map Prod.fst).Nodup) :
    ms.foldl (fun ms m => assign m.1 m.2 ms) done = done ++ ms := by
  induction ms generalizing done with
  | nil => rw [List.foldl_nil, List.append_nil]
  | cons m ms ih =>
    have hm : m.1 ∉ done.map Prod.fst := by
      rw [List.map_append, List.map_cons] at h
      exact fun hmem => (List.nodup_append.1 h).2.2 _ hmem _ (List.mem_cons_self ..) rfl
    have hcons : done ++ m :: ms = done ++ [m] ++ ms := by
      rw [List.append_assoc, List.singleton_append]
    rw [List.foldl_cons, assign_of_not_mem hm, hcons]
    exact ih (hcons ▸ h)

theorem mem_assign {α : Type} {key : Text} {a : α} {ms : List (Text × α)} {m : Text × α}
    (h : m ∈ assign key a ms) : m.2 = a ∨ m ∈ ms := by
  induction ms with
  | nil => exact .inl (congrArg Prod.snd (List.mem_singleton.1 h))
  | cons n ms ih =>
    obtain ⟨k, b⟩ := n
    rw [assign] at h
    split at h
    · rcases List.mem_cons.1 h with rfl | h
      · exact .inl rfl
      · exact .inr (List.mem_cons_of_mem _ h)
    · rcases List.mem_cons.1 h with rfl | h
      · exact .inr (List.mem_cons_self ..)
      · exact (ih h).imp_right (List.mem_cons_of_mem _)

theorem keys_assign_of_mem {α : Type} {key : Text} {ms : List (Text × α)}
    (h : key ∈ ms.map Prod.fst) (a : α) : (assign key a ms).map Prod.fst = ms.map Prod.fst := by
  induction ms with
  | nil => exact absurd h List.not_mem_nil
  | cons m ms ih =>
    obtain ⟨k, b⟩ := m
    rw [assign]
    by_cases hk : k = key
    · rw [if_pos hk]
      rfl
    · have hms : key ∈ ms.map Prod.fst := (List.mem_cons.1 h).resolve_left (Ne.symm hk)
      rw [if_neg hk, List.map_cons, List.map_cons, ih hms]

/-- Keys stand in the order in which they are bound first. -/
theorem keys_foldl_assign {α : Type} (ms : List (Text × α)) :
    (ms.foldl (fun ms m => assign m.1 m.2 ms) []).map Prod.fst =
      (ms.map Prod.fst).eraseDups := by
  induction ms using List.reverseRecOn with
  | nil => rfl
  | append_singleton ms m ih =>
    have hmem : m.1 ∈ (ms.foldl (fun ms m => assign m.1 m.2 ms) []).map Prod.fst ↔
        m.1 ∈ ms.map Prod.fst := by
      rw [ih, List.mem_eraseDups]
    rw [List.foldl_append, List.foldl_cons, List.foldl_nil, List.map_append, List.map_singleton,
      List.eraseDups_append]
    by_cases hm : m.1 ∈ ms.map Prod.fst
    · rw [keys_assign_of_mem (hmem.2 hm), ih]
      simp [List.removeAll, hm]
    · rw [assign_of_not_mem (mt hmem.1 hm), List.map_append, ih]
      simp [List.removeAll, hm, List.eraseDups_cons]

theorem mem_keys_foldl_assign {α : Type} {key : Text} {ms : List (Text × α)} :
    key ∈ (ms.foldl (fun ms m => assign m.1 m.2 ms) []).map Prod.fst ↔ key ∈ ms.map Prod.fst := by
  rw [keys_foldl_assign, List.mem_eraseDups]

theorem nodup_keys_assign {α : Type} (key : Text) (a : α) {ms : List (Text × α)}
    (h : (ms.map Prod.fst).Nodup) : ((assign key a ms).map Prod.fst).Nodup := by
  by_cases hk : key ∈ ms.map Prod.fst
  · rw [keys_assign_of_mem hk]
    exact h
  · rw [assign_of_not_mem hk, List.map_append, List.map_singleton]
    refine List.nodup_append.2 ⟨h, List.pairwise_singleton .., fun k hm l hl => ?_⟩
    rw [List.mem_singleton.1 hl]
    rintro rfl
    exact hk hm

/-- Where duplicates stand, the last value of a key is kept, and nothing else comes in. -/
theorem foldl_assign_inv {α : Type} {P : α → Prop} {ms done : List (Text × α)}
    (hd : (done.map Prod.fst).Nodup ∧ ∀ m ∈ done, P m.2) (hms : ∀ m ∈ ms, P m.2) :
    ((ms.foldl (fun ms m => assign m.1 m.2 ms) done).map Prod.fst).Nodup ∧
      ∀ m ∈ ms.foldl (fun ms m => assign m.1 m.2 ms) done, P m.2 := by
  induction ms generalizing done with
  | nil => exact hd
  | cons m ms ih =>
    refine ih ⟨nodup_keys_assign _ _ hd.1, fun n hn => ?_⟩ fun n hn =>
      hms n (List.mem_cons_of_mem _ hn)
    rcases mem_assign hn with he | hn
    · rw [he]
      exact hms m (List.mem_cons_self ..)
    · exact hd.2 n hn

theorem nodup_keys_foldl_assign {α : Type} (ms : List (Text × α)) :
    ((ms.foldl (fun ms m => assign m.1 m.2 ms) []).map Prod.fst).Nodup := by
  have hnil : (([] : List (Text × α)).map Prod.fst).Nodup := List.nodup_nil
  have hall : ∀ m ∈ ms, True := fun _ _ => trivial
  exact (foldl_assign_inv (P := fun _ => True) ⟨hnil, fun _ _ => trivial⟩ hall).1

end ReplySchema
