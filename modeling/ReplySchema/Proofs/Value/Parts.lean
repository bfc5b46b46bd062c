import ReplySchema.Failure
import ReplySchema.Proofs.Value.Members

/-!
Values as trees. A value has parts, listed in document order and itself first, and a part has a
place, the path that leads to it. Induction on a value goes through its items and its members.
-/

namespace ReplySchema

namespace Value

/-- Induction with one hypothesis for every item and every member; nothing is asked of keys. -/
theorem nodes {motive : Value → Prop} (null : motive .null) (bool : ∀ b, motive (.bool b))
    (int : ∀ n, motive (.int n)) (float : ∀ x, motive (.float x))
    (string : ∀ t, motive (.string t))
    (array : ∀ items, (∀ v ∈ items, motive v) → motive (.array items))
    (object : ∀ members, (∀ m ∈ members, motive m.2) → motive (.object members))
    (mapping : ∀ entries, (∀ e ∈ entries, motive e.2) → motive (.mapping entries))
    (tuple : ∀ items, (∀ v ∈ items, motive v) → motive (.tuple items))
    (foreign : ∀ f, motive (.foreign f)) (v : Value) : motive v := by
  refine v.rec (motive_1 := motive) (motive_2 := fun items => ∀ v ∈ items, motive v)
    (motive_3 := fun members => ∀ m ∈ members, motive m.2)
    (motive_4 := fun entries => ∀ e ∈ entries, motive e.2)
    (motive_5 := fun m => motive m.2) (motive_6 := fun e => motive e.2)
    null bool int float string array object mapping tuple foreign ?_ ?_ ?_ ?_ ?_ ?_ ?_ ?_
  · exact fun _ h => absurd h List.not_mem_nil
  · intro v vs hv hvs w hw
    rcases List.mem_cons.1 hw with rfl | hw
    · exact hv
    · exact hvs w hw
  · exact fun _ h => absurd h List.not_mem_nil
  · intro m ms hm hms n hn
    rcases List.mem_cons.1 hn with rfl | hn
    · exact hm
    · exact hms n hn
  · exact fun _ h => absurd h List.not_mem_nil
  · intro e es he hes f hf
    rcases List.mem_cons.1 hf with rfl | hf
    · exact he
    · exact hes f hf
  · exact fun _ _ h => h
  · exact fun _ _ _ h => h

mutual

def parts (v : Value) : List Value :=
  v :: match v with
    | .array items | .tuple items => itemParts items
    | .object members => memberParts members
    | .mapping entries => entryParts entries
    | _ => []

def itemParts : List Value → List Value
  | [] => []
  | v :: vs => v.parts ++ itemParts vs

def memberParts : List (Text × Value) → List Value
  | [] => []
  | (_, v) :: ms => v.parts ++ memberParts ms

def entryParts : List (Value × Value) → List Value
  | [] => []
  | (_, v) :: es => v.parts ++ entryParts es

end

theorem itemParts_eq (vs : List Value) : itemParts vs = vs.flatMap parts := by
  induction vs with
  | nil => rfl
  | cons v vs ih => rw [itemParts, List.flatMap_cons, ih]

theorem memberParts_eq (ms : List (Text × Value)) :
    memberParts ms = ms.flatMap fun m => m.2.parts := by
  induction ms with
  | nil => rfl
  | cons m ms ih => rw [memberParts, List.flatMap_cons, ih]

theorem entryParts_eq (es : List (Value × Value)) :
    entryParts es = es.flatMap fun e => e.2.parts := by
  induction es with
  | nil => rfl
  | cons e es ih => rw [entryParts, List.flatMap_cons, ih]

theorem parts_array (items : List Value) :
    (array items).parts = array items :: items.flatMap parts := by
  rw [parts, itemParts_eq]

theorem parts_tuple (items : List Value) :
    (tuple items).parts = tuple items :: items.flatMap parts := by
  rw [parts, itemParts_eq]

theorem parts_object (members : List (Text × Value)) :
    (object members).parts = object members :: members.flatMap fun m => m.2.parts := by
  rw [parts, memberParts_eq]

theorem parts_mapping (entries : List (Value × Value)) :
    (mapping entries).parts = mapping entries :: entries.flatMap fun e => e.2.parts := by
  rw [parts, entryParts_eq]

@[simp] theorem mem_parts_self (v : Value) : v ∈ v.parts := by
  unfold parts
  exact List.mem_cons_self ..

theorem parts_subset_array {items : List Value} {v : Value} (h : v ∈ items) :
    v.parts ⊆ (array items).parts := by
  rw [parts_array]
  exact fun w hw => List.mem_cons_of_mem _ (List.mem_flatMap.2 ⟨v, h, hw⟩)

theorem parts_subset_tuple {items : List Value} {v : Value} (h : v ∈ items) :
    v.parts ⊆ (tuple items).parts := by
  rw [parts_tuple]
  exact fun w hw => List.mem_cons_of_mem _ (List.mem_flatMap.2 ⟨v, h, hw⟩)

theorem parts_subset_object {members : List (Text × Value)} {m : Text × Value}
    (h : m ∈ members) : m.2.parts ⊆ (object members).parts := by
  rw [parts_object]
  exact fun w hw => List.mem_cons_of_mem _ (List.mem_flatMap.2 ⟨m, h, hw⟩)

theorem parts_subset_mapping {entries : List (Value × Value)} {e : Value × Value}
    (h : e ∈ entries) : e.2.parts ⊆ (mapping entries).parts := by
  rw [parts_mapping]
  exact fun w hw => List.mem_cons_of_mem _ (List.mem_flatMap.2 ⟨e, h, hw⟩)

@[simp] theorem members?_object (members : List (Text × Value)) :
    (object members).members? = some members := rfl

theorem mem_of_member? {entries : List (Value × Value)} {m : Text × Value}
    (h : m ∈ entries.filterMap members?.member?) : (.string m.1, m.2) ∈ entries := by
  obtain ⟨⟨key, v⟩, he, hm⟩ := List.mem_filterMap.1 h
  cases key with
  | string t => cases hm; exact he
  | _ => cases hm

theorem parts_subset_members {v : Value} {ms : List (Text × Value)} (h : v.members? = some ms)
    {m : Text × Value} (hm : m ∈ ms) : m.2.parts ⊆ v.parts := by
  cases v with
  | object members =>
    cases h
    exact parts_subset_object hm
  | mapping entries =>
    cases h
    exact parts_subset_mapping (mem_of_member? hm)
  | _ => cases h

/-- What a container hands down to all it holds is true of every part once it is of the whole. -/
theorem forall_mem_parts {motive : Value → Prop}
    (array : ∀ {items v}, motive (.array items) → v ∈ items → motive v)
    (tuple : ∀ {items v}, motive (.tuple items) → v ∈ items → motive v)
    (object : ∀ {members m}, motive (.object members) → m ∈ members → motive m.2)
    (mapping : ∀ {entries e}, motive (.mapping entries) → e ∈ entries → motive e.2)
    {v : Value} (h : motive v) : ∀ w ∈ v.parts, motive w := by
  intro w hw
  induction v using nodes with
  | null | bool | int | float | string | foreign =>
    unfold parts at hw
    rw [List.mem_singleton.1 hw]
    exact h
  | array items ih =>
    rw [parts_array] at hw
    rcases List.mem_cons.1 hw with rfl | hw
    · exact h
    · obtain ⟨v, hv, hw⟩ := List.mem_flatMap.1 hw
      exact ih v hv (array h hv) hw
  | tuple items ih =>
    rw [parts_tuple] at hw
    rcases List.mem_cons.1 hw with rfl | hw
    · exact h
    · obtain ⟨v, hv, hw⟩ := List.mem_flatMap.1 hw
      exact ih v hv (tuple h hv) hw
  | object members ih =>
    rw [parts_object] at hw
    rcases List.mem_cons.1 hw with rfl | hw
    · exact h
    · obtain ⟨m, hm, hw⟩ := List.mem_flatMap.1 hw
      exact ih m hm (object h hm) hw
  | mapping entries ih =>
    rw [parts_mapping] at hw
    rcases List.mem_cons.1 hw with rfl | hw
    · exact h
    · obtain ⟨e, he, hw⟩ := List.mem_flatMap.1 hw
      exact ih e he (mapping h he) hw

def Speaks (v : Value) (x : Text) : Prop :=
  .string x ∈ v.parts ∨ ∃ w ∈ v.parts, ∃ ms, w.members? = some ms ∧ x ∈ ms.map Prod.fst

theorem speaks_array_iff {vs : List Value} {x : Text} :
    Speaks (.array vs) x ↔ ∃ v ∈ vs, Speaks v x := by
  simp only [Speaks, parts_array, List.mem_cons, List.mem_flatMap, reduceCtorEq, false_or]
  constructor
  · rintro (⟨v, hv, h⟩ | ⟨w, rfl | ⟨v, hv, hw⟩, ms, hms, hx⟩)
    · exact ⟨v, hv, .inl h⟩
    · cases hms
    · exact ⟨v, hv, .inr ⟨w, hw, ms, hms, hx⟩⟩
  · rintro ⟨v, hv, h | ⟨w, hw, h⟩⟩
    · exact .inl ⟨v, hv, h⟩
    · exact .inr ⟨w, .inr ⟨v, hv, hw⟩, h⟩

theorem speaks_object_iff {ms : List (Text × Value)} {x : Text} :
    Speaks (.object ms) x ↔ x ∈ ms.map Prod.fst ∨ ∃ m ∈ ms, Speaks m.2 x := by
  simp only [Speaks, parts_object, List.mem_cons, List.mem_flatMap, reduceCtorEq, false_or]
  constructor
  · rintro (⟨m, hm, h⟩ | ⟨w, rfl | ⟨m, hm, hw⟩, ns, hns, hx⟩)
    · exact .inr ⟨m, hm, .inl h⟩
    · cases hns
      exact .inl hx
    · exact .inr ⟨m, hm, .inr ⟨w, hw, ns, hns, hx⟩⟩
  · rintro (hx | ⟨m, hm, h | ⟨w, hw, h⟩⟩)
    · exact .inr ⟨_, .inl rfl, ms, rfl, hx⟩
    · exact .inl ⟨m, hm, h⟩
    · exact .inr ⟨w, .inr ⟨m, hm, hw⟩, h⟩

theorem speaks_of_members {v : Value} {ms : List (Text × Value)} {x : Text}
    (h : v.members? = some ms) (hx : x ∈ ms.map Prod.fst ∨ ∃ m ∈ ms, Speaks m.2 x) :
    v.Speaks x := by
  rcases hx with hx | ⟨m, hm, hx | ⟨w, hw, hx⟩⟩
  · exact .inr ⟨v, mem_parts_self v, ms, h, hx⟩
  · exact .inl (parts_subset_members h hm hx)
  · exact .inr ⟨w, parts_subset_members h hm hw, hx⟩

theorem parts_subset_of_mem {v w : Value} (h : w ∈ v.parts) : w.parts ⊆ v.parts := by
  refine forall_mem_parts (motive := fun w => w.parts ⊆ v.parts) ?_ ?_ ?_ ?_ ?_ w h
  · exact fun hs hv => List.Subset.trans (parts_subset_array hv) hs
  · exact fun hs hv => List.Subset.trans (parts_subset_tuple hv) hs
  · exact fun hs hm => List.Subset.trans (parts_subset_object hm) hs
  · exact fun hs he => List.Subset.trans (parts_subset_mapping he) hs
  · exact List.Subset.refl _

mutual

/-- How many lists, tuples and objects stand inside one another. -/
def depth : Value → Nat
  | .array items | .tuple items => itemsDepth items + 1
  | .object members => membersDepth members + 1
  | .mapping entries => entriesDepth entries + 1
  | _ => 0

def itemsDepth : List Value → Nat
  | [] => 0
  | v :: vs => max v.depth (itemsDepth vs)

def membersDepth : List (Text × Value) → Nat
  | [] => 0
  | (_, v) :: ms => max v.depth (membersDepth ms)

def entriesDepth : List (Value × Value) → Nat
  | [] => 0
  | (_, v) :: es => max v.depth (entriesDepth es)

end

theorem itemsDepth_le_iff {vs : List Value} {d : Nat} :
    itemsDepth vs ≤ d ↔ ∀ v ∈ vs, v.depth ≤ d := by
  induction vs with
  | nil => simp [itemsDepth]
  | cons v vs ih => rw [itemsDepth, Nat.max_le, ih, List.forall_mem_cons]

theorem membersDepth_le_iff {ms : List (Text × Value)} {d : Nat} :
    membersDepth ms ≤ d ↔ ∀ m ∈ ms, m.2.depth ≤ d := by
  induction ms with
  | nil => simp [membersDepth]
  | cons m ms ih => rw [membersDepth, Nat.max_le, ih, List.forall_mem_cons]

theorem entriesDepth_le_iff {es : List (Value × Value)} {d : Nat} :
    entriesDepth es ≤ d ↔ ∀ e ∈ es, e.2.depth ≤ d := by
  induction es with
  | nil => simp [entriesDepth]
  | cons e es ih => rw [entriesDepth, Nat.max_le, ih, List.forall_mem_cons]

theorem depth_array_le_iff {items : List Value} {d : Nat} :
    (array items).depth ≤ d ↔ 0 < d ∧ ∀ v ∈ items, v.depth ≤ d - 1 := by
  rw [depth, ← itemsDepth_le_iff]
  omega

theorem depth_tuple_le_iff {items : List Value} {d : Nat} :
    (tuple items).depth ≤ d ↔ 0 < d ∧ ∀ v ∈ items, v.depth ≤ d - 1 := by
  rw [depth, ← itemsDepth_le_iff]
  omega

theorem depth_object_le_iff {members : List (Text × Value)} {d : Nat} :
    (object members).depth ≤ d ↔ 0 < d ∧ ∀ m ∈ members, m.2.depth ≤ d - 1 := by
  rw [depth, ← membersDepth_le_iff]
  omega

theorem depth_mapping_le_iff {entries : List (Value × Value)} {d : Nat} :
    (mapping entries).depth ≤ d ↔ 0 < d ∧ ∀ e ∈ entries, e.2.depth ≤ d - 1 := by
  rw [depth, ← entriesDepth_le_iff]
  omega

theorem depth_members_le {v : Value} {ms : List (Text × Value)} {d : Nat}
    (h : v.members? = some ms) (hd : v.depth ≤ d) : 0 < d ∧ ∀ m ∈ ms, m.2.depth ≤ d - 1 := by
  cases v with
  | object members =>
    cases h
    exact depth_object_le_iff.1 hd
  | mapping entries =>
    cases h
    obtain ⟨hpos, hentries⟩ := depth_mapping_le_iff.1 hd
    exact ⟨hpos, fun m hm => hentries _ (mem_of_member? hm)⟩
  | _ => cases h

theorem depth_le_of_mem {v w : Value} {d : Nat} (hd : v.depth ≤ d) (h : w ∈ v.parts) :
    w.depth ≤ d := by
  refine forall_mem_parts (motive := fun w => w.depth ≤ d) ?_ ?_ ?_ ?_ hd w h
  · exact fun hi hv => Nat.le_trans ((depth_array_le_iff.1 hi).2 _ hv) (Nat.sub_le ..)
  · exact fun hi hv => Nat.le_trans ((depth_tuple_le_iff.1 hi).2 _ hv) (Nat.sub_le ..)
  · exact fun ho hm => Nat.le_trans ((depth_object_le_iff.1 ho).2 _ hm) (Nat.sub_le ..)
  · exact fun hm he => Nat.le_trans ((depth_mapping_le_iff.1 hm).2 _ he) (Nat.sub_le ..)

def at? : Value → Path → Option Value
  | v, [] => some v
  | .array items, .index i :: p =>
    if i < 0 then none else items[i.toNat]?.bind fun v => v.at? p
  | v, .key k :: p => (v.members?.bind (find? k)).bind fun v => v.at? p
  | _, _ => none

@[simp] theorem at?_nil (v : Value) : v.at? [] = some v := by
  unfold at?
  rfl

theorem at?_array {items : List Value} {i : Nat} {v : Value} {p : Path}
    (h : items[i]? = some v) : (array items).at? (.index i :: p) = v.at? p := by
  rw [at?, if_neg (by omega), Int.toNat_natCast, h, Option.bind_some]

theorem at?_members {v w : Value} {ms : List (Text × Value)} {k : Text} {p : Path}
    (hv : v.members? = some ms) (h : find? k ms = some w) : v.at? (.key k :: p) = w.at? p := by
  rw [at?, hv, Option.bind_some, h, Option.bind_some]

theorem at?_array_cons {items : List Value} {step : Step} {p : Path} {u : Value}
    (h : (array items).at? (step :: p) = some u) :
    ∃ (i : Nat) (v : Value), step = .index i ∧ items[i]? = some v ∧ v.at? p = some u := by
  cases step with
  | key k => cases h
  | index i =>
    rw [at?] at h
    split at h
    · cases h
    · rename_i hi
      obtain ⟨v, hv, hu⟩ := Option.bind_eq_some_iff.1 h
      refine ⟨i.toNat, v, ?_, hv, hu⟩
      rw [Int.toNat_of_nonneg (Int.not_lt.1 hi)]

theorem at?_key {v u : Value} {k : Text} {p : Path} (h : v.at? (.key k :: p) = some u) :
    ∃ ms w, v.members? = some ms ∧ find? k ms = some w ∧ w.at? p = some u := by
  rw [at?] at h
  obtain ⟨w, hw, hu⟩ := Option.bind_eq_some_iff.1 h
  obtain ⟨ms, hms, hw⟩ := Option.bind_eq_some_iff.1 hw
  exact ⟨ms, w, hms, hw, hu⟩

theorem at?_members_cons {v u : Value} {ms : List (Text × Value)} {step : Step} {p : Path}
    (hv : v.members? = some ms) (h : v.at? (step :: p) = some u) :
    ∃ k w, step = .key k ∧ find? k ms = some w ∧ w.at? p = some u := by
  cases step with
  | index i =>
    cases v with
    | object | mapping => cases h
    | _ => cases hv
  | key k =>
    obtain ⟨ms', w, hms, hw, hu⟩ := at?_key h
    cases hv.symm.trans hms
    exact ⟨k, w, rfl, hw, hu⟩

/-- What a path leads to is a part. -/
theorem mem_parts_of_at? {v u : Value} {p : Path} (h : v.at? p = some u) : u ∈ v.parts := by
  induction p generalizing v with
  | nil =>
    rw [at?_nil] at h
    cases h
    exact mem_parts_self u
  | cons step p ih =>
    cases step with
    | index i =>
      cases v with
      | array items =>
        obtain ⟨i, w, -, hw, hu⟩ := at?_array_cons h
        exact parts_subset_array (List.mem_of_getElem? hw) (ih hu)
      | _ => cases h
    | key k =>
      obtain ⟨ms, w, hms, hw, hu⟩ := at?_key h
      exact parts_subset_members hms (find?_mem hw) (ih hu)

/-- What a path leads to nests less deep by the length of the path. -/
theorem depth_at?_le {v u : Value} {p : Path} {d : Nat} (h : v.at? p = some u)
    (hd : v.depth ≤ d + p.length) : u.depth ≤ d := by
  induction p generalizing v with
  | nil =>
    rw [at?_nil] at h
    cases h
    exact hd
  | cons step p ih =>
    cases step with
    | index i =>
      cases v with
      | array items =>
        obtain ⟨i, w, -, hw, hu⟩ := at?_array_cons h
        exact ih hu ((depth_array_le_iff.1 hd).2 w (List.mem_of_getElem? hw))
      | _ => cases h
    | key k =>
      obtain ⟨ms, w, hms, hw, hu⟩ := at?_key h
      exact ih hu ((depth_members_le hms hd).2 _ (find?_mem hw))

end Value

end ReplySchema
