import ReplySchema.Proofs.Json.Scalars

/-!
What is read back. Tuples come back as lists, and of the doubles that are not finite a strict reader
refuses the one whose spelling stands first in the text.
-/

namespace ReplySchema

namespace Value

mutual

def listed : Value → Value
  | .array items | .tuple items => .array (listedItems items)
  | .object members => .object (listedMembers members)
  | v => v

def listedItems : List Value → List Value
  | [] => []
  | v :: vs => v.listed :: listedItems vs

def listedMembers : List (Text × Value) → List (Text × Value)
  | [] => []
  | (k, v) :: ms => (k, v.listed) :: listedMembers ms

end

theorem listedItems_eq_map (vs : List Value) : listedItems vs = vs.map listed := by
  induction vs with
  | nil => rfl
  | cons v vs ih => rw [listedItems, ih, List.map_cons]

theorem listedMembers_eq_map (ms : List (Text × Value)) :
    listedMembers ms = ms.map fun m => (m.1, m.2.listed) := by
  induction ms with
  | nil => rfl
  | cons m ms ih => rw [listedMembers, ih, List.map_cons]

def ownConstant? : Value → Option Text
  | .float x => Json.constant? x
  | _ => none

def constant? (v : Value) : Option Text := v.parts.findSome? ownConstant?

/-- The keys of every object in a value are strings, and they differ. -/
structure DistinctKeys (v : Value) : Prop where
  strings : ∀ entries, .mapping entries ∉ v.parts
  nodup : ∀ members, .object members ∈ v.parts → (members.map Prod.fst).Nodup

theorem DistinctKeys.mono {v w : Value} (h : w.parts ⊆ v.parts) (hv : v.DistinctKeys) :
    w.DistinctKeys :=
  ⟨fun entries hm => hv.strings entries (h hm), fun members hm => hv.nodup members (h hm)⟩

theorem findSome?_flatMap {α β γ : Type} (f : β → Option γ) (g : α → List β) (l : List α) :
    (l.flatMap g).findSome? f = l.findSome? fun a => (g a).findSome? f := by
  induction l with
  | nil => rfl
  | cons a l ih =>
    rw [List.flatMap_cons, List.findSome?_append, ih, List.findSome?_cons]
    cases (g a).findSome? f with
    | none => rfl
    | some c => rfl

theorem constant?_array (items : List Value) :
    (array items).constant? = items.findSome? constant? := by
  rw [constant?, parts_array, List.findSome?_cons, findSome?_flatMap]
  rfl

theorem constant?_tuple (items : List Value) :
    (tuple items).constant? = items.findSome? constant? := by
  rw [constant?, parts_tuple, List.findSome?_cons, findSome?_flatMap]
  rfl

theorem constant?_object (members : List (Text × Value)) :
    (object members).constant? = members.findSome? fun m => m.2.constant? := by
  rw [constant?, parts_object, List.findSome?_cons, findSome?_flatMap]
  rfl

theorem findSome?_ownConstant? {ws : List Value} (h : ∀ x, .float x ∈ ws → x.isFinite) :
    ws.findSome? ownConstant? = none := by
  refine List.findSome?_eq_none_iff.2 fun w hw => ?_
  cases w with
  | float x => exact Json.constant?_eq_none (h x hw)
  | _ => rfl

theorem constant?_of_first {v : Value} {before after : List Value} {x : Double}
    (hp : v.parts = before ++ .float x :: after) (hb : ∀ y, .float y ∈ before → y.isFinite)
    (hx : ¬ x.isFinite) : v.constant? = some (Json.doubleLayout.double x) := by
  rw [constant?, hp, List.findSome?_append, findSome?_ownConstant? hb, Option.none_or,
    List.findSome?_cons, ownConstant?, Json.constant?_eq_some hx]

end Value

namespace Json

theorem Strictness.refuse_findSome? {α : Type} (st : Strictness) (f : α → Option Text)
    (l : List α) : st.refuse (l.findSome? f) = l.findSome? fun a => st.refuse (f a) := by
  cases hst : st.allowNan with
  | true =>
    simp only [refuse, hst, if_true]
    exact (List.findSome?_eq_none_iff.2 fun a _ => rfl).symm
  | false => simp [refuse, hst]

theorem Strictness.refuse_none (st : Strictness) : st.refuse none = none := by
  rw [refuse]
  split <;> rfl

theorem answer_none {α : Type} (st : Strictness) (a : α) (r : Text) :
    answer (st.refuse none) a r = .ok (a, r) := by
  rw [Strictness.refuse_none, answer]

theorem map_answer {α β : Type} (refused : Option Text) (a : α) (r : Text) (f : α → β) :
    (answer refused a r).map (fun p => (f p.1, p.2)) = answer refused (f a) r := by
  cases refused <;> rfl

end Json

end ReplySchema
