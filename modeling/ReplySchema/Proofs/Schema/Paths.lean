import ReplySchema.Proofs.Schema.Nodes

/-!
Following a path through a schema. A key leads to the field of that name and an index to the item,
whichever index it is. Where no object node declares a key twice, a path leads to one node at most.
-/

namespace ReplySchema

namespace Schema

def at? : Schema → Path → Option Schema
  | s, [] => some s
  | .array _ item, .index _ :: p => item.at? p
  | .object _ fields, .key k :: p => (find? k fields).bind fun child => child.at? p
  | _, _ => none

@[simp] theorem at?_nil (s : Schema) : s.at? [] = some s := by
  unfold at?
  rfl

theorem reaches_of_at? {s n : Schema} {p : Path} (h : s.at? p = some n) : s.Reaches p n := by
  induction p generalizing s with
  | nil =>
    rw [at?_nil] at h
    cases h
    exact .here n
  | cons step p ih =>
    cases s with
    | primitive m k => cases step <;> cases h
    | array m item =>
      cases step with
      | key k => cases h
      | index i => exact .item (ih h)
    | object m fields =>
      cases step with
      | index i => cases h
      | key k =>
        obtain ⟨child, hc, hn⟩ := Option.bind_eq_some_iff.1 h
        exact .field (find?_mem hc) (ih hn)

/-- No object node declares a key twice. -/
def DistinctFields (s : Schema) : Prop :=
  ∀ p m fields, s.Reaches p (.object m fields) → (fields.map Prod.fst).Nodup

theorem DistinctFields.keys {m : Marks} {fields : List (Text × Schema)}
    (h : (object m fields).DistinctFields) : (fields.map Prod.fst).Nodup :=
  h [] m fields (.here _)

theorem DistinctFields.of_reaches {s n : Schema} {p : Path} (h : s.DistinctFields)
    (hn : s.Reaches p n) : n.DistinctFields := by
  induction hn with
  | here s => exact h
  | item _ ih =>
    apply ih
    intro q m fields hr
    exact h (.index 0 :: q) m fields (.item hr)
  | @field m fields key child p n hc _ ih =>
    apply ih
    intro q m' fields' hr
    exact h (.key key :: q) m' fields' (.field hc hr)

theorem DistinctFields.item {m : Marks} {item : Schema} (h : (array m item).DistinctFields) :
    item.DistinctFields :=
  h.of_reaches (p := [.index 0]) (.item (.here item))

theorem DistinctFields.field {m : Marks} {fields : List (Text × Schema)}
    (h : (object m fields).DistinctFields) {f : Text × Schema} (hf : f ∈ fields) :
    f.2.DistinctFields :=
  h.of_reaches (p := [.key f.1]) (.field hf (.here f.2))

@[simp] theorem distinctFields_primitive (m : Marks) (k : Primitive) :
    (primitive m k).DistinctFields := by
  intro p m' fields hr
  cases hr

@[simp] theorem distinctFields_array_iff {m : Marks} {item : Schema} :
    (array m item).DistinctFields ↔ item.DistinctFields := by
  refine ⟨DistinctFields.item, ?_⟩
  intro h p m' fields hr
  cases hr with
  | item hr => exact h _ _ _ hr

@[simp] theorem distinctFields_object_iff {m : Marks} {fields : List (Text × Schema)} :
    (object m fields).DistinctFields ↔
      (fields.map Prod.fst).Nodup ∧ ∀ f ∈ fields, f.2.DistinctFields := by
  refine ⟨fun h => ⟨h.keys, fun f => h.field⟩, ?_⟩
  rintro ⟨hk, h⟩ p m' fields' hr
  cases hr with
  | here => exact hk
  | field hc hr => exact h _ hc _ _ _ hr

theorem at?_of_reaches {s n : Schema} {p : Path} (hs : s.DistinctFields) (h : s.Reaches p n) :
    s.at? p = some n := by
  induction h with
  | here s => exact at?_nil s
  | item _ ih =>
    rw [at?]
    exact ih hs.item
  | field hc _ ih =>
    rw [at?, find?_of_mem hs.keys hc, Option.bind_some]
    exact ih (hs.field hc)

end Schema

end ReplySchema
