import Mathlib.Data.List.Basic
import ReplySchema.Model.Convert
import ReplySchema.Proofs.Results

/-!
What is converted. A field type that has a schema reads as a scalar, a list or a model, in one way
only, and the schema follows that reading: a list has the schema of its items, a model the schemas of
its fields under their keys in documents, where every model on the way is entered once.
-/

namespace ReplySchema

/-- The reading of a type that can be converted, so far as its top goes. -/
def Reading.IsSupported : Reading → Prop
  | unsupported _ => False
  | _ => True

/--
`a.Reads r`: the type `a` asks for what `r` says. Classes that extend a scalar count as that one, a
tuple of one item counts as one of any length, and a union with nothing as its other member. There are
no literals without a value, and no unions inside of unions.
-/
inductive FieldType.Reads : FieldType → Reading → Prop
  | string : Reads (.plain .string) .string
  | stringEnum : Reads (.plain .stringEnum) .string
  | integer : Reads (.plain .integer) .integer
  | integerEnum : Reads (.plain .integerEnum) .integer
  | float : Reads (.plain .float) .number
  | boolean : Reads (.plain .boolean) .boolean
  | literal {values : List Value} {ts : List Text} :
    values = ts.map Value.string → ts ≠ [] → Reads (.literal values) (.oneOf ts)
  | list {spelling : Spelling} {item : FieldType} {more : List FieldType} :
    Reads (.collection spelling .list (item :: more)) (.list item)
  | sequence {spelling : Spelling} {item : FieldType} {more : List FieldType} :
    Reads (.collection spelling .sequence (item :: more)) (.list item)
  | tuple {spelling : Spelling} {item : FieldType} :
    Reads (.collection spelling .tuple [item]) (.list item)
  | variadic {item : FieldType} : Reads (.variadic item) (.list item)
  | model {id : Nat} {name : Text} : Reads (.model id name) (.model id name)
  | optional {spelling : Spelling} {as : List FieldType} {a : FieldType} {r : Reading} :
    as.filter (fun b => !b.isNothing) = [a] → (∀ s bs, a ≠ .union s bs) → Reads a r →
      Reads (.union spelling as) r

namespace FieldType

theorem eq_map_of_strings? {values : List Value} {ts : List Text} (h : strings? values = some ts) :
    values = ts.map Value.string := by
  induction values generalizing ts with
  | nil =>
    cases h
    rfl
  | cons v values ih =>
    cases v with
    | string t =>
      obtain ⟨rest, hrest, rfl⟩ := Option.map_eq_some_iff.1 h
      rw [List.map_cons, ← ih hrest]
    | _ => cases h

theorem strings?_map (ts : List Text) : strings? (ts.map Value.string) = some ts := by
  induction ts with
  | nil => rfl
  | cons t ts ih => rw [List.map_cons, strings?, ih, Option.map_some]

theorem reads_of_memberReading {a : FieldType} {r : Reading} (h : a.memberReading = r)
    (hr : r.IsSupported) : a.Reads r := by
  unfold memberReading at h
  split at h
  · rename_i c
    subst h
    cases c with
    | string => exact .string
    | stringEnum => exact .stringEnum
    | integer => exact .integer
    | integerEnum => exact .integerEnum
    | float => exact .float
    | boolean => exact .boolean
    | _ => cases hr
  · subst h
    exact .model
  · split at h
    · rename_i hts
      subst h
      refine .literal (eq_map_of_strings? hts) ?_
      rintro rfl
      cases eq_map_of_strings? hts
    · subst h
      cases hr
  · subst h
    exact .variadic
  · subst h
    cases hr
  · split at h
    · subst h
      exact .tuple
    · subst h
      cases hr
  · split at h
    · subst h
      exact .list
    · subst h
      cases hr
  · split at h
    · subst h
      exact .sequence
    · subst h
      cases hr
  · subst h
    cases hr

theorem reading_of_not_union {a : FieldType} (h : ∀ s bs, a ≠ .union s bs) :
    a.reading = a.memberReading := by
  cases a with
  | union s bs => exact absurd rfl (h s bs)
  | _ => rfl

/-- What a type is read as is what it asks for. -/
theorem reads_of_reading {a : FieldType} {r : Reading} (h : a.reading = r)
    (hr : r.IsSupported) : a.Reads r := by
  unfold reading at h
  split at h
  · split at h
    · rename_i b hb
      refine .optional hb ?_ (reads_of_memberReading h hr)
      rintro s bs rfl
      subst h
      exact hr
    · subst h
      cases hr
  · exact reads_of_memberReading h hr

theorem Reads.reading_eq {a : FieldType} {r : Reading} (h : a.Reads r) : a.reading = r := by
  induction h with
  | @literal values ts hvalues hne =>
    subst hvalues
    obtain ⟨t, ts, rfl⟩ := List.exists_cons_of_ne_nil hne
    have hstrings := strings?_map (t :: ts)
    rw [List.map_cons] at hstrings ⊢
    refine (reading_of_not_union (by simp)).trans ?_
    simp only [memberReading, hstrings]
  | optional hfilter hflat _ ih =>
    rw [reading, hfilter]
    exact (reading_of_not_union hflat).symm.trans ih
  | _ => rfl

theorem Reads.unique {a : FieldType} {r r' : Reading} (h : a.Reads r) (h' : a.Reads r') : r = r' :=
  h.reading_eq.symm.trans h'.reading_eq

theorem Reads.isSupported {a : FieldType} {r : Reading} (h : a.Reads r) : r.IsSupported := by
  induction h with
  | optional _ _ _ ih => exact ih
  | _ => trivial

end FieldType

inductive Reading.Scalar : Reading → Schema → Prop
  | string : Scalar .string (.string none)
  | integer : Scalar .integer (.number (some .integer))
  | number : Scalar .number (.number none)
  | boolean : Scalar .boolean .boolean
  | oneOf {values : List Text} {rule : Rule} :
    Rule.oneOf values = .ok rule → Scalar (.oneOf values) (.string (some rule))

def Field.declare (p : Field × Schema) : Text × Schema := (p.1.documentKey, p.2.asField p.1.required)

namespace Model

/-- `Compiles outside a s`: the type `a` has the schema `s`, and only models of `outside` are met. -/
inductive Compiles : List Model → FieldType → Schema → Prop
  | scalar {outside : List Model} {a : FieldType} {r : Reading} {s : Schema} :
    a.Reads r → r.Scalar s → Compiles outside a s
  | list {outside : List Model} {a item : FieldType} {s : Schema} :
    a.Reads (.list item) → Compiles outside item s → Compiles outside a (.array .plain s)
  | model {outside rest : List Model} {a : FieldType} {id : Nat} {name : Text} {m : Model}
    {pairs : List (Field × Schema)} :
    a.Reads (.model id name) → enter? id outside = some (m, rest) → pairs.map Prod.fst = m.fields →
      (∀ p ∈ pairs, Compiles rest p.1.type.withoutRemarks p.2) →
      Compiles outside a
        (.object .plain ((pairs.map Field.declare).foldl (fun ms f => assign f.1 f.2 ms) []))

/--
`Expands models a s`: the schema has at every place what the type asks for there; where it asks for a
model, there stands an object with the fields of this model, whatever else holds the model.
-/
inductive Expands (models : List Model) : FieldType → Schema → Prop
  | scalar {a : FieldType} {r : Reading} {s : Schema} : a.Reads r → r.Scalar s → Expands models a s
  | list {a item : FieldType} {s : Schema} :
    a.Reads (.list item) → Expands models item s → Expands models a (.array .plain s)
  | model {a : FieldType} {name : Text} {m : Model} {pairs : List (Field × Schema)} :
    a.Reads (.model m.id name) → m ∈ models → pairs.map Prod.fst = m.fields →
      (∀ p ∈ pairs, Expands models p.1.type.withoutRemarks p.2) →
      Expands models a
        (.object .plain ((pairs.map Field.declare).foldl (fun ms f => assign f.1 f.2 ms) []))

theorem mem_of_enter? {id : Nat} {models rest : List Model} {m : Model}
    (h : enter? id models = some (m, rest)) : m ∈ models ∧ m.id = id ∧ rest ⊆ models := by
  induction models generalizing rest with
  | nil => cases h
  | cons n models ih =>
    rw [enter?] at h
    split at h
    · rename_i hid
      cases h
      exact ⟨List.mem_cons_self .., hid, List.subset_cons_self ..⟩
    · obtain ⟨⟨found, others⟩, hfound, he⟩ := Option.map_eq_some_iff.1 h
      cases he
      obtain ⟨hmem, hid, hsub⟩ := ih hfound
      exact ⟨List.mem_cons_of_mem _ hmem, hid, List.cons_subset_cons _ hsub⟩

theorem Compiles.expands {models outside : List Model} {a : FieldType} {s : Schema}
    (h : Compiles outside a s) (hsub : outside ⊆ models) : Expands models a s := by
  induction h with
  | scalar ha hs => exact .scalar ha hs
  | list ha _ ih => exact .list ha (ih hsub)
  | model ha hm hp _ ih =>
    obtain ⟨hmem, rfl, hrest⟩ := mem_of_enter? hm
    exact .model ha (hsub hmem) hp fun p hpm => ih p hpm (List.Subset.trans hrest hsub)

/-- Fields that are converted have the schemas of their types, bound in their order. -/
theorem pairs_of_convertFields {outside : List Model} {owner : Text} {fields : List Field}
    {done entries : List (Text × Schema)} (h : convertFields outside owner fields done = .ok entries) :
    ∃ pairs : List (Field × Schema), pairs.map Prod.fst = fields ∧
      (∀ p ∈ pairs, convert outside p.1.type.withoutRemarks = .ok p.2) ∧
      entries = (pairs.map Field.declare).foldl (fun ms f => assign f.1 f.2 ms) done := by
  induction fields generalizing done with
  | nil =>
    rw [convertFields] at h
    cases h
    exact ⟨[], rfl, fun p hp => absurd hp List.not_mem_nil, rfl⟩
  | cons f fields ih =>
    rw [convertFields] at h
    split at h
    · rename_i s hs
      obtain ⟨pairs, hfields, hconvert, rfl⟩ := ih h
      refine ⟨(f, s) :: pairs, congrArg _ hfields, List.forall_mem_cons.2 ⟨hs, hconvert⟩, rfl⟩
    · cases h

/-- What is converted compiles, if that holds below: of item types, and with fewer models outside. -/
theorem compiles_step {outside : List Model} {a : FieldType} {s : Schema}
    (ihItem : ∀ item, sizeOf item < sizeOf a → ∀ s, convert outside item = .ok s →
      Compiles outside item s)
    (ihField : ∀ rest, rest.length < outside.length → ∀ b s, convert rest b = .ok s →
      Compiles rest b s)
    (h : convert outside a = .ok s) : Compiles outside a s := by
  unfold convert at h
  split at h
  · rename_i hread
    cases h
    exact .scalar (FieldType.reads_of_reading hread trivial) .string
  · rename_i hread
    cases h
    exact .scalar (FieldType.reads_of_reading hread trivial) .integer
  · rename_i hread
    cases h
    exact .scalar (FieldType.reads_of_reading hread trivial) .number
  · rename_i hread
    cases h
    exact .scalar (FieldType.reads_of_reading hread trivial) .boolean
  · rename_i values hread
    split at h
    · rename_i rule hrule
      cases h
      exact .scalar (FieldType.reads_of_reading hread trivial) (.oneOf hrule)
    · cases h
  · rename_i item hread
    obtain ⟨t, ht, rfl⟩ := map_ok h
    exact .list (FieldType.reads_of_reading hread trivial)
      (ihItem item (FieldType.sizeOf_reading hread) t ht)
  · rename_i id name hread
    split at h
    · cases h
    · rename_i m rest hm
      obtain ⟨entries, hentries, rfl⟩ := map_ok h
      obtain ⟨pairs, hfields, hconvert, rfl⟩ := pairs_of_convertFields hentries
      exact .model (FieldType.reads_of_reading hread trivial) hm hfields
        fun p hp => ihField rest (length_enter? hm) _ p.2 (hconvert p hp)
  · cases h

/-- By induction on the models that may still be met and, among types under the same, on the type. -/
theorem compiles_of_convert {outside : List Model} {a : FieldType} {s : Schema}
    (h : convert outside a = .ok s) : Compiles outside a s := by
  induction hn : outside.length using Nat.strongRecOn generalizing outside a s with
  | ind n ihField =>
    induction hk : sizeOf a using Nat.strongRecOn generalizing a s with
    | ind k ihItem =>
      subst hn hk
      refine compiles_step (fun item hlt t ht => ?_) (fun rest hlt b t ht => ?_) h
      · exact ihItem (sizeOf item) hlt ht rfl
      · exact ihField rest.length hlt ht rfl

end Model

end ReplySchema
