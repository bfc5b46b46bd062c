import ReplySchema.Proofs.Json.Decoded
import ReplySchema.Proofs.Schema.Conformance
import ReplySchema.Proofs.Schema.Paths

/-!
What a failure reports is so. The path of a failure leads through the document to a part and through
the schema to a node, and what the innermost failure says is true of the two: the kinds differ, or
the key is missing and required, or the rule refuses what was assembled there, which the text in the
failure decodes to.
-/

namespace ReplySchema

/-- `f.HoldsAt st n u`: what `f` says is so of the part `u` at the node `n`. -/
inductive Failure.HoldsAt (st : Json.Strictness) (n : Schema) (u : Value) : Failure → Prop
  | mismatch : n.kind ≠ u.kind → HoldsAt st n u (.typeMismatch n.kind u.kind)
  | missing {m : Marks} {fields : List (Text × Schema)} {ms : List (Text × Value)} {key : Text}
    {child : Schema} :
    n = .object m fields → u = .object ms → (key, child) ∈ fields → child.isOptional = false →
      find? key ms = none → HoldsAt st n u (.missingKey key)
  | refused {a : Value} {text : Text} :
    Conforms n.bare u a → n.marks.Refuses a → Json.encode st.nesting a = .ok text →
      Json.decode st (.text text) = .ok a → HoldsAt st n u (.validationFailed (n.wording text) text)

namespace Schema

/-- Among values of a document the name of the kind decides. -/
theorem kind_eq_iff_fits {s : Schema} {v : Value} (hv : ∀ f, v ≠ .foreign f) :
    s.kind = v.kind ↔ s.Fits v := by
  cases s with
  | primitive m k => exact eq_comm
  | array m item =>
    cases v with
    | array vs => exact ⟨fun _ => ⟨vs, rfl⟩, fun _ => rfl⟩
    | foreign f => exact absurd rfl (hv f)
    | _ =>
      apply iff_of_false
      · simp only [kind, Value.kind]
        decide
      · rintro ⟨vs, h⟩
        cases h
  | object m fields =>
    cases v with
    | object ms => exact ⟨fun _ => ⟨ms, rfl⟩, fun _ => rfl⟩
    | mapping es => exact ⟨fun _ => ⟨_, rfl⟩, fun _ => rfl⟩
    | foreign f => exact absurd rfl (hv f)
    | _ =>
      apply iff_of_false
      · simp only [kind, Value.kind]
        decide
      · rintro ⟨ms, h⟩
        cases h

theorem nodup_keys_projectFields {fields : List (Text × Schema)}
    (hk : (fields.map Prod.fst).Nodup) (ms : List (Text × Value)) :
    ((projectFields fields ms).map Prod.fst).Nodup := by
  have hkeys : (projectFields fields ms).map Prod.fst = (present fields ms).map Prod.fst := by
    rw [projectFields_eq, List.map_map]
    rfl
  rw [hkeys]
  exact (List.filter_sublist.map Prod.fst).nodup hk

/-- What a check keeps of a decoded value could have been decoded itself. -/
theorem decoded_project {st : Json.Strictness} {s : Schema} (hs : s.DistinctFields) {depth : Nat}
    {v : Value} (h : Json.Decoded st depth v) : Json.Decoded st depth (s.project v) := by
  induction s using nodes generalizing v depth with
  | primitive m k =>
    rw [project]
    exact h
  | array m item ih =>
    cases v with
    | array vs =>
      obtain ⟨hpos, -⟩ := Value.depth_array_le_iff.1 h.shallow
      obtain ⟨d, rfl⟩ := Nat.exists_eq_add_one.2 hpos
      rw [project]
      apply Json.Decoded.array
      intro w hw
      obtain ⟨v, hv, rfl⟩ := List.mem_map.1 hw
      exact ih hs.item (h.of_item hv)
    | _ =>
      rw [project]
      · exact h
      · rintro _ ⟨⟩
  | object m fields ih =>
    rw [project]
    cases hms : v.members? with
    | some ms =>
      obtain rfl := h.eq_object hms
      obtain ⟨hpos, -⟩ := Value.depth_object_le_iff.1 h.shallow
      obtain ⟨d, rfl⟩ := Nat.exists_eq_add_one.2 hpos
      apply Json.Decoded.object (nodup_keys_projectFields hs.keys ms)
      intro e he
      obtain ⟨child, v, hc, hv, hp⟩ := mem_projectFields he
      rw [hp]
      exact ih _ hc (hs.field hc) (h.of_member (find?_mem hv))
    | none => exact h

section Decoded

variable {st : Json.Strictness} {depth : Nat} {n : Schema} {u : Value}

/-- What a rule refuses of a document has a text, and the text decodes to it. -/
theorem refusal_of_decoded (hn : n.DistinctFields) (hu : Json.Decoded st depth u)
    (hd : depth ≤ st.nesting) (hb : n.bare.failures depth u = [])
    (hr : n.marks.Refuses (n.project u)) :
    ∃ text, n.refusal depth (n.project u) = .failure (.validationFailed (n.wording text) text) ∧
      (Failure.validationFailed (n.wording text) text).HoldsAt st n u := by
  have ha := decoded_project hn hu
  obtain ⟨text, he, hreads⟩ := ha.reads_back hd (Value.mem_parts_self _)
  have hnested : Json.encode st.nesting (n.project u) = .ok text := by
    rw [← Json.encode_eq_of_depth_le ha.shallow (Nat.le_trans ha.shallow hd)]
    exact he
  refine ⟨text, ?_, .refused (conforms_bare_iff.2 ⟨hb, rfl⟩).1 hr hnested hreads⟩
  rw [refusal, he]

/-- In a document all that explains a finding, where rules answer, is a failure that holds there. -/
theorem holdsAt_of_explains (hn : n.DistinctFields) (hu : Json.Decoded st depth u)
    (hd : depth ≤ st.nesting) (ha : ∃ b, (n.marks.judge (n.project u)).answer = .ok b) {c : Raised}
    (hc : n.Explains depth u c) :
    ∃ f, c = .failure f ∧ f.HoldsAt st n u ∧ f.path = [] ∧ f.root = f := by
  cases hc with
  | misfit hf =>
    have hk : n.kind ≠ u.kind := mt (kind_eq_iff_fits hu.not_foreign).1 hf
    exact ⟨_, rfl, .mismatch hk, rfl, rfl⟩
  | missing hn hms hc hv ho =>
    exact ⟨_, rfl, .missing hn (hu.eq_object hms) hc ho hv, rfl, rfl⟩
  | refused hb hr he =>
    obtain ⟨text, ht, hh⟩ := refusal_of_decoded hn hu hd hb hr
    exact ⟨_, he.trans ht, hh, rfl, rfl⟩
  | raised hb he =>
    obtain ⟨b, hb⟩ := ha
    rw [hb] at he
    cases he
  | deep hz _ hdeep =>
    have hshallow := (decoded_project hn hu).shallow
    omega

end Decoded

/--
Whatever a check of a document raises is a failure. Its path can be followed through the schema and
through the document, and its innermost failure is true of the node and the part that stand there.
-/
theorem check_failure_holds {st : Json.Strictness} {source : Json.Source} {s : Schema} {v : Value}
    {e : Raised} (hs : s.DistinctFields) (ha : s.RulesAnswer)
    (hv : Json.decode st source = .ok v) (he : (s.check st.nesting v).result = .error e) :
    ∃ f n u, e = .failure f ∧ s.at? f.path = some n ∧ v.at? f.path = some u ∧
      f.root.HoldsAt st n u := by
  rw [check_result] at he
  cases hfs : s.failures st.nesting v with
  | nil =>
    rw [hfs] at he
    cases he
  | cons x xs =>
    rw [hfs] at he
    cases he
    obtain ⟨d, n, u, hd, hn, hu, hx⟩ : s.Located st.nesting v x :=
      located_of_mem_failures (hfs ▸ List.mem_cons_self ..)
    have hdecoded : Json.Decoded st d u := (hd ▸ Json.decoded_of_decode hv).of_at? hu
    obtain ⟨f, hc, hf, hpath, hroot⟩ :=
      holdsAt_of_explains (hs.of_reaches hn) hdecoded (hd ▸ Nat.le_add_right ..) (ha.judge hn _) hx
    have hp : (x.path.foldr Failure.under f).path = x.path := by
      rw [Failure.path_foldr_under, hpath, List.append_nil]
    have hr : (x.path.foldr Failure.under f).root = f := by
      rw [Failure.root_foldr_under, hroot]
    refine ⟨x.path.foldr Failure.under f, n, u, Finding.raised_of_failure hc, ?_, ?_, ?_⟩
    · rw [hp]
      exact at?_of_reaches hs hn
    · rw [hp]
      exact hu
    · rw [hr]
      exact hf

def tagged : Schema :=
  .object .plain
    [("tags", .array .plain (.object .plain [("name", .primitive ⟨some .never, false⟩ .string)]))]

def taggedMembers : List (Text × Value) := [("tags", .array [.object [("name", .string "x")]])]

def taggedText : Text := "\x7b\"tags\":[\x7b\"name\":\"x\"\x7d]\x7d"

def firstName : Path := [.key "tags", .index 0, .key "name"]

theorem writable_taggedMembers : Json.Writable 1000 (.object taggedMembers) := by
  have hparts : (Value.object taggedMembers).parts =
      [.object taggedMembers, .array [.object [("name", .string "x")]],
        .object [("name", .string "x")], .string "x"] := by
    simp [taggedMembers, Value.parts, Value.memberParts, Value.itemParts]
  refine ⟨fun f => ?_, fun n => ?_, ⟨fun es => ?_, fun members hm => ?_⟩, by decide⟩
  · simp [hparts]
  · simp [hparts]
  · simp [hparts]
  · obtain rfl | rfl :
        members = taggedMembers ∨ members = ([("name", .string "x")] : List (Text × Value)) := by
      simpa [hparts] using hm
    · decide
    · decide

theorem encode_taggedMembers : Json.encode 1000 (.object taggedMembers) = .ok taggedText := rfl

theorem decode_taggedText :
    Json.decode ⟨false, 1000⟩ (.text taggedText) = .ok (.object taggedMembers) :=
  Json.decode_of_encode ⟨false, 1000⟩ writable_taggedMembers encode_taggedMembers

theorem check_taggedMembers :
    tagged.DistinctFields ∧ tagged.RulesAnswer ∧
      Json.decode ⟨false, 1000⟩ (.text taggedText) = .ok (.object taggedMembers) ∧
      (tagged.check 1000 (.object taggedMembers)).result =
        .error (.failure (firstName.foldr Failure.under
          (.validationFailed "Validation failed for value: \"x\"" "\"x\""))) ∧
      ∃ n u, tagged.at? firstName = some n ∧ (Value.object taggedMembers).at? firstName = some u ∧
        (Failure.validationFailed "Validation failed for value: \"x\"" "\"x\"").HoldsAt
          ⟨false, 1000⟩ n u := by
  have hs : tagged.DistinctFields := by
    simp only [tagged, distinctFields_object_iff, distinctFields_array_iff,
      List.forall_mem_singleton]
    exact ⟨by decide, by decide, distinctFields_primitive _ _⟩
  have ha : tagged.RulesAnswer := by
    intro rule hr v
    cases List.mem_singleton.1 hr
    exact ⟨false, rfl⟩
  obtain ⟨f, n, u, hf, hn, hu, hh⟩ := check_failure_holds hs ha decode_taggedText rfl
  cases hf
  exact ⟨hs, ha, decode_taggedText, rfl, n, u, hn, hu, hh⟩

end Schema

end ReplySchema
