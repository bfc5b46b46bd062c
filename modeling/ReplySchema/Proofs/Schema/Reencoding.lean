import ReplySchema.Proofs.Json.Decoded
import ReplySchema.Proofs.Schema.Depth

/-!
Parsing by text at every level. A schema can be held against a document by decoding it, writing each
element and each declared field out again, and parsing that text with the node it belongs to. This
gives the same run as one decoding and one check.
-/

namespace ReplySchema

/-- Writes `v` out, nested at most `limit` deep, and parses the text. -/
def byText (limit : Nat) (parse : Json.Source → Run Value) (v : Value) : Run Value :=
  match Json.encode limit v with
  | .ok t => parse (.text t)
  | .error e => .raise (.fault e.toFault)

namespace Schema

mutual

/-- Decodes at every node, from the text of the value that stands there. -/
def parseByText (st : Json.Strictness) (s : Schema) (source : Json.Source) : Run Value :=
  match Json.decode st source with
  | .error e => .fail (.invalidJson e.message)
  | .ok v =>
    match s with
    | primitive m k =>
      if k.accepts v then
        m.confirm st.nesting (fun text => "Validation failed for value: " ++ text) v
      else mismatch (primitive m k) v
    | array m item =>
      match v with
      | .array vs =>
        (parseItemsByText st item 0 vs).bind fun rs =>
          m.confirm st.nesting (fun _ => "Array validation failed") (.array rs)
      | v => mismatch (array m item) v
    | object m fields =>
      match v with
      | .object ms =>
        (parseFieldsByText st fields ms).bind fun rs =>
          m.confirm st.nesting (fun _ => "Object validation failed") (.object rs)
      | v => mismatch (object m fields) v

def parseItemsByText (st : Json.Strictness) (item : Schema) (i : Nat) (vs : List Value) :
    Run (List Value) :=
  match vs with
  | [] => .pure []
  | v :: vs =>
    ((byText st.nesting (parseByText st item) v).under (.index i)).bind fun r =>
      (parseItemsByText st item (i + 1) vs).map (r :: ·)

def parseFieldsByText (st : Json.Strictness) (fields : List (Text × Schema))
    (ms : List (Text × Value)) : Run (List (Text × Value)) :=
  match fields with
  | [] => .pure []
  | (key, child) :: rest =>
    match find? key ms with
    | some v =>
      ((byText st.nesting (parseByText st child) v).under (.key key)).bind fun r =>
        (parseFieldsByText st rest ms).map ((key, r) :: ·)
    | none =>
      if child.isOptional then parseFieldsByText st rest ms else .fail (.missingKey key)

end

theorem parseItemsByText_eq {st : Json.Strictness} {limit : Nat} {item : Schema} {vs : List Value}
    (h : ∀ v ∈ vs, byText st.nesting (parseByText st item) v = item.check limit v) (i : Nat) :
    parseItemsByText st item i vs = checkItems (item.check limit) i vs := by
  induction vs generalizing i with
  | nil => rw [parseItemsByText, checkItems]
  | cons v vs ih =>
    obtain ⟨hv, hvs⟩ := List.forall_mem_cons.1 h
    rw [parseItemsByText, checkItems, hv, ih hvs]

theorem parseFieldsByText_eq {st : Json.Strictness} {limit : Nat} {fields : List (Text × Schema)}
    {ms : List (Text × Value)}
    (h : ∀ f ∈ fields, ∀ v, find? f.1 ms = some v →
      byText st.nesting (parseByText st f.2) v = f.2.check limit v) :
    parseFieldsByText st fields ms = checkFields limit fields ms := by
  induction fields with
  | nil => rw [parseFieldsByText, checkFields]
  | cons f fields ih =>
    obtain ⟨hf, hfields⟩ := List.forall_mem_cons.1 h
    obtain ⟨key, child⟩ := f
    rw [parseFieldsByText, checkFields, ih hfields]
    cases hv : find? key ms with
    | none => rfl
    | some v =>
      dsimp only
      rw [hf v hv]

/-- Below the root it makes no difference whether a part is checked or its text is parsed. -/
theorem byText_eq_check {st : Json.Strictness} {s : Schema} {depth : Nat} {v : Value}
    (hs : ∀ source u, Json.decode st source = .ok u →
      s.parseByText st source = s.check st.nesting u)
    (hv : Json.Decoded st depth v) (hd : depth ≤ st.nesting) :
    byText st.nesting (s.parseByText st) v = s.check depth v := by
  have hnested := hv.deeper hd
  obtain ⟨t, ht, hdecode⟩ := hnested.reads_back (Nat.le_refl _) (Value.mem_parts_self v)
  rw [byText, ht, check_eq_of_depth_le hv.shallow hnested.shallow]
  exact hs _ _ hdecode

theorem parseByText_of_decode {st : Json.Strictness} {s : Schema} {source : Json.Source}
    {v : Value} (h : Json.decode st source = .ok v) :
    s.parseByText st source = s.check st.nesting v := by
  induction s using nodes generalizing source v with
  | primitive m k =>
    rw [parseByText.eq_def, check.eq_def, h]
  | array m item ih =>
    have hv := Json.decoded_of_decode h
    rw [parseByText.eq_def, check.eq_def, h]
    cases v with
    | array vs =>
      obtain ⟨d, hd⟩ := Nat.exists_eq_add_one.2 (Value.depth_array_le_iff.1 hv.shallow).1
      have hitems : ∀ w ∈ vs, byText st.nesting (item.parseByText st) w = item.check d w := by
        rw [hd] at hv
        exact fun w hw => byText_eq_check (fun _ _ => ih) (hv.of_item hw) (hd ▸ Nat.le_succ d)
      dsimp only
      rw [parseItemsByText_eq hitems, hd, Run.inside_succ]
    | _ => rfl
  | object m fields ih =>
    have hv := Json.decoded_of_decode h
    rw [parseByText.eq_def, check.eq_def, h]
    cases v with
    | object ms =>
      obtain ⟨d, hd⟩ := Nat.exists_eq_add_one.2 (Value.depth_object_le_iff.1 hv.shallow).1
      have hfields : ∀ f ∈ fields, ∀ w, find? f.1 ms = some w →
          byText st.nesting (f.2.parseByText st) w = f.2.check d w := by
        rw [hd] at hv
        exact fun f hf w hw => byText_eq_check (fun _ _ => ih f hf) (hv.of_member (find?_mem hw))
          (hd ▸ Nat.le_succ d)
      dsimp only [Value.members?_object]
      rw [parseFieldsByText_eq hfields, hd, Run.inside_succ]
    | mapping entries => exact absurd (hv.sound _ (Value.mem_parts_self _)) id
    | _ => rfl

/--
One decoding and one check come to the same run as decoding again at every node, for the same value
or the same failure, and no text of a part that was decoded fails to decode to that part.
-/
theorem parse_eq_parseByText (st : Json.Strictness) (s : Schema) (source : Json.Source) :
    s.parse st source = s.parseByText st source ∧
      ∀ v, Json.decode st source = .ok v → ∀ w ∈ v.parts,
        ∃ t, Json.encode st.nesting w = .ok t ∧ Json.decode st (.text t) = .ok w := by
  refine ⟨?_, fun v h w hw =>
    (Json.decoded_of_decode h).reads_back (Nat.le_refl _) hw⟩
  cases h : Json.decode st source with
  | error e => rw [parse, h, parseByText.eq_def, h]
  | ok v => rw [parse, h, parseByText_of_decode h]

/-- A list of lists of strings, and one item that is none. -/
def nestedItems : Value :=
  .array [.array [.string "a"], .array [.string "b", .array []]]

theorem encode_nestedItems : Json.encode 1000 nestedItems = .ok "[[\"a\"],[\"b\",[]]]" := rfl

theorem decode_nestedItems :
    Json.decode ⟨false, 1000⟩ (.text "[[\"a\"],[\"b\",[]]]") = .ok nestedItems := by
  have hempty : Json.Decoded ⟨false, 1000⟩ 998 (.array []) := .array nofun
  have hstring (t : Text) : Json.Decoded ⟨false, 1000⟩ 998 (.string t) :=
    .leaf (by simp [Value.parts]) (by simp [Value.depth]) trivial
  have hdecoded : Json.Decoded ⟨false, 1000⟩ 1000 nestedItems := by
    refine .array (List.forall_mem_cons.2 ⟨.array ?_, List.forall_mem_singleton.2 (.array ?_)⟩)
    · exact List.forall_mem_singleton.2 (hstring "a")
    · exact List.forall_mem_cons.2 ⟨hstring "b", List.forall_mem_singleton.2 hempty⟩
  refine hdecoded.decode_text _ (fun x hx => ?_) encode_nestedItems
  simp [nestedItems, Value.parts, Value.itemParts] at hx

theorem parseByText_nestedItems :
    (array .plain (array .plain (primitive .plain .string))).parseByText ⟨false, 1000⟩
        (.text "[[\"a\"],[\"b\",[]]]") =
      .fail (.atItem 1 (.atItem 1 (.typeMismatch "string" "array"))) := by
  rw [← (parse_eq_parseByText ⟨false, 1000⟩ _ _).1, parse, decode_nestedItems]
  rfl

end Schema

end ReplySchema
