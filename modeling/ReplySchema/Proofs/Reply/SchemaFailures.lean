import ReplySchema.Proofs.Json.Decoded
import ReplySchema.Proofs.Reply.Extraction
import ReplySchema.Proofs.Schema.Conformance
import ReplySchema.Proofs.Schema.Depth

/-!
Failures of a schema on a reply that is JSON. Wanting repair changes nothing about them, unless the
rule of the root itself raises the complaint that the text is no JSON: then the block of the reply
takes the place of the reply. A rule further down may raise the same complaint, because there it
comes up inside a failure of the item or of the field.
-/

namespace ReplySchema

namespace Schema

/-- The root's own rule, asked about what was assembled there, raises that the text is no JSON. -/
def Disowns (s : Schema) (v : Value) (detail : Text) : Prop :=
  ∃ a, Conforms s.bare v a ∧ (s.marks.judge a).answer = .error (.failure (.invalidJson detail))

variable {limit : Nat} {s : Schema} {v : Value} {d : Text}

/-- A complaint about the JSON without a position around it was raised at the root. -/
theorem path_of_raised_invalidJson {f : Finding} (h : f.raised = .failure (.invalidJson d)) :
    f.path = [] ∧ f.cause = .failure (.invalidJson d) := by
  obtain ⟨path, cause⟩ := f
  cases path with
  | nil => exact ⟨rfl, h⟩
  | cons step path =>
    have hunder : (path.foldr Raised.under cause).under step = .failure (.invalidJson d) := h
    cases hc : path.foldr Raised.under cause with
    | failure g =>
      rw [hc] at hunder
      cases step <;> cases hunder
    | fault x =>
      rw [hc] at hunder
      cases hunder

theorem Explains.raised_of_invalidJson (h : s.Explains limit v (.failure (.invalidJson d))) :
    s.bare.failures limit v = [] ∧
      (s.marks.judge (s.project v)).answer = .error (.failure (.invalidJson d)) := by
  cases h with
  | refused _ _ he =>
    rw [refusal] at he
    split at he <;> cases he
  | raised hb ha => exact ⟨hb, ha⟩

theorem check_invalidJson_iff (hv : v.depth ≤ limit) :
    (s.check limit v).result = .error (.failure (.invalidJson d)) ↔ s.Disowns v d := by
  rw [check_result]
  constructor
  · intro h
    cases hf : s.failures limit v with
    | nil =>
      rw [hf] at h
      cases h
    | cons f rest =>
      rw [hf] at h
      obtain ⟨hp, hc⟩ := path_of_raised_invalidJson (Except.error.inj h)
      obtain ⟨depth, n, u, -, hn, hu, hx⟩ : s.Located limit v f :=
        located_of_mem_failures (hf ▸ List.mem_cons_self ..)
      rw [hp] at hn hu
      cases hn
      rw [Value.at?_nil] at hu
      cases hu
      obtain ⟨hb, ha⟩ := Explains.raised_of_invalidJson (hc ▸ hx)
      exact ⟨_, (conforms_bare_iff.2 ⟨hb, rfl⟩).1, ha⟩
  · rintro ⟨a, hconf, ha⟩
    obtain ⟨-, rfl⟩ := failures_of_conforms hconf (Nat.le_refl a.depth)
    rw [project_bare] at hconf ha
    obtain ⟨hb, -⟩ := conforms_bare_iff.1 ⟨hconf, depth_project_le_depth hv⟩
    rw [failures_of_bare hb, objections, ha]
    rfl

end Schema

namespace Reply

variable {st : Json.Strictness} {raw : Text} {v : Value}

theorem parse_of_not_disowned {source : Json.Source} (h : Json.decode st source = .ok v)
    {s : Schema} (hs : ∀ d, ¬ s.Disowns v d) (repair : Bool) :
    (parse st repair s source).result = (s.check st.nesting v).result.map fun r => (r, []) := by
  have hrun := parse_document h s
  cases hc : (s.check st.nesting v).result with
  | ok r => exact parse_of_ok (hrun.trans hc)
  | error e =>
    refine parse_of_other (hrun.trans hc) fun d he => hs d ?_
    exact (Schema.check_invalidJson_iff (Json.decoded_of_decode h).shallow).1 (he ▸ hc)

theorem parse_of_disowned (h : Json.decode st (.text raw) = .ok v) {s : Schema} {d : Text}
    (hs : s.Disowns v d) :
    (s.check st.nesting v).result = .error (.failure (.invalidJson d)) ∧
    (parse st false s (.text raw)).result = .error (.failure (.invalidJson d)) ∧
    (parse st true s (.text raw)).result =
      match block raw with
      | .ok b => (s.parse st (.text b)).result.map fun r => (r, [.repaired])
      | .error _ => .error (.failure (.invalidJson d)) := by
  have hc := (Schema.check_invalidJson_iff (Json.decoded_of_decode h).shallow).2 hs
  have hrun := (parse_document h s).trans hc
  refine ⟨hc, parse_of_invalidJson hrun, (parse_of_invalidJson hrun).trans ?_⟩
  rw [retried?]
  cases block raw with
  | error e => rfl
  | ok b => rfl

/--
Parsing a reply that is JSON comes to the check of its value, repair or not, with one exception: when
the root's own rule raises that the text is no JSON and repair is wanted, the block of the reply, if
there is one, is parsed instead and the warning given.
-/
theorem parse_of_decode (h : Json.decode st (.text raw) = .ok v) (s : Schema) :
    ((∀ d, ¬ s.Disowns v d) → ∀ repair,
      (parse st repair s (.text raw)).result = (s.check st.nesting v).result.map fun r => (r, [])) ∧
    ∀ d, s.Disowns v d →
      (s.check st.nesting v).result = .error (.failure (.invalidJson d)) ∧
      (parse st false s (.text raw)).result = .error (.failure (.invalidJson d)) ∧
      (parse st true s (.text raw)).result =
        match block raw with
        | .ok b => (s.parse st (.text b)).result.map fun r => (r, [.repaired])
        | .error _ => .error (.failure (.invalidJson d)) :=
  ⟨fun hs => parse_of_not_disowned h hs, fun _ hs => parse_of_disowned h hs⟩

def Rule.onlyEmpty : Rule where
  label := "empty"
  test
    | .array [] => ⟨[], .ok true⟩
    | _ => ⟨[], .error (.failure (.invalidJson "not empty"))⟩

def emptyList : Schema := .array ⟨some Rule.onlyEmpty, false⟩ (.primitive .plain .string)

def emptyItems : Schema := .array .plain (.primitive ⟨some Rule.onlyEmpty, false⟩ .string)

def fencedItem : Value := .array [.string "\x60\x60\x60[]\x60\x60\x60"]

def fencedItemText : Text := "[\"\x60\x60\x60[]\x60\x60\x60\"]"

theorem depth_fencedItem : fencedItem.depth ≤ 1000 := by decide

theorem decode_fencedItemText :
    Json.decode ⟨false, 1000⟩ (.text fencedItemText) = .ok fencedItem := by
  have ht : Json.encode 1000 fencedItem = .ok fencedItemText := rfl
  exact Json.decode_strings (by decide) ["\x60\x60\x60[]\x60\x60\x60"] ht

theorem decode_emptyList : Json.decode ⟨false, 1000⟩ (.text "[]") = .ok (.array []) := by
  have ht : Json.encode 1000 (.array []) = .ok "[]" := rfl
  exact Json.decode_strings (by decide) [] ht

theorem block_fencedItemText : block fencedItemText = .ok "[]" := by
  have hnone : ¬ HoldsSection fencedItemText.trim := not_holdsSection (by decide)
  rw [block, dropReasoning_eq_self_iff.2 hnone]
  rfl

/-- The item's complaint comes up inside a failure of the item, and the block is not parsed. -/
theorem parse_emptyItems :
    Json.decode ⟨false, 1000⟩ (.text fencedItemText) = .ok fencedItem ∧
    (∀ d, ¬ emptyItems.Disowns fencedItem d) ∧ block fencedItemText = .ok "[]" ∧
    (parse ⟨false, 1000⟩ true emptyItems (.text fencedItemText)).result =
      .error (.failure (.atItem 0 (.invalidJson "not empty"))) := by
  have hd := decode_fencedItemText
  have hs : ∀ d, ¬ emptyItems.Disowns fencedItem d := by
    intro d h
    have hc := (Schema.check_invalidJson_iff depth_fencedItem).2 h
    cases hc
  exact ⟨hd, hs, block_fencedItemText, (parse_of_decode hd emptyItems).1 hs true⟩

/-- The reply is JSON and the check raises, and yet another document is parsed with a warning. -/
theorem schema_failure_repaired :
    ¬ ∀ (st : Json.Strictness) (s : Schema) (raw : Text) (v : Value),
      Json.decode st (.text raw) = .ok v →
        (parse st true s (.text raw)).result = (parse st false s (.text raw)).result := by
  intro h
  have hd := decode_fencedItemText
  have hs : emptyList.Disowns fencedItem "not empty" :=
    (Schema.check_invalidJson_iff depth_fencedItem).1 rfl
  obtain ⟨-, hfalse, htrue⟩ := parse_of_disowned hd hs
  have heq := h _ emptyList _ _ hd
  rw [hfalse, htrue, block_fencedItemText] at heq
  dsimp only at heq
  rw [parse_document decode_emptyList] at heq
  cases heq

end Reply

end ReplySchema
