import ReplySchema.Proofs.Schema.Depth
import ReplySchema.Proofs.Schema.Gating
import ReplySchema.Proofs.Schema.Reports

/-!
Parsing is safe. Whatever a check assembles from a decoded value holds only strings, numbers and
truth values that the decoded value held, so it has a text, and a failure that shows it can be made.
So where rules answer, a parse returns a value or raises a failure, whatever it is given to parse.
-/

namespace ReplySchema

namespace Schema

/-- A part of what is kept is a part of the value, unless it is a list or an object. -/
theorem mem_parts_of_project {s : Schema} {v w : Value} (ha : ∀ vs, w ≠ .array vs)
    (ho : ∀ ms, w ≠ .object ms) (h : w ∈ (s.project v).parts) : w ∈ v.parts := by
  induction s using nodes generalizing v with
  | primitive m k =>
    rw [project] at h
    exact h
  | array m item ih =>
    cases v with
    | array vs =>
      rw [project, Value.parts_array] at h
      rcases List.mem_cons.1 h with rfl | h
      · exact absurd rfl (ha _)
      · obtain ⟨r, hr, h⟩ := List.mem_flatMap.1 h
        obtain ⟨u, hu, rfl⟩ := List.mem_map.1 hr
        exact Value.parts_subset_array hu (ih h)
    | _ =>
      rw [project] at h
      · exact h
      · rintro _ ⟨⟩
  | object m fields ih =>
    rw [project] at h
    cases hv : v.members? with
    | some ms =>
      rw [hv, Value.parts_object] at h
      rcases List.mem_cons.1 h with rfl | h
      · exact absurd rfl (ho _)
      · obtain ⟨e, he, h⟩ := List.mem_flatMap.1 h
        obtain ⟨child, u, hc, hu, hp⟩ := mem_projectFields he
        rw [hp] at h
        exact Value.parts_subset_members hv (find?_mem hu) (ih _ hc h)
    | none =>
      rw [hv] at h
      exact h

section Decoded

variable {st : Json.Strictness} {depth : Nat} {s : Schema} {v : Value}

/-- What is kept of a decoded value has a text. -/
theorem exists_text_of_project (s : Schema) (h : Json.Decoded st depth v) :
    ∃ t, Json.encode depth (s.project v) = .ok t := by
  cases he : Json.encode depth (s.project v) with
  | ok t => exact ⟨t, rfl⟩
  | error e =>
    cases Json.unprintable_of_error he with
    | @foreign f hf =>
      have hmem : .foreign f ∈ v.parts := mem_parts_of_project nofun nofun hf
      exact absurd (h.sound _ hmem) id
    | @key entries _ _ hm =>
      have hmem : .mapping entries ∈ v.parts := mem_parts_of_project nofun nofun hm
      exact absurd (h.sound _ hmem) id
    | long hlong =>
      obtain ⟨n, hn, hlong⟩ := hlong
      have hmem : .int n ∈ v.parts := mem_parts_of_project nofun nofun hn
      exact absurd hlong (h.sound _ hmem)
    | deep hdeep => exact absurd (depth_project_le_depth h.shallow) (Nat.not_le.2 hdeep)

/-- Whatever a rule is asked about, on the way through a decoded value, has a text. -/
theorem exists_text_of_call (h : Json.Decoded st depth v) {c : Call}
    (hc : c ∈ (s.check depth v).calls) : ∃ t, Json.encode depth c.value = .ok t := by
  obtain ⟨earlier, later, hsplit⟩ := List.append_of_mem hc
  obtain ⟨before, x, after, hx, -, -, hcall, -⟩ := (follows_check depth s v).asked hsplit
  obtain ⟨u, rule, hu, -, -, rfl⟩ := Visit.call?_eq_some hcall
  have hmem : x ∈ s.visits v := by
    rw [hx]
    exact List.mem_append_right before (List.mem_cons_self ..)
  have hpart : u ∈ v.parts := Value.mem_parts_of_at? ((visited_of_mem hmem).reaches.2 u hu)
  exact exists_text_of_project x.node (h.mono hpart)

/-- A check of a decoded value that does not return raises a failure. -/
theorem exists_failure_of_error (ha : s.RulesAnswer) (h : Json.Decoded st depth v) {e : Raised}
    (he : (s.check depth v).result = .error e) : ∃ f, e = .failure f := by
  rw [check_result] at he
  cases hfs : s.failures depth v with
  | nil =>
    rw [hfs] at he
    cases he
  | cons x xs =>
    rw [hfs] at he
    cases he
    have hx : s.Located depth v x := located_of_mem_failures (hfs ▸ List.mem_cons_self ..)
    rcases failure_or_fault_of_located ha hx with hf | ⟨-, n, u, a, -, hu, ha, -, hlong⟩ |
      ⟨-, hlength, n, u, -, hu, -, hdeep⟩
    · exact hf
    · obtain ⟨-, rfl⟩ := failures_of_conforms ha (Nat.le_refl a.depth)
      rw [project_bare] at hlong
      obtain ⟨t, ht⟩ := exists_text_of_project n (h.mono (Value.mem_parts_of_at? hu))
      exact absurd hlong (Json.not_holdsLong_of_encode ht)
    · have hshallow : u.depth ≤ 0 :=
        Value.depth_at?_le hu (by rw [hlength, Nat.zero_add]; exact h.shallow)
      exact absurd (depth_project_le_depth hshallow) (Nat.not_le.2 hdeep)

end Decoded

/--
Where rules answer, parsing returns a value or raises a failure, for every text, all bytes and what is
neither, strictly or not; and all that a rule is asked about, and may be shown by the failure that
refuses it, has a text.
-/
theorem parse_returns_or_fails {s : Schema} (ha : s.RulesAnswer) (st : Json.Strictness)
    (source : Json.Source) :
    ((∃ r, (s.parse st source).result = .ok r) ∨
      ∃ f, (s.parse st source).result = .error (.failure f)) ∧
    ∀ c ∈ (s.parse st source).calls, ∃ t, Json.encode st.nesting c.value = .ok t := by
  unfold parse
  cases hd : Json.decode st source with
  | error e => exact ⟨.inr ⟨.invalidJson e.message, rfl⟩, nofun⟩
  | ok v =>
    have hv := Json.decoded_of_decode hd
    refine ⟨?_, fun c => exists_text_of_call hv⟩
    dsimp only
    cases hr : (s.check st.nesting v).result with
    | ok r => exact .inl ⟨r, rfl⟩
    | error e =>
      obtain ⟨f, rfl⟩ := exists_failure_of_error ha hv hr
      exact .inr ⟨f, rfl⟩

def longestNumber : Int := longNumber - 1

theorem not_isLong_longestNumber : ¬ Json.IsLong longestNumber := by
  have hlong : longNumber = ((10 ^ Json.maxIntegerDigits : Nat) : Int) :=
    (Int.natCast_pow 10 Json.maxIntegerDigits).symm
  have hpos : 0 < 10 ^ Json.maxIntegerDigits := Nat.pow_pos (by decide)
  rw [Json.isLong_iff, longestNumber, hlong]
  generalize 10 ^ Json.maxIntegerDigits = limit at hpos
  omega

theorem writable_longestNumber : Json.Writable 1000 (.int longestNumber) := by
  have hparts : (Value.int longestNumber).parts = [.int longestNumber] := by simp [Value.parts]
  refine ⟨fun f => ?_, fun n hn => ?_, ⟨fun es => ?_, fun ms hm => ?_⟩, by simp [Value.depth]⟩
  · simp [hparts]
  · have hlongest : n = longestNumber := by simpa [hparts] using hn
    rw [hlongest]
    exact not_isLong_longestNumber
  · simp [hparts]
  · simp [hparts] at hm

/-- No number is right, and the longest one is refused like any other. -/
theorem parse_longestNumber :
    noNumber.RulesAnswer ∧ ∃ t, Json.encode 1000 (.int longestNumber) = .ok t ∧
      ∃ f, (noNumber.parse ⟨false, 1000⟩ (.text t)).result = .error (.failure f) := by
  have ha : noNumber.RulesAnswer := by
    intro rule hr v
    cases List.mem_singleton.1 hr
    exact ⟨false, rfl⟩
  obtain ⟨t, ht⟩ := writable_longestNumber.encodes
  refine ⟨ha, t, ht, ?_⟩
  obtain ⟨⟨r, hr⟩ | hf, -⟩ := parse_returns_or_fails ha ⟨false, 1000⟩ (.text t)
  · obtain ⟨w, -, hw⟩ := parse_ok hr
    rw [check_result, outcome_eq_ok_iff] at hw
    obtain ⟨-, happroves⟩ := failures_primitive_eq_nil_iff.1 hw.1
    cases happroves .never rfl
  · exact hf

end Schema

end ReplySchema
