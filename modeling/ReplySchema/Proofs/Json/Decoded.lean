import ReplySchema.Proofs.Json.Pieces
import ReplySchema.Proofs.Json.RoundTrip

/-!
What decoding yields. A decoded value and all its parts are of the format, with short integers, with
keys that differ, with finite doubles when decoding is strict, and nested within the limit; so each
part has a text, and the text decodes to the part.
-/

namespace ReplySchema

namespace Json

theorem Literal.Spells.isDigits {l : Literal} {t : Text} (h : l.Spells t) : l.whole.IsDigits := by
  obtain ⟨hw, -, -⟩ := h
  exact isDigits_of_isWhole hw

/-- No integer literal within the limit denotes a long integer. -/
theorem Literal.not_isLong_toInt {l : Literal} (hd : l.whole.IsDigits)
    (hs : l.whole.length ≤ maxIntegerDigits) : ¬ IsLong l.toInt := by
  have habs : l.toInt.natAbs = Numeral.toNat l.whole := by
    rw [toInt]
    split
    · rw [Int.natAbs_neg, Int.natAbs_natCast]
    · rw [Int.natAbs_natCast]
  rw [isLong_iff, habs, Nat.not_le]
  exact Nat.lt_of_lt_of_le (Numeral.toNat_lt hd)
    (Nat.pow_le_pow_right (by decide) hs)

/-- What a decoded value may be, apart from what it holds. -/
def Sound (st : Strictness) : Value → Prop
  | .int n => ¬ IsLong n
  | .float x => st.allowNan = false → x.isFinite
  | .object members => (members.map Prod.fst).Nodup
  | .mapping _ | .tuple _ | .foreign _ => False
  | _ => True

/-- What decoding yields, nested at most `depth` deep. -/
structure Decoded (st : Strictness) (depth : Nat) (v : Value) : Prop where
  sound : ∀ w ∈ v.parts, Sound st w
  shallow : v.depth ≤ depth

section Decoding

variable {st : Strictness} {depth : Nat}

theorem Decoded.leaf {v : Value} (hp : v.parts = [v]) (hd : v.depth = 0) (hs : Sound st v) :
    Decoded st depth v := by
  refine ⟨fun w hw => ?_, hd ▸ Nat.zero_le _⟩
  rw [hp] at hw
  rw [List.mem_singleton.1 hw]
  exact hs

theorem Decoded.array {vs : List Value} (h : ∀ v ∈ vs, Decoded st depth v) :
    Decoded st (depth + 1) (.array vs) := by
  have hd : (Value.array vs).depth ≤ depth + 1 :=
    Value.depth_array_le_iff.2 ⟨Nat.succ_pos _, fun v hv => (h v hv).shallow⟩
  refine ⟨fun w hw => ?_, hd⟩
  rw [Value.parts_array] at hw
  rcases List.mem_cons.1 hw with rfl | hw
  · trivial
  · obtain ⟨v, hv, hw⟩ := List.mem_flatMap.1 hw
    exact (h v hv).sound w hw

theorem Decoded.object {ms : List (Text × Value)} (hk : (ms.map Prod.fst).Nodup)
    (h : ∀ m ∈ ms, Decoded st depth m.2) : Decoded st (depth + 1) (.object ms) := by
  have hd : (Value.object ms).depth ≤ depth + 1 :=
    Value.depth_object_le_iff.2 ⟨Nat.succ_pos _, fun m hm => (h m hm).shallow⟩
  refine ⟨fun w hw => ?_, hd⟩
  rw [Value.parts_object] at hw
  rcases List.mem_cons.1 hw with rfl | hw
  · exact hk
  · obtain ⟨m, hm, hw⟩ := List.mem_flatMap.1 hw
    exact (h m hm).sound w hw

theorem Scalar.decoded {t : Text} {v : Value} (h : Scalar st t v) : Decoded st depth v := by
  cases h with
  | null | bool | string => exact .leaf (by simp [Value.parts]) (by simp [Value.depth]) trivial
  | integer h _ hs =>
    exact .leaf (by simp [Value.parts]) (by simp [Value.depth])
      (Literal.not_isLong_toInt h.isDigits hs)
  | double _ _ hx =>
    refine .leaf (by simp [Value.parts]) (by simp [Value.depth]) fun hst => hx.resolve_right ?_
    rw [hst]
    decide
  | constant _ hst =>
    exact .leaf (by simp [Value.parts]) (by simp [Value.depth])
      fun hf => absurd (hst.symm.trans hf) (by decide)

theorem Denotes.decoded {t : Text} {v : Value} (h : Denotes st depth t v) : Decoded st depth v := by
  induction depth generalizing t v with
  | zero => exact Scalar.decoded h
  | succ depth ih =>
    rcases h with h | ⟨ha⟩ | ⟨ho, hk⟩
    · exact h.decoded
    · refine .array fun v hv => ?_
      obtain ⟨u, hu, -⟩ := ha.exists_part hv
      exact ih hu
    · refine .object hk.nodup fun m hm => ?_
      obtain ⟨_, ⟨-, -, -, hvalue⟩, -⟩ := ho.exists_part (hk.mem hm)
      exact ih hvalue

theorem Document.decoded {s : Text} {v : Value} (h : Document st s v) :
    Decoded st st.nesting v := by
  obtain ⟨-, h, -⟩ := h
  exact h.decoded

theorem decoded_of_decode {source : Source} {v : Value} (h : decode st source = .ok v) :
    Decoded st st.nesting v := by
  cases source with
  | text s =>
    rw [decode, decodeText] at h
    split at h
    · cases h
    · exact (decodeUnmarked_eq_ok_iff.1 h).decoded
  | bytes bs =>
    rw [decode, decodeBytes] at h
    split at h
    · exact (decodeUnmarked_eq_ok_iff.1 h).decoded
    · cases h
  | other className => cases h

theorem Decoded.mono {v w : Value} (h : Decoded st depth v) (hw : w ∈ v.parts) :
    Decoded st depth w :=
  ⟨fun u hu => h.sound u (Value.parts_subset_of_mem hw hu), Value.depth_le_of_mem h.shallow hw⟩

theorem Decoded.deeper {v : Value} {limit : Nat} (h : Decoded st depth v) (hd : depth ≤ limit) :
    Decoded st limit v :=
  ⟨h.sound, Nat.le_trans h.shallow hd⟩

theorem Decoded.not_foreign {v : Value} (h : Decoded st depth v) (f : Foreign) :
    v ≠ .foreign f := by
  rintro rfl
  exact h.sound _ (Value.mem_parts_self _)

/-- In a document only objects with string keys have members. -/
theorem Decoded.eq_object {v : Value} {ms : List (Text × Value)} (h : Decoded st depth v)
    (hms : v.members? = some ms) : v = .object ms := by
  cases v with
  | object members =>
    cases hms
    rfl
  | mapping entries => exact absurd (h.sound _ (Value.mem_parts_self _)) id
  | _ => cases hms

theorem Decoded.of_item {vs : List Value} (h : Decoded st depth (.array vs)) {v : Value}
    (hv : v ∈ vs) : Decoded st (depth - 1) v := by
  have hd := (Value.depth_array_le_iff.1 h.shallow).2 v hv
  exact ⟨fun w hw => h.sound w (Value.parts_subset_array hv hw), hd⟩

theorem Decoded.of_member {ms : List (Text × Value)} (h : Decoded st depth (.object ms))
    {m : Text × Value} (hm : m ∈ ms) : Decoded st (depth - 1) m.2 := by
  have hd := (Value.depth_object_le_iff.1 h.shallow).2 m hm
  exact ⟨fun w hw => h.sound w (Value.parts_subset_object hm hw), hd⟩

theorem Decoded.of_at? {v u : Value} {p : Path} (h : Decoded st (depth + p.length) v)
    (hu : v.at? p = some u) : Decoded st depth u :=
  ⟨(h.mono (Value.mem_parts_of_at? hu)).sound, Value.depth_at?_le hu h.shallow⟩

theorem Decoded.writable {v : Value} (h : Decoded st depth v) : Writable depth v where
  known _ hf := h.sound _ hf
  short _ hn := h.sound _ hn
  distinct := ⟨fun _ hm => h.sound _ hm, fun _ hm => h.sound _ hm⟩
  shallow := h.shallow

theorem Decoded.refuse_constant? {v : Value} (h : Decoded st depth v) :
    st.refuse v.constant? = none := by
  cases hst : st.allowNan with
  | true => rw [Strictness.refuse, hst, if_pos rfl]
  | false =>
    rw [Value.constant?, Value.findSome?_ownConstant? fun x hx => h.sound _ hx hst,
      Strictness.refuse_none]

theorem Decoded.listed_eq {v : Value} (h : Decoded st depth v) : v.listed = v := by
  induction v using Value.nodes with
  | null | bool | int | float | string | foreign => simp [Value.listed]
  | mapping | tuple => exact absurd (h.sound _ (Value.mem_parts_self _)) id
  | array items ih =>
    have hitems : ∀ v ∈ items, v.listed = v := fun v hv =>
      ih v hv (h.mono (Value.parts_subset_array hv (Value.mem_parts_self v)))
    rw [Value.listed, Value.listedItems_eq_map, List.map_congr_left hitems, List.map_id']
  | object members ih =>
    have hmembers : ∀ m ∈ members, (m.1, m.2.listed) = m := fun m hm =>
      congrArg (m.1, ·) (ih m hm (h.mono (Value.parts_subset_object hm (Value.mem_parts_self m.2))))
    rw [Value.listed, Value.listedMembers_eq_map, List.map_congr_left hmembers, List.map_id']

/-- The text of a value without doubles that are not finite decodes to it, however strictly. -/
theorem Decoded.decode_text {v : Value} {limit : Nat} (st' : Strictness)
    (h : Decoded st st'.nesting v) (hx : ∀ x, .float x ∈ v.parts → x.isFinite) {t : Text}
    (ht : encode limit v = .ok t) : decode st' (.text t) = .ok v := by
  rw [decode_of_encode st' h.writable ht, Value.constant?, Value.findSome?_ownConstant? hx,
    Strictness.refuse_none, h.listed_eq]

/-- Every part of a decoded value has a text, and the text decodes to that part. -/
theorem Decoded.reads_back {v w : Value} (h : Decoded st depth v) (hd : depth ≤ st.nesting)
    (hw : w ∈ v.parts) : ∃ t, encode depth w = .ok t ∧ decode st (.text t) = .ok w := by
  have hdecoded := h.mono hw
  obtain ⟨t, ht⟩ := hdecoded.writable.encodes
  refine ⟨t, ht, ?_⟩
  rw [decode_of_encode st (hdecoded.deeper hd).writable ht, hdecoded.refuse_constant?,
    hdecoded.listed_eq]

end Decoding

theorem decoded_strings (st : Strictness) (depth : Nat) (ts : List Text) :
    Decoded st (depth + 1) (.array (ts.map .string)) := by
  have hitems : ∀ v ∈ ts.map Value.string, Decoded st depth v := by
    intro v hv
    obtain ⟨t, -, rfl⟩ := List.mem_map.1 hv
    exact .leaf (by simp [Value.parts]) (by simp [Value.depth]) trivial
  exact .array hitems

theorem decode_strings {st : Strictness} (hn : 0 < st.nesting) (ts : List Text) {limit : Nat}
    {t : Text} (ht : encode limit (.array (ts.map .string)) = .ok t) :
    decode st (.text t) = .ok (.array (ts.map .string)) := by
  have hdecoded : Decoded st st.nesting (.array (ts.map .string)) :=
    Nat.sub_add_cancel hn ▸ decoded_strings st (st.nesting - 1) ts
  refine hdecoded.decode_text st (fun x hx => ?_) ht
  rw [Value.parts_array] at hx
  simp [Value.parts] at hx

end Json

end ReplySchema
