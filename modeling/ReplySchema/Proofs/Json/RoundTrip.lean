import ReplySchema.Proofs.Json.Containers

/-!
Decoding undoes encoding. Whatever follows the text of a value, the scan of it stops at its end and
has read the value, tuples as lists; a strict scan stops at the first double that is not finite.
-/

namespace ReplySchema.Json

theorem array_append (ts : List Text) (r : Text) :
    ("[" ++ Text.join "," ts ++ "]" : Text) ++ r =
      ('[' : CodePoint) :: (Text.join "," ts ++ (']' : CodePoint) :: r) := by
  rw [List.append_assoc, List.append_assoc]
  rfl

theorem object_append (ts : List Text) (r : Text) :
    ("\x7b" ++ Text.join "," ts ++ "\x7d" : Text) ++ r =
      ('{' : CodePoint) :: (Text.join "," ts ++ ('}' : CodePoint) :: r) := by
  rw [List.append_assoc, List.append_assoc]
  rfl

section Containers

variable {st : Strictness} {depth : Nat}

theorem reads_array {items : List Value} (hv : ∀ v ∈ items, Reads st (scanValue st depth) v) :
    Reads st (scanValue st (depth + 1)) (.array items) := by
  intro limit t ht r hr
  obtain ⟨_, ts, -, hts, rfl⟩ := encode_array_ok ht
  rw [array_append, plain_scanValue_array, scanArray_append hv hts, Value.constant?_array,
    Value.listed, Value.listedItems_eq_map]

/-- A tuple has the text of the list of its items, and reads back as this list. -/
theorem reads_tuple {items : List Value} (h : Reads st (scanValue st depth) (.array items)) :
    Reads st (scanValue st depth) (.tuple items) := by
  intro limit t ht r hr
  rw [encode_tuple] at ht
  rw [h limit t ht r hr, Value.constant?_array, Value.constant?_tuple, Value.listed, Value.listed]

theorem reads_object {members : List (Text × Value)} (hk : (members.map Prod.fst).Nodup)
    (hv : ∀ m ∈ members, Reads st (scanValue st depth) m.2) :
    Reads st (scanValue st (depth + 1)) (.object members) := by
  intro limit t ht r hr
  obtain ⟨_, ts, -, hts, rfl⟩ := encode_object_ok ht
  rw [object_append, plain_scanValue_object, scanObject_append hv hk hts, Value.constant?_object,
    Value.listed, Value.listedMembers_eq_map]

end Containers

/-- Whatever follows the text of a value, the scan stops at its end and has read the value. -/
theorem reads_scanValue (st : Strictness) {depth : Nat} {v : Value} (hk : v.DistinctKeys)
    (hd : v.depth ≤ depth) : Reads st (scanValue st depth) v := by
  -- a container hands its elements one level less, so the depth goes along
  induction v using Value.nodes generalizing depth with
  | null =>
    intro limit t ht r hr
    cases ht
    simp [scanValue_null, Value.constant?, Value.parts, Value.ownConstant?, Value.listed,
      answer_none]
  | bool b =>
    intro limit t ht r hr
    cases ht
    simp [scanValue_bool, Value.constant?, Value.parts, Value.ownConstant?, Value.listed,
      answer_none]
  | int n =>
    intro limit t ht r hr
    obtain ⟨hn, rfl⟩ := encode_int_ok ht
    simp [scanValue_int st depth hn hr, Value.constant?, Value.parts, Value.ownConstant?,
      Value.listed, answer_none]
  | float x =>
    intro limit t ht r hr
    cases ht
    simp [scanValue_double st depth x hr, Value.constant?, Value.parts, Value.ownConstant?,
      Value.listed]
  | string t =>
    intro limit t ht r hr
    cases ht
    rw [printString_append, plain_scanValue_string,
      scanString_append (stringBody_flatMap_escape t)]
    simp [Value.constant?, Value.parts, Value.ownConstant?, Value.listed, answer_none, Except.map]
  | foreign f =>
    intro limit t ht
    cases ht
  | array items ih =>
    obtain ⟨hpos, hd⟩ := Value.depth_array_le_iff.1 hd
    obtain ⟨d, rfl⟩ := Nat.exists_eq_add_one.2 hpos
    exact reads_array fun v h => ih v h (hk.mono (Value.parts_subset_array h)) (hd v h)
  | tuple items ih =>
    obtain ⟨hpos, hd⟩ := Value.depth_tuple_le_iff.1 hd
    obtain ⟨d, rfl⟩ := Nat.exists_eq_add_one.2 hpos
    exact reads_tuple
      (reads_array fun v h => ih v h (hk.mono (Value.parts_subset_tuple h)) (hd v h))
  | object members ih =>
    obtain ⟨hpos, hd⟩ := Value.depth_object_le_iff.1 hd
    obtain ⟨d, rfl⟩ := Nat.exists_eq_add_one.2 hpos
    exact reads_object (hk.nodup members (Value.mem_parts_self _)) fun m h =>
      ih m h (hk.mono (Value.parts_subset_object h)) (hd m h)
  | mapping entries => exact absurd (Value.mem_parts_self _) (hk.strings entries)

/-- The values that have a text: those of the format, with short numbers, nested not too deeply. -/
structure Writable (limit : Nat) (v : Value) : Prop where
  known : ∀ f, .foreign f ∉ v.parts
  short : ∀ n, .int n ∈ v.parts → ¬ IsLong n
  distinct : v.DistinctKeys
  shallow : v.depth ≤ limit

theorem Writable.encodes {limit : Nat} {v : Value} (h : Writable limit v) :
    ∃ t, encode limit v = .ok t := by
  cases he : encode limit v with
  | ok t => exact ⟨t, rfl⟩
  | error e =>
    cases unprintable_of_error he with
    | foreign hf => exact absurd hf (h.known _)
    | long hl =>
      obtain ⟨n, hn, hl⟩ := hl
      exact absurd hl (h.short n hn)
    | key hm => exact absurd hm (h.distinct.strings _)
    | deep hd => exact absurd h.shallow (Nat.not_le.2 hd)

/-- The text decodes to the value it was made from, or to the constant that is refused. -/
theorem decode_of_encode (st : Strictness) {limit : Nat} {v : Value} (h : Writable st.nesting v)
    {t : Text} (ht : encode limit v = .ok t) :
    decode st (.text t) =
      match st.refuse v.constant? with
      | some name => .error (.constant name)
      | none => .ok v.listed := by
  have hopen := opens_of_encode ht
  have hread := reads_scanValue st h.distinct h.shallow limit t ht [] nofun
  rw [List.append_nil] at hread
  have hmark : t.head?.any CodePoint.isByteOrderMark = false := by
    obtain ⟨c, u, rfl, -, -, hc⟩ := hopen
    simpa using hc
  rw [decode, decodeText, hmark, if_neg (by decide), decodeUnmarked, scanDocument_eq,
    hopen.dropSpace, hread]
  cases st.refuse v.constant? with
  | some name => rfl
  | none => rfl

/--
Every writable value has a text. A lax decoder reads the value back from it, tuples as lists. So
does a strict one when all doubles are finite, and otherwise it names the first that is not.
-/
theorem decode_encode {limit : Nat} {v : Value} (h : Writable limit v) :
    ∃ t, encode limit v = .ok t ∧ decode ⟨true, limit⟩ (.text t) = .ok v.listed ∧
      ((∀ x, .float x ∈ v.parts → x.isFinite) → decode ⟨false, limit⟩ (.text t) = .ok v.listed) ∧
      ∀ before x after, v.parts = before ++ .float x :: after →
        (∀ y, .float y ∈ before → y.isFinite) → ¬ x.isFinite →
        ∃ e, decode ⟨false, limit⟩ (.text t) = .error e ∧
          e.message = doubleLayout.double x ++ " is not valid JSON" := by
  obtain ⟨t, ht⟩ := h.encodes
  refine ⟨t, ht, decode_of_encode ⟨true, limit⟩ h ht, fun hfin => ?_,
    fun before x after hp hb hx => ?_⟩
  · rw [decode_of_encode ⟨false, limit⟩ h ht, Value.constant?, Value.findSome?_ownConstant? hfin]
    rfl
  · rw [decode_of_encode ⟨false, limit⟩ h ht, Value.constant?_of_first hp hb hx]
    exact ⟨_, rfl, rfl⟩

def mixedMembers : List (Text × Value) :=
  [("b", .tuple [.string [0xD83D, 0xDE00, 0x22], .float (.finite true .zero), .int (-7)]),
    ("a", .array [.float .nan, .object [("b", .float (.infinity true))]])]

theorem parts_mixedMembers : (Value.object mixedMembers).parts =
    [.object mixedMembers,
      .tuple [.string [0xD83D, 0xDE00, 0x22], .float (.finite true .zero), .int (-7)],
      .string [0xD83D, 0xDE00, 0x22], .float (.finite true .zero), .int (-7),
      .array [.float .nan, .object [("b", .float (.infinity true))]]] ++
      .float .nan :: [.object [("b", .float (.infinity true))], .float (.infinity true)] := by
  simp [mixedMembers, Value.parts, Value.memberParts, Value.itemParts]

theorem decode_encode_mixedMembers :
    Writable 3 (.object mixedMembers) ∧ ∃ t, encode 3 (.object mixedMembers) = .ok t ∧
      decode ⟨true, 3⟩ (.text t) = .ok (Value.object mixedMembers).listed ∧
      ∃ e, decode ⟨false, 3⟩ (.text t) = .error e ∧ e.message = "NaN is not valid JSON" := by
  have hw : Writable 3 (.object mixedMembers) := by
    refine ⟨fun f => ?_, fun n hn => ?_, ⟨fun es => ?_, fun ms hm => ?_⟩, by decide⟩
    · rw [parts_mixedMembers]
      simp
    · rw [parts_mixedMembers] at hn
      obtain rfl : n = -7 := by simpa using hn
      rw [IsLong, Numeral.length, Numeral.ofNat_of_lt (by decide)]
      decide
    · rw [parts_mixedMembers]
      simp
    · rw [parts_mixedMembers] at hm
      obtain rfl | rfl :
          ms = mixedMembers ∨ ms = ([("b", .float (.infinity true))] : List (Text × Value)) := by
        simpa using hm
      · decide
      · decide
  obtain ⟨t, ht, hlax, -, hstrict⟩ := decode_encode hw
  refine ⟨hw, t, ht, hlax, hstrict _ _ _ parts_mixedMembers ?_ (by decide)⟩
  intro y hy
  obtain rfl : y = .finite true .zero := by simpa using hy
  rfl

end ReplySchema.Json
