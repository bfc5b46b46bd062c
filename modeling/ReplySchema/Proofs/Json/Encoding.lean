import ReplySchema.Proofs.Results
import ReplySchema.Proofs.Text.Numeral
import ReplySchema.Proofs.Value.Parts

/-!
What has a text. Printing fails on three kinds of part only, a value outside JSON, an integer with
too many digits and an object with a key that has no text, and on a value that nests too deeply; it
fails with the first of these. The limit makes no difference to the text of what nests within it.
-/

namespace ReplySchema.Json

def IsLong (n : Int) : Prop := maxIntegerDigits < Numeral.length n.natAbs

instance (n : Int) : Decidable (IsLong n) := inferInstanceAs (Decidable (_ < _))

theorem isLong_iff {n : Int} : IsLong n ↔ 10 ^ maxIntegerDigits ≤ n.natAbs := by
  obtain ⟨k, hk⟩ : ∃ k, maxIntegerDigits = k + 1 := ⟨4299, rfl⟩
  rw [IsLong, Numeral.length, hk, ← Nat.not_le, Numeral.length_ofNat_le_iff, Nat.not_lt]

theorem isLong_pow {k : Nat} (h : maxIntegerDigits ≤ k) : IsLong (10 ^ k) := by
  rw [isLong_iff, Int.natAbs_pow]
  exact Nat.pow_le_pow_right (by decide) h

theorem printInt_of_not_long {n : Int} (h : ¬ IsLong n) : printInt n = .ok (Numeral.ofInt n) :=
  if_neg h

theorem printInt_of_long {n : Int} (h : IsLong n) : printInt n = .error .longInteger :=
  if_pos h

section Equations

variable {limit : Nat}

theorem inside_ok {elements : Nat → Except EncodeError (List Text)} {ts : List Text}
    (h : inside limit elements = .ok ts) : ∃ d, limit = d + 1 ∧ elements d = .ok ts := by
  cases limit with
  | zero => cases h
  | succ d => exact ⟨d, rfl, h⟩

theorem inside_error {elements : Nat → Except EncodeError (List Text)} {e : EncodeError}
    (h : inside limit elements = .error e) :
    limit = 0 ∧ e = .tooDeep ∨ ∃ d, limit = d + 1 ∧ elements d = .error e := by
  cases limit with
  | zero =>
    cases h
    exact .inl ⟨rfl, rfl⟩
  | succ d => exact .inr ⟨d, rfl, h⟩

theorem encode_int_ok {n : Int} {t : Text} (h : encode limit (.int n) = .ok t) :
    ¬ IsLong n ∧ t = Numeral.ofInt n := by
  rw [encode] at h
  by_cases hn : IsLong n
  · rw [printInt_of_long hn] at h
    cases h
  · rw [printInt_of_not_long hn] at h
    cases h
    exact ⟨hn, rfl⟩

theorem encodeItems_cons_ok {v : Value} {vs : List Value} {ts : List Text}
    (h : encodeItems limit (v :: vs) = .ok ts) :
    ∃ t rest, encode limit v = .ok t ∧ encodeItems limit vs = .ok rest ∧ ts = t :: rest := by
  rw [encodeItems] at h
  obtain ⟨t, ht, h⟩ := bind_ok h
  obtain ⟨rest, hrest, h⟩ := bind_ok h
  cases h
  exact ⟨t, rest, ht, hrest, rfl⟩

theorem encodeMembers_cons_ok {k : Text} {v : Value} {ms : List (Text × Value)} {ts : List Text}
    (h : encodeMembers limit ((k, v) :: ms) = .ok ts) :
    ∃ t rest, encode limit v = .ok t ∧ encodeMembers limit ms = .ok rest ∧
      ts = (printString k ++ ":" ++ t) :: rest := by
  rw [encodeMembers] at h
  obtain ⟨t, ht, h⟩ := bind_ok h
  obtain ⟨rest, hrest, h⟩ := bind_ok h
  cases h
  exact ⟨t, rest, ht, hrest, rfl⟩

theorem encode_array_ok {items : List Value} {t : Text} (h : encode limit (.array items) = .ok t) :
    ∃ d ts, limit = d + 1 ∧ encodeItems d items = .ok ts ∧ t = "[" ++ Text.join "," ts ++ "]" := by
  rw [encode] at h
  obtain ⟨ts, hts, h⟩ := bind_ok h
  cases h
  obtain ⟨d, hd, hts⟩ := inside_ok hts
  exact ⟨d, ts, hd, hts, rfl⟩

theorem encode_tuple (limit : Nat) (items : List Value) :
    encode limit (.tuple items) = encode limit (.array items) := by
  rw [encode, encode]

theorem encode_object_ok {members : List (Text × Value)} {t : Text}
    (h : encode limit (.object members) = .ok t) :
    ∃ d ts, limit = d + 1 ∧ encodeMembers d members = .ok ts ∧
      t = "\x7b" ++ Text.join "," ts ++ "\x7d" := by
  rw [encode] at h
  obtain ⟨ts, hts, h⟩ := bind_ok h
  cases h
  obtain ⟨d, hd, hts⟩ := inside_ok hts
  exact ⟨d, ts, hd, hts, rfl⟩

theorem encodeItems_error {vs : List Value} {e : EncodeError}
    (h : encodeItems limit vs = .error e) : ∃ v ∈ vs, encode limit v = .error e := by
  induction vs with
  | nil => cases h
  | cons v vs ih =>
    rw [encodeItems] at h
    rcases bind_error h with hv | ⟨t, h⟩
    · exact ⟨v, List.mem_cons_self .., hv⟩
    · rcases bind_error h with hvs | ⟨ts, h⟩
      · obtain ⟨w, hw, he⟩ := ih hvs
        exact ⟨w, List.mem_cons_of_mem _ hw, he⟩
      · cases h

theorem encodeMembers_error {ms : List (Text × Value)} {e : EncodeError}
    (h : encodeMembers limit ms = .error e) : ∃ m ∈ ms, encode limit m.2 = .error e := by
  induction ms with
  | nil => cases h
  | cons m ms ih =>
    rw [encodeMembers] at h
    rcases bind_error h with hm | ⟨t, h⟩
    · exact ⟨m, List.mem_cons_self .., hm⟩
    · rcases bind_error h with hms | ⟨ts, h⟩
      · obtain ⟨n, hn, he⟩ := ih hms
        exact ⟨n, List.mem_cons_of_mem _ hn, he⟩
      · cases h

theorem encodeEntries_error {es : List (Value × Value)} {e : EncodeError}
    (h : encodeEntries limit es = .error e) :
    ∃ m ∈ es, keyText Value.qualifiedName m.1 = .error e ∨ encode limit m.2 = .error e := by
  induction es with
  | nil => cases h
  | cons m es ih =>
    rw [encodeEntries] at h
    rcases bind_error h with hk | ⟨key, h⟩
    · exact ⟨m, List.mem_cons_self .., .inl hk⟩
    rcases bind_error h with hm | ⟨t, h⟩
    · exact ⟨m, List.mem_cons_self .., .inr hm⟩
    · rcases bind_error h with hes | ⟨ts, h⟩
      · obtain ⟨n, hn, he⟩ := ih hes
        exact ⟨n, List.mem_cons_of_mem _ hn, he⟩
      · cases h

theorem encode_array_error {items : List Value} {e : EncodeError}
    (h : encode limit (.array items) = .error e) :
    limit = 0 ∧ e = .tooDeep ∨ ∃ d, limit = d + 1 ∧ ∃ v ∈ items, encode d v = .error e := by
  rw [encode] at h
  rcases bind_error h with hi | ⟨ts, h⟩
  · exact (inside_error hi).imp_right fun ⟨d, hd, he⟩ => ⟨d, hd, encodeItems_error he⟩
  · cases h

theorem encode_object_error {members : List (Text × Value)} {e : EncodeError}
    (h : encode limit (.object members) = .error e) :
    limit = 0 ∧ e = .tooDeep ∨ ∃ d, limit = d + 1 ∧ ∃ m ∈ members, encode d m.2 = .error e := by
  rw [encode] at h
  rcases bind_error h with hm | ⟨ts, h⟩
  · exact (inside_error hm).imp_right fun ⟨d, hd, he⟩ => ⟨d, hd, encodeMembers_error he⟩
  · cases h

theorem encode_mapping_error {entries : List (Value × Value)} {e : EncodeError}
    (h : encode limit (.mapping entries) = .error e) :
    limit = 0 ∧ e = .tooDeep ∨ ∃ d, limit = d + 1 ∧
      ∃ m ∈ entries, keyText Value.qualifiedName m.1 = .error e ∨ encode d m.2 = .error e := by
  rw [encode] at h
  rcases bind_error h with hm | ⟨ts, h⟩
  · exact (inside_error hm).imp_right fun ⟨d, hd, he⟩ => ⟨d, hd, encodeEntries_error he⟩
  · cases h

end Equations

def HoldsLong (v : Value) : Prop := ∃ n, .int n ∈ v.parts ∧ IsLong n

/-- Why printing `v` fails. -/
inductive Unprintable (limit : Nat) (v : Value) : EncodeError → Prop
  | foreign {f : Foreign} :
    .foreign f ∈ v.parts → Unprintable limit v (.notSerializable f.className)
  | long : HoldsLong v → Unprintable limit v .longInteger
  | key {entries : List (Value × Value)} {m : Value × Value} {e : EncodeError} :
    .mapping entries ∈ v.parts → m ∈ entries → keyText Value.qualifiedName m.1 = .error e →
      Unprintable limit v e
  | deep : limit < v.depth → Unprintable limit v .tooDeep

/-- What is wrong with a part is wrong with the value that holds it one level higher. -/
theorem Unprintable.outside {d : Nat} {v w : Value} {e : EncodeError} (hp : v.parts ⊆ w.parts)
    (hd : v.depth ≤ w.depth - 1) : Unprintable d v e → Unprintable (d + 1) w e
  | .foreign hf => .foreign (hp hf)
  | .long ⟨n, hn, hl⟩ => .long ⟨n, hp hn, hl⟩
  | .key hes hm he => .key (hp hes) hm he
  | .deep h => .deep (by omega)

theorem unprintable_of_error {limit : Nat} {v : Value} {e : EncodeError}
    (h : encode limit v = .error e) : Unprintable limit v e := by
  induction v using Value.nodes generalizing limit e with
  | null | bool | float | string => rw [encode] at h; cases h
  | foreign f =>
    rw [encode] at h
    cases h
    exact .foreign (Value.mem_parts_self _)
  | int n =>
    rw [encode] at h
    by_cases hn : IsLong n
    · rw [printInt_of_long hn] at h
      cases h
      exact .long ⟨n, Value.mem_parts_self _, hn⟩
    · rw [printInt_of_not_long hn] at h
      cases h
  | array items ih =>
    obtain ⟨hpos, hd⟩ := Value.depth_array_le_iff.1 (Nat.le_refl (Value.array items).depth)
    rcases encode_array_error h with ⟨rfl, rfl⟩ | ⟨d, rfl, v, hv, he⟩
    · exact .deep hpos
    · exact (ih v hv he).outside (Value.parts_subset_array hv) (hd v hv)
  | tuple items ih =>
    obtain ⟨hpos, hd⟩ := Value.depth_tuple_le_iff.1 (Nat.le_refl (Value.tuple items).depth)
    rw [encode_tuple] at h
    rcases encode_array_error h with ⟨rfl, rfl⟩ | ⟨d, rfl, v, hv, he⟩
    · exact .deep hpos
    · exact (ih v hv he).outside (Value.parts_subset_tuple hv) (hd v hv)
  | object members ih =>
    obtain ⟨hpos, hd⟩ := Value.depth_object_le_iff.1 (Nat.le_refl (Value.object members).depth)
    rcases encode_object_error h with ⟨rfl, rfl⟩ | ⟨d, rfl, m, hm, he⟩
    · exact .deep hpos
    · exact (ih m hm he).outside (Value.parts_subset_object hm) (hd m hm)
  | mapping entries ih =>
    obtain ⟨hpos, hd⟩ := Value.depth_mapping_le_iff.1 (Nat.le_refl (Value.mapping entries).depth)
    rcases encode_mapping_error h with ⟨rfl, rfl⟩ | ⟨d, rfl, m, hm, he | he⟩
    · exact .deep hpos
    · exact .key (Value.mem_parts_self _) hm he
    · exact (ih m hm he).outside (Value.parts_subset_mapping hm) (hd m hm)

section Parts

variable {limit : Nat}

theorem encode_mem_items {vs : List Value} {ts : List Text} (h : encodeItems limit vs = .ok ts) :
    ∀ v ∈ vs, ∃ t, encode limit v = .ok t := by
  induction vs generalizing ts with
  | nil => exact nofun
  | cons v vs ih =>
    obtain ⟨t, rest, ht, hrest, -⟩ := encodeItems_cons_ok h
    exact List.forall_mem_cons.2 ⟨⟨t, ht⟩, ih hrest⟩

theorem encode_mem_members {ms : List (Text × Value)} {ts : List Text}
    (h : encodeMembers limit ms = .ok ts) : ∀ m ∈ ms, ∃ t, encode limit m.2 = .ok t := by
  induction ms generalizing ts with
  | nil => exact nofun
  | cons m ms ih =>
    obtain ⟨t, rest, ht, hrest, -⟩ := encodeMembers_cons_ok h
    exact List.forall_mem_cons.2 ⟨⟨t, ht⟩, ih hrest⟩

theorem encode_mem_entries {es : List (Value × Value)} {ts : List Text}
    (h : encodeEntries limit es = .ok ts) : ∀ m ∈ es, ∃ t, encode limit m.2 = .ok t := by
  induction es generalizing ts with
  | nil => exact nofun
  | cons m es ih =>
    rw [encodeEntries] at h
    obtain ⟨key, -, h⟩ := bind_ok h
    obtain ⟨t, ht, h⟩ := bind_ok h
    obtain ⟨rest, hrest, -⟩ := bind_ok h
    exact List.forall_mem_cons.2 ⟨⟨t, ht⟩, ih hrest⟩

/-- Every part of what has a text has a text, where fewer levels may be left for it. -/
theorem encode_part {v w : Value} {t : Text} (h : encode limit v = .ok t) (hw : w ∈ v.parts) :
    ∃ d u, encode d w = .ok u := by
  refine Value.forall_mem_parts (motive := fun w => ∃ d u, encode d w = .ok u) ?_ ?_ ?_ ?_
    ⟨limit, t, h⟩ w hw
  · rintro items v ⟨_, u, hu⟩ hv
    obtain ⟨d, ts, -, hts, -⟩ := encode_array_ok hu
    exact ⟨d, encode_mem_items hts v hv⟩
  · rintro items v ⟨_, u, hu⟩ hv
    rw [encode_tuple] at hu
    obtain ⟨d, ts, -, hts, -⟩ := encode_array_ok hu
    exact ⟨d, encode_mem_items hts v hv⟩
  · rintro members m ⟨_, u, hu⟩ hm
    obtain ⟨d, ts, -, hts, -⟩ := encode_object_ok hu
    exact ⟨d, encode_mem_members hts m hm⟩
  · rintro entries m ⟨_, u, hu⟩ hm
    rw [encode] at hu
    obtain ⟨ts, hts, -⟩ := bind_ok hu
    obtain ⟨d, -, hts⟩ := inside_ok hts
    exact ⟨d, encode_mem_entries hts m hm⟩

theorem not_holdsLong_of_encode {v : Value} {t : Text} (h : encode limit v = .ok t) :
    ¬ HoldsLong v := by
  rintro ⟨n, hn, hl⟩
  obtain ⟨d, u, hu⟩ := encode_part h hn
  exact (encode_int_ok hu).1 hl

end Parts

section Limits

variable {d limit : Nat}

theorem encodeItems_eq_of_items {vs : List Value} (h : ∀ v ∈ vs, encode d v = encode limit v) :
    encodeItems d vs = encodeItems limit vs := by
  induction vs with
  | nil => rfl
  | cons v vs ih =>
    obtain ⟨hv, hvs⟩ := List.forall_mem_cons.1 h
    rw [encodeItems, encodeItems, hv, ih hvs]

theorem encodeMembers_eq_of_members {ms : List (Text × Value)}
    (h : ∀ m ∈ ms, encode d m.2 = encode limit m.2) :
    encodeMembers d ms = encodeMembers limit ms := by
  induction ms with
  | nil => rfl
  | cons m ms ih =>
    obtain ⟨hm, hms⟩ := List.forall_mem_cons.1 h
    rw [encodeMembers, encodeMembers, hm, ih hms]

theorem encodeEntries_eq_of_entries {es : List (Value × Value)}
    (h : ∀ m ∈ es, encode d m.2 = encode limit m.2) :
    encodeEntries d es = encodeEntries limit es := by
  induction es with
  | nil => rfl
  | cons m es ih =>
    obtain ⟨hm, hes⟩ := List.forall_mem_cons.1 h
    rw [encodeEntries, encodeEntries, hm, ih hes]

theorem inside_eq {elements : Nat → Except EncodeError (List Text)} (hd : 0 < d) (hl : 0 < limit)
    (h : elements (d - 1) = elements (limit - 1)) : inside d elements = inside limit elements := by
  obtain ⟨a, rfl⟩ := Nat.exists_eq_add_one.2 hd
  obtain ⟨b, rfl⟩ := Nat.exists_eq_add_one.2 hl
  exact h

/-- The limit makes no difference to the text of what nests within it. -/
theorem encode_eq_of_depth_le {v : Value} (hd : v.depth ≤ d) (hl : v.depth ≤ limit) :
    encode d v = encode limit v := by
  induction v using Value.nodes generalizing d limit with
  | null | bool | int | float | string | foreign => rw [encode, encode]
  | array items ih =>
    obtain ⟨hdpos, hditems⟩ := Value.depth_array_le_iff.1 hd
    obtain ⟨hlpos, hlitems⟩ := Value.depth_array_le_iff.1 hl
    rw [encode, encode, inside_eq hdpos hlpos
      (encodeItems_eq_of_items fun v hv => ih v hv (hditems v hv) (hlitems v hv))]
  | tuple items ih =>
    obtain ⟨hdpos, hditems⟩ := Value.depth_tuple_le_iff.1 hd
    obtain ⟨hlpos, hlitems⟩ := Value.depth_tuple_le_iff.1 hl
    rw [encode, encode, inside_eq hdpos hlpos
      (encodeItems_eq_of_items fun v hv => ih v hv (hditems v hv) (hlitems v hv))]
  | object members ih =>
    obtain ⟨hdpos, hdmembers⟩ := Value.depth_object_le_iff.1 hd
    obtain ⟨hlpos, hlmembers⟩ := Value.depth_object_le_iff.1 hl
    rw [encode, encode, inside_eq hdpos hlpos
      (encodeMembers_eq_of_members fun m hm => ih m hm (hdmembers m hm) (hlmembers m hm))]
  | mapping entries ih =>
    obtain ⟨hdpos, hdentries⟩ := Value.depth_mapping_le_iff.1 hd
    obtain ⟨hlpos, hlentries⟩ := Value.depth_mapping_le_iff.1 hl
    rw [encode, encode, inside_eq hdpos hlpos
      (encodeEntries_eq_of_entries fun m hm => ih m hm (hdentries m hm) (hlentries m hm))]

end Limits

end ReplySchema.Json
