import ReplySchema.Proofs.Json.Elements

/-!
Decoding accepts the documents of the grammar and no other text. What a scan has read begins the
text as the grammar says, and a text of the grammar is read to its end from in front of anything that
a number could not go on with. The elements of containers are settled before, so each direction is
one induction on how deep containers may be nested.
-/

namespace ReplySchema.Json

variable {st : Strictness} {depth : Nat} {s t r : Text} {v : Value}

/-- Keeping the last of several members with one name builds the object that the grammar asks for. -/
theorem objectOf_eq_iff {members kept : List (Text × Value)} :
    objectOf members = .object kept ↔ Keeps members kept := by
  have hvalues (k : Text) : find? k (members.foldl (fun ms m => assign m.1 m.2 ms) []) =
      find? k members.reverse := by
    rw [find?_foldl_assign, find?, Option.or_none]
  have hnames := keys_foldl_assign members
  constructor
  · intro h
    cases h
    exact ⟨hnames, hvalues⟩
  · rintro ⟨hn, hv⟩
    rw [objectOf, eq_of_find?_eq (nodup_keys_foldl_assign members) (hnames.trans hn.symm)]
    intro k
    rw [hvalues, hv]

section Scalars

theorem mem_of_scanWord? {α : Type} {s word r : Text} {a : α} {ws : List (Text × α)}
    (h : scanWord? s ws = some (word, a, r)) : (word, a) ∈ ws := by
  induction ws with
  | nil => cases h
  | cons w ws ih =>
    rw [scanWord?] at h
    split at h
    · cases h
      exact List.mem_cons_self ..
    · exact List.mem_cons_of_mem _ (ih h)

theorem eq_append_of_scanWord? {α : Type} {word : Text} {a : α} {ws : List (Text × α)}
    (h : scanWord? s ws = some (word, a, r)) : s = word ++ r := by
  induction ws with
  | nil => cases h
  | cons w ws ih =>
    rw [scanWord?] at h
    split at h
    · rename_i hr
      cases h
      exact Text.dropLead?_eq_some_iff.1 hr
    · exact ih h

theorem scalar_of_words {word : Text} (h : (word, v) ∈ words) : Scalar st word v := by
  simp only [words, List.mem_cons, List.not_mem_nil, or_false, Prod.mk.injEq] at h
  rcases h with ⟨rfl, rfl⟩ | ⟨rfl, rfl⟩ | ⟨rfl, rfl⟩
  · exact .null
  · exact .bool true
  · exact .bool false

theorem scalar_of_scanNumber (h : (scanNumber st s).plain = .ok (v, r)) :
    ∃ t, s = t ++ r ∧ Scalar st t v := by
  rw [plain_scanNumber] at h
  split at h
  · cases h
  · rename_i l u hl
    obtain ⟨t, ht, hspells⟩ := Literal.spells_of_scan? hl
    split at h
    · rename_i hf
      split at h
      · rename_i hx
        cases h
        exact ⟨t, ht, .double hspells hf (Bool.or_eq_true_iff.1 hx)⟩
      · cases h
    · rename_i hf
      split at h
      · cases h
      · rename_i hs
        cases h
        exact ⟨t, ht, .integer hspells hf (Nat.not_lt.1 hs)⟩

theorem scalar_of_scanScalar (h : (scanScalar st s).plain = .ok (v, r)) :
    ∃ t, s = t ++ r ∧ Scalar st t v := by
  rw [plain_scanScalar] at h
  split at h
  · rename_i word w u hw
    cases h
    exact ⟨word, eq_append_of_scanWord? hw, scalar_of_words (mem_of_scanWord? hw)⟩
  · split at h
    · rename_i name x u hc
      split at h
      · rename_i hst
        cases h
        exact ⟨name, eq_append_of_scanWord? hc, .constant (mem_of_scanWord? hc) hst⟩
      · cases h
    · exact scalar_of_scanNumber h

theorem constant_eq {x : Double} (h : (t, x) ∈ constants) : t = doubleLayout.double x := by
  simp only [constants, List.mem_cons, List.not_mem_nil, or_false, Prod.mk.injEq] at h
  rcases h with ⟨rfl, rfl⟩ | ⟨rfl, rfl⟩ | ⟨rfl, rfl⟩ <;> rfl

theorem Scalar.opens (h : Scalar st t v) : Opens t := by
  cases h with
  | null => exact ⟨_, _, rfl, by decide⟩
  | bool b => cases b <;> exact ⟨_, _, rfl, by decide⟩
  | integer h => exact h.opensScalar.opens
  | double h => exact h.opensScalar.opens
  | string h =>
    obtain ⟨-⟩ := h
    exact ⟨_, _, rfl, by decide⟩
  | constant h =>
    rw [constant_eq h]
    exact (opensScalar_double _).opens

theorem Scalar.scanValue (h : Scalar st t v) (depth : Nat) (hr : Literal.Stops r) :
    (scanValue st depth (t ++ r)).plain = .ok (v, r) := by
  cases h with
  | null => exact scanValue_null st depth r
  | bool b => exact scanValue_bool st depth b r
  | integer h hf hs =>
    rw [plain_scanValue_of_scalar h.opensScalar, h.plain_scanScalar hr, if_neg hf,
      if_neg (Nat.not_lt.2 hs)]
  | double h hf hx =>
    rw [plain_scanValue_of_scalar h.opensScalar, h.plain_scanScalar hr, if_pos hf,
      if_pos (Bool.or_eq_true_iff.2 hx)]
  | string h =>
    obtain @⟨b, _, hbody⟩ := h
    rw [quoted_append, plain_scanValue_string, scanString_append hbody]
    rfl
  | constant h hst =>
    rw [constant_eq h, scanValue_double st depth _ hr, Strictness.refuse, if_pos hst]
    rfl

end Scalars

section Values

theorem Denotes.scalar (h : Scalar st t v) (depth : Nat) : Denotes st depth t v := by
  cases depth with
  | zero => exact h
  | succ d => exact .inl h

theorem Denotes.opens (h : Denotes st depth t v) : Opens t := by
  cases depth with
  | zero => exact Scalar.opens h
  | succ d =>
    rcases h with h | ⟨⟨-⟩ | ⟨-⟩⟩ | ⟨⟨-⟩ | ⟨-⟩, -⟩
    · exact h.opens
    · exact ⟨_, _, rfl, by decide⟩
    · exact ⟨_, _, rfl, by decide⟩
    · exact ⟨_, _, rfl, by decide⟩
    · exact ⟨_, _, rfl, by decide⟩

theorem Denotes.starts (t : Text) (v : Value) (h : Denotes st depth t v) : Starts ']' t := by
  obtain ⟨c, u, ht, hc, hne, -⟩ := h.opens
  exact ⟨c, u, ht, hc, hne⟩

/-- What a scan has read of a text begins it and denotes the value. -/
theorem consumes_scanValue (st : Strictness) (depth : Nat) :
    Consumes (Denotes st depth) fun s => (scanValue st depth s).plain := by
  intro s v r h
  dsimp only at h
  cases s with
  | nil =>
    rw [plain_scanValue_nil] at h
    cases h
  | cons c t =>
    by_cases hquote : c = '"'
    · subst hquote
      rw [plain_scanValue_string] at h
      cases hs : scanString ('"' :: t) [] t with
      | error e =>
        rw [hs] at h
        cases h
      | ok p =>
        obtain ⟨x, u⟩ := p
        rw [hs] at h
        cases h
        obtain ⟨b, y, rfl, hbody, hx⟩ := stringBody_of_scanString hs
        refine ⟨_, (quoted_append b r).symm, .scalar (.string ?_) depth⟩
        rw [hx]
        exact .mk hbody
    · by_cases hopen : c = '[' ∨ c = '{'
      · cases depth with
        | zero =>
          rw [plain_scanValue_tooDeep _ _ hopen] at h
          cases h
        | succ depth =>
          have ih := consumes_scanValue st depth
          rcases hopen with rfl | rfl
          · rw [plain_scanValue_array, plain_scanArray] at h
            obtain ⟨t, vs, ht, hvs, rfl⟩ :=
              enclosed_of_readOpened (f := Value.array) '[' (lists_scanItems _) ih h
            exact ⟨t, ht, .inr (.array hvs)⟩
          · rw [plain_scanValue_object, plain_scanObject] at h
            obtain ⟨t, ms, ht, hms, rfl⟩ :=
              enclosed_of_readOpened (f := objectOf) '{' (lists_scanMembers _)
                (consumes_readMember ih) h
            exact ⟨t, ht, .inr (.object hms (objectOf_eq_iff.1 rfl))⟩
      · obtain ⟨hbracket, hbrace⟩ := not_or.1 hopen
        rw [plain_scanValue_scalar _ _ _ hquote hbracket hbrace] at h
        obtain ⟨t, ht, hscalar⟩ := scalar_of_scanScalar h
        exact ⟨t, ht, .scalar hscalar depth⟩

/-- A text that denotes a value is read to its end. -/
theorem covers_scanValue (st : Strictness) (depth : Nat) :
    Covers (Denotes st depth) fun s => (scanValue st depth s).plain := by
  induction depth with
  | zero =>
    intro t v h r hr
    exact Scalar.scanValue h 0 hr
  | succ depth ih =>
    intro t v h r hr
    dsimp only
    rcases h with h | @⟨vs, h⟩ | @⟨ms, kept, h, hk⟩
    · exact h.scanValue (depth + 1) hr
    · obtain ⟨x, hx, hread⟩ := readOpened_of_enclosed (lists_scanItems _) closes_bracket ih
        Denotes.starts h (.malformed .expectingValue []) Value.array r
      rw [hx, plain_scanValue_array, plain_scanArray]
      exact hread
    · obtain ⟨x, hx, hread⟩ := readOpened_of_enclosed (lists_scanMembers _) closes_brace
        (covers_readMember Denotes.starts ih) (fun _ _ => Member.starts) h
        (.malformed .expectingName []) objectOf r
      rw [hx, plain_scanValue_object, plain_scanObject]
      exact hread.trans (by rw [objectOf_eq_iff.2 hk])

end Values

section Documents

theorem document_iff_scanDocument :
    Document st s v ↔ scanDocument st s = .ok v := by
  rw [scanDocument_eq]
  constructor
  · rintro @⟨before, t, after, _, hb, h, ha⟩
    have hstops : Literal.Stops after := by
      rw [← List.append_nil after]
      exact ha.stops nofun
    have hread := covers_scanValue st st.nesting t v h after hstops
    dsimp only at hread
    have hend : dropSpace after = [] := by
      rw [← List.append_nil after]
      exact ha.dropSpace []
    rw [hb.dropSpace, (h.opens.append after).dropSpace, hread]
    dsimp only
    rw [hend]
  · intro h
    cases hs : (scanValue st st.nesting (dropSpace s)).plain with
    | error e =>
      rw [hs] at h
      cases h
    | ok p =>
      obtain ⟨w, r⟩ := p
      rw [hs] at h
      dsimp only at h
      obtain ⟨before, hb, hbefore⟩ := exists_gap s
      obtain ⟨after, ha, hafter⟩ := exists_gap r
      obtain ⟨t, ht, hden⟩ := consumes_scanValue st st.nesting (dropSpace s) w r hs
      split at h
      · rename_i hend
        cases h
        rw [hend, List.append_nil] at hafter
        rw [hbefore, ht, hafter]
        exact .mk hb hden ha
      · cases h

theorem Document.not_marked (h : Document st s v) : ¬ s.head?.any CodePoint.isByteOrderMark := by
  obtain @⟨before, t, after, _, hb, h, -⟩ := h
  cases before with
  | nil =>
    obtain ⟨c, u, rfl, -, -, hc⟩ := h.opens
    simpa using hc
  | cons c before =>
    rw [List.cons_append, List.head?_cons, Option.any_some]
    rcases hb c (List.mem_cons_self ..) with rfl | rfl | rfl | rfl <;> decide

theorem decodeUnmarked_eq_ok_iff :
    decodeUnmarked st s = .ok v ↔ Document st s v := by
  rw [document_iff_scanDocument, decodeUnmarked]
  cases scanDocument st s with
  | error e =>
    constructor
    · intro h
      cases h
    · intro h
      cases h
  | ok w =>
    constructor
    · intro h
      cases h
      rfl
    · intro h
      cases h
      rfl

/-- A text decodes to what it denotes, however strictly. -/
theorem decode_text_eq_ok_iff : decode st (.text s) = .ok v ↔ Document st s v := by
  rw [decode, decodeText]
  by_cases hm : s.head?.any CodePoint.isByteOrderMark
  · rw [if_pos hm]
    constructor
    · intro h
      cases h
    · intro h
      exact absurd hm h.not_marked
  · rw [if_neg hm]
    exact decodeUnmarked_eq_ok_iff

/--
Strict decoding accepts exactly the documents of the grammar and returns what they denote; every
other text is an error.
-/
theorem decode_accepts_documents (limit : Nat) (s : Text) :
    (∀ v, decode (strict limit) (.text s) = .ok v ↔ Document (strict limit) s v) ∧
    ((¬ ∃ v, Document (strict limit) s v) → ∃ e, decode (strict limit) (.text s) = .error e) := by
  refine ⟨fun v => decode_text_eq_ok_iff, fun h => ?_⟩
  cases hd : decode (strict limit) (.text s) with
  | error e => exact ⟨e, rfl⟩
  | ok v => exact absurd ⟨v, decode_text_eq_ok_iff.1 hd⟩ h

end Documents

end ReplySchema.Json
