import ReplySchema.Proofs.Json.Elements

/-!
Arrays and objects written out. A row of texts with commas between them is read element by element
when each element is read from its own text, and it is refused for the first of them that is. Keys
that differ keep their order.
-/

namespace ReplySchema.Json

theorem opens_of_encode {limit : Nat} {v : Value} {t : Text} (h : encode limit v = .ok t) :
    Opens t := by
  cases v with
  | null => cases h; exact ⟨_, _, rfl, by decide⟩
  | bool b => cases b <;> cases h <;> exact ⟨_, _, rfl, by decide⟩
  | int n =>
    rw [(encode_int_ok h).2, ← Literal.spelled_ofInt]
    exact (Literal.spells_spelled (Literal.wellFormed_ofInt n)).opensScalar.opens
  | float x => cases h; exact (opensScalar_double x).opens
  | string t => cases h; exact ⟨_, _, rfl, by decide⟩
  | array items =>
    obtain ⟨-, ts, -, -, rfl⟩ := encode_array_ok h
    exact ⟨_, _, rfl, by decide⟩
  | tuple items =>
    rw [encode_tuple] at h
    obtain ⟨-, ts, -, -, rfl⟩ := encode_array_ok h
    exact ⟨_, _, rfl, by decide⟩
  | object members =>
    obtain ⟨-, ts, -, -, rfl⟩ := encode_object_ok h
    exact ⟨_, _, rfl, by decide⟩
  | mapping entries =>
    rw [encode] at h
    obtain ⟨ts, -, h⟩ := bind_ok h
    cases h
    exact ⟨_, _, rfl, by decide⟩
  | foreign f => cases h

theorem objectOf_of_nodup {members : List (Text × Value)} (h : (members.map Prod.fst).Nodup) :
    objectOf members = .object members := by
  rw [objectOf, foldl_assign h, List.nil_append]

section Rows

variable {ι α β : Type} {close : CodePoint} {elem : Text → Except Stop (α × Text)}
variable {rest : Text → Except Stop (List α × Text)} {refused : ι → Option Text} {read : ι → α}

/-- The text of an element is read to its end, or refused, whatever stands behind it. -/
structure ReadFrom (close : CodePoint) (elem : Text → Except Stop (α × Text))
    (refused : ι → Option Text) (read : ι → α) (t : Text) (x : ι) : Prop where
  starts : Starts close t
  answer : ∀ r, Literal.Stops r → elem (t ++ r) = Json.answer (refused x) (read x) r

theorem Starts.join {t : Text} (h : Starts close t) (separator : Text) (ts : List Text) :
    Starts close (Text.join separator (t :: ts)) := by
  cases ts with
  | nil => exact h
  | cons u ts => exact (h.append separator).append _

theorem join_cons_cons (separator t u : Text) (ts : List Text) (r : Text) :
    Text.join separator (t :: u :: ts) ++ r =
      t ++ (separator ++ (Text.join separator (u :: ts) ++ r)) := by
  simp only [Text.join, List.append_assoc]

/-- A row of elements is read to the closing mark behind it, or to the first that is refused. -/
theorem read_of_row (hl : Lists close elem rest) (hc : Closes close) {ts : List Text} {xs : List ι}
    (h : List.Forall₂ (ReadFrom close elem refused read) ts xs) (hne : xs ≠ []) (r : Text) :
    rest (Text.join "," ts ++ close :: r) = answer (xs.findSome? refused) (xs.map read) r := by
  induction h with
  | nil => exact absurd rfl hne
  | @cons t x ts xs ht hts ih =>
    cases hts with
    | nil =>
      rw [Text.join, hl, ht.answer _ (hc.stops r), List.findSome?_cons]
      cases refused x with
      | some name => rfl
      | none => exact readBehind_close hc .nil _ _ r
    | @cons u y ts xs hu hts =>
      have hstart := (hu.starts.join "," ts).dropSpace (close :: r)
      have hcomma : Literal.Stops ("," ++ (Text.join "," (u :: ts) ++ close :: r)) :=
        Literal.stops_cons (by decide) _
      rw [join_cons_cons, hl, ht.answer _ hcomma, List.findSome?_cons]
      cases refused x with
      | some name => rfl
      | none =>
        refine (readBehind_comma hc .nil .nil _ _ hstart).trans ?_
        rw [ih (List.cons_ne_nil _ _), map_answer _ _ _ (read x :: ·)]
        rfl

theorem readOpened_of_row (hl : Lists close elem rest) (hc : Closes close) {ts : List Text}
    {xs : List ι} (h : List.Forall₂ (ReadFrom close elem refused read) ts xs) (e : Stop)
    (f : List α → β) (r : Text) :
    readOpened close e (f []) f rest (Text.join "," ts ++ close :: r) =
      answer (xs.findSome? refused) (f (xs.map read)) r := by
  cases h with
  | nil => exact readOpened_close hc .nil e (f []) f r
  | @cons t x ts xs ht hts =>
    have hread := read_of_row hl hc (.cons ht hts) (List.cons_ne_nil _ _) r
    refine (readOpened_starts .nil ((ht.starts.join "," ts).append _) e (f []) f).trans ?_
    rw [hread, map_answer _ _ _ f]

end Rows

theorem forall₂_of_encodeItems {P : Text → Value → Prop} {limit : Nat} {vs : List Value}
    (h : ∀ v ∈ vs, ∀ t, encode limit v = .ok t → P t v) {ts : List Text}
    (hts : encodeItems limit vs = .ok ts) : List.Forall₂ P ts vs := by
  induction vs generalizing ts with
  | nil =>
    cases hts
    exact .nil
  | cons v vs ih =>
    obtain ⟨t, rest, ht, hrest, rfl⟩ := encodeItems_cons_ok hts
    obtain ⟨hv, hvs⟩ := List.forall_mem_cons.1 h
    exact .cons (hv t ht) (ih hvs hrest)

theorem forall₂_of_encodeMembers {P : Text → Text × Value → Prop} {limit : Nat}
    {ms : List (Text × Value)}
    (h : ∀ m ∈ ms, ∀ t, encode limit m.2 = .ok t → P (printString m.1 ++ ":" ++ t) m)
    {ts : List Text} (hts : encodeMembers limit ms = .ok ts) : List.Forall₂ P ts ms := by
  induction ms generalizing ts with
  | nil =>
    cases hts
    exact .nil
  | cons m ms ih =>
    obtain ⟨t, rest, ht, hrest, rfl⟩ := encodeMembers_cons_ok hts
    obtain ⟨hm, hms⟩ := List.forall_mem_cons.1 h
    exact .cons (hm t ht) (ih hms hrest)

section Containers

variable {st : Strictness} {value : (s : Text) → Scanned Value s.length} {limit : Nat}

/-- The scanner reads the value from its text and stops right behind it. -/
def Reads (st : Strictness) (value : (s : Text) → Scanned Value s.length) (v : Value) : Prop :=
  ∀ limit t, encode limit v = .ok t → ∀ r, Literal.Stops r →
    (value (t ++ r)).plain = answer (st.refuse v.constant?) v.listed r

theorem Reads.item {v : Value} (h : Reads st value v) {t : Text} (ht : encode limit v = .ok t) :
    ReadFrom ']' (fun s => (value s).plain) (fun v => st.refuse v.constant?) Value.listed t v := by
  obtain ⟨c, u, hu, hc, hne, -⟩ := opens_of_encode ht
  exact ⟨⟨c, u, hu, hc, hne⟩, h limit t ht⟩

theorem Reads.member {m : Text × Value} (h : Reads st value m.2) {t : Text}
    (ht : encode limit m.2 = .ok t) :
    ReadFrom '}' (readMember value) (fun m => st.refuse m.2.constant?)
      (fun m => (m.1, m.2.listed)) (printString m.1 ++ ":" ++ t) m := by
  refine ⟨⟨'"', _, rfl, by decide, by decide⟩, fun r hr => ?_⟩
  have hname : (scanName (printString m.1 ++ ":" ++ t ++ r)).plain = .ok (m.1, t ++ r) := by
    rw [List.append_assoc, List.append_assoc]
    exact scanName_of_stringText (stringText_printString m.1) .nil .nil
      ((opens_of_encode ht).append r).dropSpace
  rw [readMember, hname]
  dsimp only
  rw [h limit t ht r hr, map_answer _ _ _ fun v => (m.1, v)]

theorem scanArray_append {items : List Value} (hv : ∀ v ∈ items, Reads st value v)
    {ts : List Text} (hts : encodeItems limit items = .ok ts) (r : Text) :
    (scanArray value (Text.join "," ts ++ (']' : CodePoint) :: r)).plain =
      answer (st.refuse (items.findSome? Value.constant?)) (.array (items.map Value.listed)) r := by
  rw [plain_scanArray, st.refuse_findSome?]
  exact readOpened_of_row (lists_scanItems value) closes_bracket
    (forall₂_of_encodeItems (fun v h t ht => (hv v h).item ht) hts) _ Value.array r

theorem scanObject_append {members : List (Text × Value)}
    (hv : ∀ m ∈ members, Reads st value m.2) (hk : (members.map Prod.fst).Nodup) {ts : List Text}
    (hts : encodeMembers limit members = .ok ts) (r : Text) :
    (scanObject value (Text.join "," ts ++ ('}' : CodePoint) :: r)).plain =
      answer (st.refuse (members.findSome? fun m => m.2.constant?))
        (.object (members.map fun m => (m.1, m.2.listed))) r := by
  have hkeys : ((members.map fun m => (m.1, m.2.listed)).map Prod.fst).Nodup := by
    rwa [List.map_map]
  rw [plain_scanObject, st.refuse_findSome?, ← objectOf_of_nodup hkeys]
  exact readOpened_of_row (lists_scanMembers value) closes_brace
    (forall₂_of_encodeMembers (fun m h t ht => (hv m h).member ht) hts) _ objectOf r

end Containers

end ReplySchema.Json
