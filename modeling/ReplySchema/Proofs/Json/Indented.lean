import Mathlib.Data.List.Forall2
import ReplySchema.Proofs.Json.Decoded

/-!
Indented text. Line feeds and spaces are put only where the grammar lets gaps stand, so what is printed
over several lines for a decoded value is a document that denotes the value. It holds no control
character but line feeds.
-/

namespace ReplySchema.Json

section Equations

variable {limit level : Nat} {v : Value} {t : Text}

theorem indent_array_ok {items : List Value}
    (h : encodeIndented limit level (.array items) = .ok t) :
    ∃ d ts, limit = d + 1 ∧ indentItems d (level + 1) items = .ok ts ∧
      t = block "[" "]" level ts := by
  rw [encodeIndented] at h
  obtain ⟨ts, hts, h⟩ := bind_ok h
  cases h
  obtain ⟨d, hd, hts⟩ := inside_ok hts
  exact ⟨d, ts, hd, hts, rfl⟩

theorem indent_object_ok {members : List (Text × Value)}
    (h : encodeIndented limit level (.object members) = .ok t) :
    ∃ d ts, limit = d + 1 ∧ indentMembers d (level + 1) members = .ok ts ∧
      t = block "\x7b" "\x7d" level ts := by
  rw [encodeIndented] at h
  obtain ⟨ts, hts, h⟩ := bind_ok h
  cases h
  obtain ⟨d, hd, hts⟩ := inside_ok hts
  exact ⟨d, ts, hd, hts, rfl⟩

/-- What holds no other value is printed alike in both forms. -/
theorem encode_of_leaf (hv : v.depth = 0) (h : encodeIndented limit level v = .ok t) :
    encode limit v = .ok t := by
  cases v <;> simp_all [encodeIndented, encode, Value.depth]

theorem forall₂_of_indentItems {P : Text → Value → Prop} {vs : List Value}
    (h : ∀ v ∈ vs, ∀ t, encodeIndented limit level v = .ok t → P t v) {ts : List Text}
    (hts : indentItems limit level vs = .ok ts) : List.Forall₂ P ts vs := by
  induction vs generalizing ts with
  | nil =>
    cases hts
    exact .nil
  | cons v vs ih =>
    obtain ⟨hv, hvs⟩ := List.forall_mem_cons.1 h
    rw [indentItems] at hts
    obtain ⟨t, ht, hts⟩ := bind_ok hts
    obtain ⟨rest, hrest, hts⟩ := bind_ok hts
    cases hts
    exact .cons (hv t ht) (ih hvs hrest)

theorem forall₂_of_indentMembers {P : Text → Text × Value → Prop} {ms : List (Text × Value)}
    (h : ∀ m ∈ ms, ∀ t, encodeIndented limit level m.2 = .ok t →
      P (printString m.1 ++ ": " ++ t) m)
    {ts : List Text} (hts : indentMembers limit level ms = .ok ts) : List.Forall₂ P ts ms := by
  induction ms generalizing ts with
  | nil =>
    cases hts
    exact .nil
  | cons m ms ih =>
    obtain ⟨hm, hms⟩ := List.forall_mem_cons.1 h
    rw [indentMembers] at hts
    obtain ⟨t, ht, hts⟩ := bind_ok hts
    obtain ⟨rest, hrest, hts⟩ := bind_ok hts
    cases hts
    exact .cons (hm t ht) (ih hms hrest)

end Equations

def Lined (t : Text) : Prop := ∀ c ∈ t, 0x20 ≤ c.val ∨ c = '\n'

section Layout

variable {α : Type} {Elem : Text → α → Prop} {ts : List Text} {xs : List α} {a b t : Text}

theorem Lined.append (ha : Lined a) (hb : Lined b) : Lined (a ++ b) :=
  List.forall_mem_append.2 ⟨ha, hb⟩

theorem Lined.join {separator : Text} (hs : Lined separator) (h : ∀ t ∈ ts, Lined t) :
    Lined (Text.join separator ts) := by
  induction ts with
  | nil => exact nofun
  | cons t ts ih =>
    obtain ⟨ht, hts⟩ := List.forall_mem_cons.1 h
    cases ts with
    | nil => exact ht
    | cons u ts => exact (ht.append hs).append (ih hts)

theorem gap_newline (level : Nat) : Gap (newline level) := by
  refine List.forall_mem_cons.2 ⟨.inr (.inr (.inl rfl)), fun c hc => .inl ?_⟩
  exact List.eq_of_mem_replicate hc

theorem lined_newline (level : Nat) : Lined (newline level) := by
  refine List.forall_mem_cons.2 ⟨.inr rfl, fun c hc => .inl ?_⟩
  rw [List.eq_of_mem_replicate hc]
  decide

/-- Elements with commas and gaps between them, and perhaps a gap behind them, are a series. -/
theorem series_of_join {gap last : Text} (hg : Gap gap) (hlast : Gap last)
    (h : List.Forall₂ Elem ts xs) (hne : xs ≠ []) :
    Series Elem (Text.join ((',' : CodePoint) :: gap) ts ++ last) xs := by
  induction h with
  | nil => exact absurd rfl hne
  | @cons t x ts xs ht hts ih =>
    cases hts with
    | nil => exact .last ht hlast
    | @cons u y ts xs hu hts =>
      have hmore : Series Elem _ (x :: y :: xs) :=
        .more (g := []) ht nofun hg (ih (List.cons_ne_nil _ _))
      simpa [Text.join] using hmore

theorem enclosed_block {left right : CodePoint} (level : Nat) (h : List.Forall₂ Elem ts xs) :
    Enclosed Elem left right (block [left] [right] level ts) xs := by
  cases h with
  | nil => exact .empty (g := []) nofun
  | @cons t x ts xs ht hts =>
    have hseries := series_of_join (gap_newline (level + 1)) (gap_newline level) (.cons ht hts)
      (List.cons_ne_nil x xs)
    have henclosed : Enclosed Elem left right _ (x :: xs) :=
      .filled (gap_newline (level + 1)) hseries
    have hcomma : (("," : Text) ++ newline (level + 1)) = (',' : CodePoint) :: newline (level + 1) :=
      rfl
    simpa [block, hcomma] using henclosed

theorem lined_block {left right : Text} (hl : Lined left) (hr : Lined right) (level : Nat)
    (h : ∀ t ∈ ts, Lined t) : Lined (block left right level ts) := by
  cases ts with
  | nil => exact hl.append hr
  | cons t ts =>
    have hcomma : Lined ("," : Text) := List.forall_mem_singleton.2 (.inl (by decide))
    have helements := (hcomma.append (lined_newline (level + 1))).join h
    exact (((hl.append (lined_newline _)).append helements).append (lined_newline _)).append hr

end Layout

section Indented

variable {st : Strictness} {depth limit level : Nat} {v : Value} {t : Text}

/-- The compact text of a decoded value denotes it. -/
theorem Decoded.denotes (h : Decoded st depth v) (ht : encode limit v = .ok t) :
    Denotes st depth t v := by
  have hk : v.DistinctKeys := ⟨fun _ hm => h.sound _ hm, fun _ hm => h.sound _ hm⟩
  have hread := reads_scanValue st hk h.shallow limit t ht [] nofun
  rw [h.refuse_constant?, h.listed_eq] at hread
  obtain ⟨u, hu, hdenotes⟩ := consumes_scanValue st depth _ _ _ hread
  rw [List.append_nil, List.append_nil] at hu
  exact hu ▸ hdenotes

theorem lined_denotes_of_leaf (h : Decoded st depth v) (hv : v.depth = 0)
    (ht : encodeIndented limit level v = .ok t) : Lined t ∧ Denotes st depth t v := by
  have hleaf : Decoded st 0 v := ⟨h.sound, Nat.le_of_eq hv⟩
  have hscalar : Scalar st t v := hleaf.denotes (encode_of_leaf hv ht)
  exact ⟨fun c hc => .inl (hscalar.visible c hc), .scalar hscalar depth⟩

theorem lined_member {m : Text × Value} (h : Lined t ∧ Denotes st depth t m.2) :
    Lined (printString m.1 ++ ": " ++ t) ∧
      Member (Denotes st depth) (printString m.1 ++ ": " ++ t) m := by
  have hname := stringText_printString m.1
  have hcolon : Lined (": " : Text) :=
    List.forall_mem_cons.2 ⟨.inl (by decide), List.forall_mem_singleton.2 (.inl (by decide))⟩
  have hlined : Lined (printString m.1) := fun c hc => .inl (hname.visible c hc)
  have hspace : Gap [(' ' : CodePoint)] := List.forall_mem_singleton.2 (.inl rfl)
  have hmember : Member (Denotes st depth) _ (m.1, m.2) := .mk (g := []) hname nofun hspace h.2
  have hspelled : (": " : Text) = [(':' : CodePoint), (' ' : CodePoint)] := rfl
  refine ⟨(hlined.append hcolon).append h.1, ?_⟩
  simpa [hspelled] using hmember

/-- What is printed over several lines for a decoded value denotes it, whatever the indentation. -/
theorem lined_denotes (h : Decoded st depth v) (ht : encodeIndented limit level v = .ok t) :
    Lined t ∧ Denotes st depth t v := by
  induction v using Value.nodes generalizing depth limit level t with
  | null | bool | int | float | string =>
    exact lined_denotes_of_leaf h (by simp [Value.depth]) ht
  | foreign f => cases h.sound _ (Value.mem_parts_self _)
  | mapping | tuple => cases h.sound _ (Value.mem_parts_self _)
  | array items ih =>
    obtain ⟨hpos, hd⟩ := Value.depth_array_le_iff.1 h.shallow
    obtain ⟨d, rfl⟩ := Nat.exists_eq_add_one.2 hpos
    obtain ⟨_, ts, -, hts, rfl⟩ := indent_array_ok ht
    have hitem : ∀ v ∈ items, Decoded st d v := fun v hv =>
      ⟨fun w hw => h.sound w (Value.parts_subset_array hv hw), hd v hv⟩
    have hall := forall₂_of_indentItems (fun v hv t ht => ih v hv (hitem v hv) ht) hts
    obtain ⟨hlined, hdenotes⟩ := (List.forall₂_and_left _ _).1 hall
    refine ⟨lined_block ?_ ?_ level hlined, .inr (.array (enclosed_block level hdenotes))⟩
    · exact List.forall_mem_singleton.2 (.inl (by decide))
    · exact List.forall_mem_singleton.2 (.inl (by decide))
  | object members ih =>
    obtain ⟨hpos, hd⟩ := Value.depth_object_le_iff.1 h.shallow
    obtain ⟨d, rfl⟩ := Nat.exists_eq_add_one.2 hpos
    obtain ⟨_, ts, -, hts, rfl⟩ := indent_object_ok ht
    have hmember : ∀ m ∈ members, Decoded st d m.2 := fun m hm =>
      ⟨fun w hw => h.sound w (Value.parts_subset_object hm hw), hd m hm⟩
    have hall := forall₂_of_indentMembers (P := fun t m => Lined t ∧ Member (Denotes st d) t m)
      (fun m hm t ht => lined_member (ih m hm (hmember m hm) ht)) hts
    obtain ⟨hlined, hdenotes⟩ := (List.forall₂_and_left _ _).1 hall
    have hkeys : Keeps members members :=
      objectOf_eq_iff.1 (objectOf_of_nodup (h.sound _ (Value.mem_parts_self _)))
    refine ⟨lined_block ?_ ?_ level hlined, .inr (.object (enclosed_block level hdenotes) hkeys)⟩
    · exact List.forall_mem_singleton.2 (.inl (by decide))
    · exact List.forall_mem_singleton.2 (.inl (by decide))

/-- With a line feed behind it the printed text decodes to the value, and it has no other line ends. -/
theorem decode_indented (h : Decoded st st.nesting v) (ht : encodeIndented limit level v = .ok t) :
    decode st (.text (t ++ ("\n" : Text))) = .ok v ∧ ('\r' : CodePoint) ∉ t ++ ("\n" : Text) := by
  obtain ⟨hlined, hdenotes⟩ := lined_denotes h ht
  have hfeed : Gap ("\n" : Text) := List.forall_mem_singleton.2 (.inr (.inr (.inl rfl)))
  have hdocument : Document st ([] ++ (t ++ ("\n" : Text))) v := .mk nofun hdenotes hfeed
  refine ⟨decode_text_eq_ok_iff.2 hdocument, fun hmem => ?_⟩
  have hall : Lined (t ++ ("\n" : Text)) := hlined.append (List.forall_mem_singleton.2 (.inr rfl))
  exact absurd (hall _ hmem) (by decide)

end Indented

end ReplySchema.Json
