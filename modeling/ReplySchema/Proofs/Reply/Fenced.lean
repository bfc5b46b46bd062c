import ReplySchema.Proofs.Json.Alignment
import ReplySchema.Proofs.Json.Decoded
import ReplySchema.Proofs.Reply.Extraction

/-!
Documents in a fence. The mark that opens a fence for JSON can stand in no document, because what
stands in front of the line feed behind it closes no string; so a fenced reply is never JSON as it
stands. The text in the first fence is found whatever stands around it, also where the text before
the fence ends in backticks that the fence then seems to begin with.
-/

namespace ReplySchema

namespace Json

def ClosesTicks (t : Text) : Prop :=
  ∀ a b, t = a ++ ('\x60' : CodePoint) :: b →
    ∃ m n, b = m ++ ('"' : CodePoint) :: n ∧ ('\n' : CodePoint) ∉ m

theorem StringBody.not_mem_newline {b x : Text} (h : StringBody b x) : ('\n' : CodePoint) ∉ b :=
  fun hmem => absurd (h.visible _ hmem) (by decide)

theorem composes_closesTicks : Composes ClosesTicks where
  append a b ha hb := by
    intro l r h
    rcases List.append_eq_append_iff.1 h with ⟨k, rfl, hk⟩ | ⟨k, rfl, hk⟩
    · exact hb k r hk
    · cases k with
      | nil => exact hb [] r hk.symm
      | cons c k =>
        obtain ⟨rfl, rfl⟩ := List.cons.inj hk
        obtain ⟨m, n, rfl, hm⟩ := ha l k rfl
        exact ⟨m, n ++ b, by simp, hm⟩
  bare a ha := by
    rintro l r rfl
    exact absurd (ha _ (List.mem_append_right l (List.mem_cons_self ..))) (by decide)
  gap a ha := by
    rintro l r rfl
    exact absurd (ha _ (List.mem_append_right l (List.mem_cons_self ..))) (by decide)
  string a x hs := by
    obtain @⟨b, _, hb⟩ := hs
    intro l r h
    cases l with
    | nil => exact absurd (List.cons.inj h).1 (by decide)
    | cons c l =>
      obtain ⟨-, h⟩ := List.cons.inj h
      rcases List.append_eq_append_iff.1 h with ⟨k, -, hk⟩ | ⟨k, rfl, hk⟩
      · have hmem : ('\x60' : CodePoint) ∈ ([('"' : CodePoint)] : Text) :=
          hk ▸ List.mem_append_right k (List.mem_cons_self ..)
        exact absurd hmem (by decide)
      · cases k with
        | nil => exact absurd (List.cons.inj hk).1 (by decide)
        | cons d k =>
          obtain ⟨-, rfl⟩ := List.cons.inj hk
          refine ⟨k, [], rfl, fun hmem => hb.not_mem_newline ?_⟩
          exact List.mem_append_right l (List.mem_cons_of_mem d hmem)

/-- No document holds the mark that opens a fence for JSON. -/
theorem not_document_of_fence (st : Strictness) (p t : Text) (v : Value) :
    ¬ Document st (p ++ ("\x60\x60\x60json\n" ++ t)) v := by
  intro h
  obtain ⟨m, n, hm, hfree⟩ := composes_closesTicks.document h (p ++ "\x60\x60") ("json\n" ++ t)
    (by rw [List.append_assoc]; rfl)
  have hline : ("json\n" : Text) ++ t = ("json" : Text) ++ ('\n' : CodePoint) :: t := rfl
  rw [hline] at hm
  rcases List.append_eq_append_iff.1 hm with ⟨k, rfl, hk⟩ | ⟨k, hword, hk⟩
  · cases k with
    | nil => exact absurd (List.cons.inj hk).1 (by decide)
    | cons c k =>
      obtain ⟨rfl, -⟩ := List.cons.inj hk
      exact hfree (List.mem_append_right _ (List.mem_cons_self ..))
  · cases k with
    | nil => exact absurd (List.cons.inj hk).1 (by decide)
    | cons c k =>
      obtain ⟨rfl, -⟩ := List.cons.inj hk
      have hmem : ('"' : CodePoint) ∈ ("json" : Text) :=
        hword ▸ List.mem_append_right m (List.mem_cons_self ..)
      exact absurd hmem (by decide)

end Json

namespace Reply

section Fences

variable {a p q r t : Text}

theorem no_fence_of_not_mem (h : ('\x60' : CodePoint) ∉ t) : ¬ fence <:+: t :=
  fun hf => h (hf.subset (by decide))

theorem mem_fence {c : CodePoint} (h : c ∈ fence) : c = '\x60' := by
  rw [show fence = List.replicate 3 ('\x60' : CodePoint) from rfl] at h
  exact List.eq_of_mem_replicate h

/-- A text that holds no fence and does not end in a backtick is split off by the next fence. -/
theorem splitAt?_fence (hno : ¬ fence <:+: a) (hlast : ∀ b, a ≠ b ++ [('\x60' : CodePoint)]) :
    Text.splitAt? fence (a ++ (fence ++ r)) = some (a, r) := by
  apply Text.splitAt?_append
  intro b hne hb hf
  rcases List.prefix_or_prefix_of_prefix hf (List.prefix_append b (fence ++ r)) with h | h
  · exact hno (h.isInfix.trans hb.isInfix)
  · -- the fence would begin in the last backticks of the text
    obtain ⟨b, c, rfl⟩ : ∃ x c, b = x ++ [c] := ⟨_, _, (List.dropLast_append_getLast hne).symm⟩
    obtain ⟨l, rfl⟩ := hb
    have hc : c = '\x60' := mem_fence (h.subset (List.mem_append_right b (List.mem_cons_self ..)))
    exact hlast (l ++ b) (by rw [hc, List.append_assoc])

/-- A text is what stands before its last backticks, and these. -/
theorem exists_ticks (p : Text) : ∃ a k, p = a ++ List.replicate k ('\x60' : CodePoint) ∧
    ∀ b, a ≠ b ++ [('\x60' : CodePoint)] := by
  induction p using List.reverseRecOn with
  | nil => exact ⟨[], 0, rfl, by simp⟩
  | append_singleton p c ih =>
    by_cases hc : c = '\x60'
    · obtain ⟨a, k, rfl, ha⟩ := ih
      refine ⟨a, k + 1, ?_, ha⟩
      rw [hc, List.append_assoc, List.replicate_succ']
    · refine ⟨p ++ [c], 0, (List.append_nil _).symm, fun b hb => hc ?_⟩
      exact (List.cons.inj (List.append_inj_right' hb rfl)).1

theorem spelling?_json (t : Text) :
    spelling? "json" (("json" : Text) ++ t) = some (("json" : Text), t) := by
  rw [spelling?_eq_some_iff]
  exact ⟨.cons rfl (.cons rfl (.cons rfl (.cons rfl .nil))), rfl⟩

theorem ticks_append_fence (k : Nat) (x : Text) :
    List.replicate k ('\x60' : CodePoint) ++ (fence ++ x) =
      fence ++ (List.replicate k ('\x60' : CodePoint) ++ x) := by
  have hfence : fence = List.replicate 3 ('\x60' : CodePoint) := rfl
  rw [hfence, ← List.append_assoc, ← List.append_assoc, ← List.replicate_add,
    ← List.replicate_add, Nat.add_comm]

theorem length_ticks_lt {k : Nat} (h : ¬ fence <:+: List.replicate k ('\x60' : CodePoint)) :
    k < 3 := by
  by_contra hk
  refine h ⟨[], List.replicate (k - 3) '\x60', ?_⟩
  have hfence : fence = List.replicate 3 ('\x60' : CodePoint) := rfl
  rw [List.nil_append, hfence, ← List.replicate_add]
  congr 1
  omega

def opened : (ticks : Nat) → Text
  | 0 => []
  | k + 1 => List.replicate (k + 1) ('\x60' : CodePoint) ++ "json\n"

theorem mem_opened {k : Nat} {c : CodePoint} (h : c ∈ opened k) :
    c = '\x60' ∨ c ∈ ("json\n" : Text) := by
  cases k with
  | zero => cases h
  | succ k => exact (List.mem_append.1 h).imp_left List.eq_of_mem_replicate

theorem no_fence_opened {k : Nat} (hk : k < 3) (h : ¬ fence <:+: t) :
    ¬ fence <:+: opened k ++ (t ++ "\n") := by
  have htail : ¬ fence <:+: t ++ "\n" := by
    intro hf
    rcases Text.infix_append_cons (c := '\n') (b := []) (by decide) hf with hf | hf
    · exact h hf
    · exact absurd hf (by decide)
  cases k with
  | zero => exact htail
  | succ k =>
    intro hf
    have hword : opened (k + 1) ++ (t ++ "\n") = List.replicate (k + 1) ('\x60' : CodePoint) ++
        ('j' : CodePoint) :: ("so" ++ ('n' : CodePoint) :: [] ++ ('\n' : CodePoint) :: (t ++ "\n")) := by
      rw [opened, List.append_assoc]
      rfl
    rw [hword] at hf
    rcases Text.infix_append_cons (by decide) hf with hf | hf
    · have hlen := hf.length_le
      rw [List.length_replicate] at hlen
      exact absurd hlen (by rw [show fence.length = 3 from rfl]; omega)
    · rcases Text.infix_append_cons (by decide) hf with hf | hf
      · exact no_fence_of_not_mem (by decide) hf
      · exact htail hf

/-- The inside of the first fence is the document, up to what opened the fence and a line feed. -/
theorem fenced?_append (hp : ¬ fence <:+: p) (hb : Text.Tight t) (ht : ¬ fence <:+: t) (q : Text) :
    ∃ k, fenced? (p ++ ("\x60\x60\x60json\n" ++ (t ++ ("\n\x60\x60\x60" ++ q)))) =
      some (opened k ++ (t ++ "\n")) := by
  obtain ⟨a, k, rfl, ha⟩ := exists_ticks p
  have hk : k < 3 := length_ticks_lt fun hf => hp (hf.trans (List.suffix_append a _).isInfix)
  have hopening : a ++ List.replicate k ('\x60' : CodePoint) ++
      ("\x60\x60\x60json\n" ++ (t ++ ("\n\x60\x60\x60" ++ q))) =
      a ++ (fence ++ (List.replicate k ('\x60' : CodePoint) ++
        ("json\n" ++ (t ++ ("\n\x60\x60\x60" ++ q))))) := by
    rw [List.append_assoc, ← ticks_append_fence]
    rfl
  have hclosing : Text.splitAt? fence (opened k ++ (t ++ ("\n\x60\x60\x60" ++ q))) =
      some (opened k ++ (t ++ "\n"), q) := by
    have hmark : opened k ++ (t ++ ("\n\x60\x60\x60" ++ q)) =
        opened k ++ (t ++ "\n") ++ (fence ++ q) := by
      simp only [List.append_assoc]
      rfl
    rw [hmark]
    refine splitAt?_fence (no_fence_opened hk ht) fun b h => ?_
    rw [← List.append_assoc] at h
    exact absurd (List.cons.inj (List.append_inj_right' h rfl)).1 (by decide)
  refine ⟨k, ?_⟩
  obtain ⟨c, u, rfl, hc⟩ := hb.first
  rw [hopening, fenced?, splitAt?_fence (fun hf => hp (hf.trans (List.prefix_append a _).isInfix)) ha]
  dsimp only
  cases k with
  | zero =>
    -- the word behind the fence names the language, and the line feed behind it is blank
    have hword : List.replicate 0 ('\x60' : CodePoint) ++
        (("json\n" : Text) ++ (c :: u ++ ("\n\x60\x60\x60" ++ q))) =
        ("json" : Text) ++ (("\n" : Text) ++ (c :: u ++ ("\n\x60\x60\x60" ++ q))) := rfl
    have hline : ∀ d ∈ ("\n" : Text), d.isBlank := by
      intro d hd
      rw [List.mem_singleton.1 hd]
      decide
    have hblank : Text.dropBlanks (("\n" : Text) ++ (c :: u ++ ("\n\x60\x60\x60" ++ q))) =
        c :: u ++ ("\n\x60\x60\x60" ++ q) := dropBlanks_blanks hline hc _
    rw [hword, spelling?_json]
    dsimp only [Option.map_some, Option.getD_some]
    rw [hblank]
    exact congrArg (Option.map Prod.fst) hclosing
  | succ k =>
    have hnone : spelling? "json" (List.replicate (k + 1) ('\x60' : CodePoint) ++
        (("json\n" : Text) ++ (c :: u ++ ("\n\x60\x60\x60" ++ q)))) = none := rfl
    have hfront : ∀ x : Text, Text.dropBlanks (List.replicate (k + 1) ('\x60' : CodePoint) ++ x) =
        List.replicate (k + 1) ('\x60' : CodePoint) ++ x :=
      fun x => List.dropWhile_cons_of_neg (by decide)
    rw [hnone]
    dsimp only [Option.map_none, Option.getD_none]
    rw [hfront, ← List.append_assoc]
    exact congrArg (Option.map Prod.fst) hclosing

end Fences

section Replies

variable {st : Json.Strictness} {v : Value} {p q t : Text}

theorem isBracketed_of_encode (hv : (∃ vs, v = .array vs) ∨ ∃ ms, v = .object ms)
    {limit : Nat} (ht : Json.encode limit v = .ok t) : IsBracketed t := by
  rcases hv with ⟨vs, rfl⟩ | ⟨ms, rfl⟩
  · obtain ⟨-, ts, -, -, rfl⟩ := Json.encode_array_ok ht
    exact ⟨Text.join "," ts, .inr rfl⟩
  · obtain ⟨-, ts, -, -, rfl⟩ := Json.encode_object_ok ht
    exact ⟨Text.join "," ts, .inl rfl⟩

/-- The block of a reply is a bracketed text in the first fence, whatever stands around the fence. -/
theorem block_of_fence (hp : ¬ fence <:+: p) (hb : IsBracketed t) (ht : ¬ fence <:+: t)
    (hs : ¬ HoldsSection (p ++ ("\x60\x60\x60json\n" ++ (t ++ ("\n\x60\x60\x60" ++ q))))) :
    block (p ++ ("\x60\x60\x60json\n" ++ (t ++ ("\n\x60\x60\x60" ++ q)))) = .ok t := by
  have hassoc (p q : Text) : p ++ ("\x60\x60\x60json\n" ++ (t ++ ("\n\x60\x60\x60" ++ q))) =
      p ++ (("\x60\x60\x60json\n" ++ (t ++ "\n\x60\x60\x60")) ++ q) := by
    simp only [List.append_assoc]
  have htight : Text.Tight ("\x60\x60\x60json\n" ++ (t ++ "\n\x60\x60\x60")) := by
    refine ⟨⟨'\x60', _, rfl, by decide⟩,
      ⟨"\x60\x60\x60json\n" ++ (t ++ "\n\x60\x60"), '\x60', ?_, by decide⟩⟩
    simp only [List.append_assoc]
    rfl
  have htrim (p q : Text) : (p ++ ("\x60\x60\x60json\n" ++ (t ++ ("\n\x60\x60\x60" ++ q)))).trim =
      p.dropBlanks ++ ("\x60\x60\x60json\n" ++ (t ++ ("\n\x60\x60\x60" ++ q.trimEnd))) := by
    rw [hassoc, htight.trim_append, hassoc]
  have hfree : ¬ fence <:+: p.dropBlanks.dropBlanks := fun hf =>
    hp (hf.trans ((Text.dropBlanks_suffix _).trans (Text.dropBlanks_suffix p)).isInfix)
  have hsection := fun h : HoldsSection (Text.trim _) => hs (h.mono (Text.infix_of_trim _))
  obtain ⟨k, hfenced⟩ := fenced?_append hfree hb.tight ht q.trimEnd.trimEnd
  have hinside : Text.trim (opened k ++ (t ++ "\n")) = (opened k).dropBlanks ++ t := by
    rw [hb.tight.trim_append]
    exact congrArg _ (List.append_nil t)
  have hopened : ∀ c ∈ (opened k).dropBlanks, c ≠ ('\x7b' : CodePoint) ∧ c ≠ ('[' : CodePoint) := by
    intro c hc
    rcases mem_opened ((Text.dropBlanks_suffix _).subset hc) with rfl | hc
    · decide
    · refine ⟨?_, ?_⟩
      · rintro rfl
        exact absurd hc (by decide)
      · rintro rfl
        exact absurd hc (by decide)
  rw [block, if_neg]
  · dsimp only
    rw [dropReasoning_eq_self_iff.2 hsection, htrim, htrim, hfenced, Option.map_some, Option.getD_some,
      hinside]
    exact bracketed_append hopened hb
  · intro hblank
    have hmem : ('\x60' : CodePoint) ∈ p ++ ("\x60\x60\x60json\n" ++ (t ++ ("\n\x60\x60\x60" ++ q))) :=
      List.mem_append_right p (List.mem_cons_self ..)
    exact absurd (List.all_eq_true.1 hblank _ hmem) (by decide)

/-- What a repaired reply comes to when its block decodes. -/
theorem parse_of_block {raw b : Text} (hraw : ∀ w, Json.decode st (.text raw) ≠ .ok w)
    (hb : block raw = .ok b) (hv : Json.decode st (.text b) = .ok v) (s : Schema) :
    (parse st true s (.text raw)).result =
      (s.check st.nesting v).result.map fun r => (r, [.repaired]) := by
  cases hd : Json.decode st (.text raw) with
  | ok w => exact absurd hd (hraw w)
  | error e =>
    have hrun : (s.parse st (.text raw)).result = .error (.failure (.invalidJson e.message)) := by
      rw [Schema.parse, hd]
      rfl
    rw [parse_of_invalidJson hrun, retried?, hb]
    dsimp only [Except.toOption]
    rw [parse_document hv]

/--
A list or an object that survives the strict round trip is recovered from its fence. The reply is no
JSON as it stands, its block is the text of the value, and parsing comes to the check of the value,
with a warning when the check returns; the texts around the fence may be anything, as long as no
fence stands before it and no reasoning section anywhere.
-/
theorem fenced_value_recovered (st : Json.Strictness) {raw : Text}
    (hv : (∃ vs, v = .array vs) ∨ ∃ ms, v = .object ms) (ht : Json.encode st.nesting v = .ok t)
    (hd : Json.decode (Json.strict st.nesting) (.text t) = .ok v)
    (hp : ¬ fence <:+: p) (hno : ¬ fence <:+: t)
    (hraw : raw = p ++ ("\x60\x60\x60json\n" ++ (t ++ ("\n\x60\x60\x60" ++ q))))
    (hs : ¬ HoldsSection raw) (s : Schema) :
    (∃ e, Json.decode st (.text raw) = .error e) ∧ block raw = .ok t ∧
      (parse st true s (.text raw)).result =
        (s.check st.nesting v).result.map fun r => (r, [.repaired]) := by
  subst hraw
  have hbad (w : Value) := mt Json.decode_text_eq_ok_iff.1 (Json.not_document_of_fence st p
    (t ++ ("\n\x60\x60\x60" ++ q)) w)
  have hblock := block_of_fence hp (isBracketed_of_encode hv ht) hno hs
  have hdecoded := Json.decoded_of_decode hd
  have hread : Json.decode st (.text t) = .ok v :=
    hdecoded.decode_text st (fun x hx => hdecoded.sound _ hx rfl) ht
  refine ⟨?_, hblock, parse_of_block hbad hblock hread s⟩
  cases he : Json.decode st (.text _) with
  | ok w => exact absurd he (hbad w)
  | error e => exact ⟨e, rfl⟩

def trickyReply : Text :=
  "[1] \"\x60\x60\x60\x60json\n[\"a\x60\"]\n\x60\x60\x60 \x60\x60\x60\x7b\x7d\x60\x60\x60"

def strings : Schema := .array .plain (.primitive .plain .string)

theorem decode_tickedItem {st : Json.Strictness} (hn : 0 < st.nesting) :
    Json.decode st (.text "[\"a\x60\"]") = .ok (.array [.string "a\x60"]) := by
  have ht : Json.encode 1 (.array (["a\x60"].map .string)) = .ok "[\"a\x60\"]" := rfl
  exact Json.decode_strings hn ["a\x60"] ht

theorem parse_trickyReply :
    ¬ HoldsSection trickyReply ∧ block trickyReply = .ok "[\"a\x60\"]" ∧
      (parse ⟨false, 1000⟩ true strings (.text trickyReply)).result =
        .ok (.array [.string "a\x60"], [.repaired]) := by
  have hs : ¬ HoldsSection trickyReply := not_holdsSection (by decide)
  obtain ⟨-, hblock, hparse⟩ := fenced_value_recovered ⟨false, 1000⟩
    (v := .array [.string "a\x60"]) (p := "[1] \"\x60") (q := " \x60\x60\x60\x7b\x7d\x60\x60\x60")
    (.inl ⟨_, rfl⟩) rfl (decode_tickedItem (by decide)) (by decide) (by decide) rfl hs strings
  exact ⟨hs, hblock, hparse⟩

end Replies

end Reply

end ReplySchema
