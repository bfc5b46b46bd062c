import ReplySchema.Proofs.Schema.Hints
import ReplySchema.Proofs.Schema.Parallel

/-!
Written forms are read in one way. Where keys are names, a type ends at the same place however it is
read, whatever delimiter and text stand behind it. So the plain form tells the shape of a schema, and
the hinted form tells its shape and what every comment says. A comment does not always tell a label
from the optional mark, since a label may read like the mark.
-/

namespace ReplySchema

/-- A key without spaces and colons, as every identifier is. -/
def Text.IsName (t : Text) : Prop := (' ' : CodePoint) ∉ t ∧ (':' : CodePoint) ∉ t

instance (t : Text) : Decidable t.IsName := inferInstanceAs (Decidable (_ ∧ _))

namespace Schema

def NamesKeys (s : Schema) : Prop :=
  ∀ p m fields, s.Reaches p (.object m fields) → ∀ f ∈ fields, f.1.IsName

theorem namesKeys_primitive (m : Marks) (k : Primitive) : (primitive m k).NamesKeys := by
  intro p n fields h
  cases h

theorem namesKeys_array {item : Schema} (m : Marks) (h : item.NamesKeys) :
    (array m item).NamesKeys := by
  intro p n fields hr
  cases hr with
  | item hr => exact h _ n fields hr

theorem namesKeys_object {fields : List (Text × Schema)} (m : Marks)
    (h : ∀ f ∈ fields, f.1.IsName ∧ f.2.NamesKeys) : (object m fields).NamesKeys := by
  intro p n fields' hr
  cases hr with
  | here => exact fun f hf => (h f hf).1
  | field hf hr => exact (h _ hf).2 _ n fields' hr

theorem NamesKeys.item {m : Marks} {item : Schema} (h : (array m item).NamesKeys) :
    item.NamesKeys :=
  fun p n fields hr => h (.index 0 :: p) n fields (.item hr)

theorem NamesKeys.key {m : Marks} {fields : List (Text × Schema)} (h : (object m fields).NamesKeys)
    {f : Text × Schema} (hf : f ∈ fields) : f.1.IsName :=
  h [] m fields (.here _) f hf

theorem NamesKeys.field {m : Marks} {fields : List (Text × Schema)}
    (h : (object m fields).NamesKeys) {f : Text × Schema} (hf : f ∈ fields) : f.2.NamesKeys :=
  fun p n fields' hr => h (.key f.1 :: p) n fields' (.field hf hr)

structure Readable (hints : Bool) (s : Schema) : Prop where
  keys : s.NamesKeys
  labels : hints = true → s.LabelsPass

namespace Readable

variable {hints : Bool} {m : Marks}

theorem item {item : Schema} (h : (array m item).Readable hints) : item.Readable hints where
  keys := h.keys.item
  labels hh rule hr := h.labels hh rule (mem_rules_item hr)

theorem field {fields : List (Text × Schema)} (h : (object m fields).Readable hints)
    {f : Text × Schema} (hf : f ∈ fields) : f.2.Readable hints where
  keys := h.keys.field hf
  labels hh rule hr := h.labels hh rule (mem_rules_field hf hr)

end Readable

/-- What stands behind a type inside of an array or an object. -/
def delimiters : List Text := [", ", " \x7d", "]"]

def Delimited (r : Text) : Prop := r = [] ∨ ∃ d ∈ delimiters, d <+: r

theorem Delimited.not_comment {r : Text} (h : Delimited r) (u : Text) : r ≠ " /* " ++ u := by
  rintro rfl
  rcases h with h | ⟨d, hd, x, hx⟩
  · cases h
  · simp only [delimiters, List.mem_cons, List.not_mem_nil, or_false] at hd
    rcases hd with rfl | rfl | rfl
    · exact absurd (List.cons.inj hx).1 (by decide)
    · exact absurd (List.cons.inj (List.cons.inj hx).2).1 (by decide)
    · exact absurd (List.cons.inj hx).1 (by decide)

def written (hints : Bool) (s : Schema) : Text := s.marks.annotate hints (s.body hints)

end Schema

namespace Marks

/-- The comment of a node alone, with the space before it, where hints are wanted. -/
def comment (hints : Bool) (m : Marks) : Text := m.annotate hints []

theorem annotate_eq_append (m : Marks) (hints : Bool) (t : Text) :
    m.annotate hints t = t ++ m.comment hints := by
  cases hints with
  | false => exact (List.append_nil t).symm
  | true =>
    rw [comment, annotate_eq, annotate_eq]
    cases m.hint? <;> simp

variable {hints : Bool} {m n : Marks}

theorem comment_of_none (h : m.hint? = none) : m.comment true = [] := by
  rw [comment, annotate_eq, h]
  rfl

theorem comment_of_some {hint : Text} (h : m.hint? = some hint) :
    m.comment true = " /* " ++ (hint ++ " */") := by
  rw [comment, annotate_eq, h]
  rfl

theorem comment_append {hint : Text} (h : m.hint? = some hint) (r : Text) :
    m.comment true ++ r = " /* " ++ (hint ++ (" */" ++ r)) := by
  rw [comment_of_some h]
  simp only [List.append_assoc]

theorem comment_eq_iff : m.comment true = n.comment true ↔ m.hint? = n.hint? := by
  cases hm : m.hint? with
  | none =>
    cases hn : n.hint? with
    | none => simp [comment_of_none hm, comment_of_none hn]
    | some b => simp [comment_of_none hm, comment_of_some hn, Text.ofString]
  | some a =>
    cases hn : n.hint? with
    | none => simp [comment_of_some hm, comment_of_none hn, Text.ofString]
    | some b => simp [comment_of_some hm, comment_of_some hn]

/-- In front of a delimiter a comment ends where it is seen to end. -/
theorem comment_append_inj {r r' : Text}
    (hm : hints = true → ∀ rule, m.rule = some rule → ¬ ("*/" : Text) <:+: rule.label)
    (hn : hints = true → ∀ rule, n.rule = some rule → ¬ ("*/" : Text) <:+: rule.label)
    (hr : Schema.Delimited r) (hr' : Schema.Delimited r')
    (h : m.comment hints ++ r = n.comment hints ++ r') :
    m.comment hints = n.comment hints ∧ r = r' := by
  cases hints with
  | false => exact ⟨rfl, h⟩
  | true =>
    rw [comment_eq_iff]
    cases hhm : m.hint? with
    | none =>
      rw [comment_of_none hhm] at h
      cases hhn : n.hint? with
      | none =>
        rw [comment_of_none hhn] at h
        exact ⟨rfl, h⟩
      | some b =>
        rw [comment_append hhn] at h
        exact absurd h (hr.not_comment _)
    | some a =>
      rw [comment_append hhm] at h
      cases hhn : n.hint? with
      | none =>
        rw [comment_of_none hhn] at h
        exact absurd h.symm (hr'.not_comment _)
      | some b =>
        rw [comment_append hhn] at h
        have hsplit := Text.splitAt?_closing (not_closing_hint (hm rfl) hhm) r
        rw [List.append_cancel_left h,
          Text.splitAt?_closing (not_closing_hint (hn rfl) hhn) r'] at hsplit
        cases hsplit
        exact ⟨rfl, rfl⟩

end Marks

namespace Schema

section Reading

variable {hints : Bool}

theorem written_eq (hints : Bool) (s : Schema) :
    s.written hints = s.body hints ++ s.marks.comment hints :=
  s.marks.annotate_eq_append hints _

def initial : Schema → CodePoint
  | primitive _ .string => 's'
  | primitive _ .number => 'n'
  | primitive _ .boolean => 'b'
  | array .. => '['
  | object .. => '\x7b'

theorem body_eq_cons (hints : Bool) (s : Schema) : ∃ u, s.body hints = s.initial :: u := by
  cases s with
  | primitive m k => cases k <;> exact ⟨_, rfl⟩
  | array m item => exact ⟨_, rfl⟩
  | object m fields => exact ⟨_, rfl⟩

theorem initial_eq_of_body {s t : Schema} {x y : Text}
    (h : s.body hints ++ x = t.body hints ++ y) : s.initial = t.initial := by
  obtain ⟨u, hu⟩ := body_eq_cons hints s
  obtain ⟨v, hv⟩ := body_eq_cons hints t
  rw [hu, hv] at h
  exact (List.cons.inj h).1

theorem exists_primitive_of_initial {m : Marks} {k : Primitive} {t : Schema}
    (h : (primitive m k).initial = t.initial) : ∃ n, t = primitive n k := by
  cases t with
  | primitive n l =>
    cases k <;> cases l <;> first
      | exact ⟨n, rfl⟩
      | exact absurd h (by simp only [initial]; decide)
  | array n item => cases k <;> exact absurd h (by simp only [initial]; decide)
  | object n fields => cases k <;> exact absurd h (by simp only [initial]; decide)

theorem exists_array_of_initial {m : Marks} {item t : Schema}
    (h : (array m item).initial = t.initial) : ∃ n item', t = array n item' := by
  cases t with
  | primitive n l => cases l <;> exact absurd h (by simp only [initial]; decide)
  | array n item' => exact ⟨n, item', rfl⟩
  | object n fields => exact absurd h (by simp only [initial]; decide)

theorem exists_object_of_initial {m : Marks} {fields : List (Text × Schema)} {t : Schema}
    (h : (object m fields).initial = t.initial) : ∃ n fields', t = object n fields' := by
  cases t with
  | primitive n l => cases l <;> exact absurd h (by simp only [initial]; decide)
  | array n item => exact absurd h (by simp only [initial]; decide)
  | object n fields' => exact ⟨n, fields', rfl⟩

def closing (hints : Bool) (fields : List (Text × Schema)) (x : Text) : Text :=
  Text.join ", " (entries hints fields) ++ (" \x7d" ++ x)

def following (hints : Bool) (fields : List (Text × Schema)) (x : Text) : Text :=
  match fields with
  | [] => " \x7d" ++ x
  | f :: fields => ", " ++ closing hints (f :: fields) x

theorem body_array_append (m : Marks) (item : Schema) (x : Text) :
    (array m item).body hints ++ x = "[" ++ (item.written hints ++ ("]" ++ x)) := by
  rw [body, written]
  simp only [List.append_assoc]

theorem body_object_append (m : Marks) (fields : List (Text × Schema)) (x : Text) :
    (object m fields).body hints ++ x = "\x7b " ++ closing hints fields x := by
  rw [body, closing]
  simp only [List.append_assoc]

theorem delimited_following (fields : List (Text × Schema)) (x : Text) :
    Delimited (following hints fields x) := by
  cases fields with
  | nil => exact .inr ⟨" \x7d", by decide, List.prefix_append _ x⟩
  | cons f fields => exact .inr ⟨", ", by decide, List.prefix_append _ _⟩

theorem closing_cons (key : Text) (child : Schema) (fields : List (Text × Schema)) (x : Text) :
    closing hints ((key, child) :: fields) x =
      key ++ (':' : CodePoint) :: (' ' : CodePoint) ::
        (child.written hints ++ following hints fields x) := by
  have hentry : key ++ (": " : Text) ++ child.written hints =
      key ++ (':' : CodePoint) :: (' ' : CodePoint) :: child.written hints := by
    simp [Text.ofString]
  cases fields with
  | nil =>
    have hjoin : Text.join ", " (entries hints [(key, child)]) =
        key ++ (": " : Text) ++ child.written hints := rfl
    rw [closing, hjoin, hentry, following]
    simp
  | cons f fields =>
    have hjoin : Text.join ", " (entries hints ((key, child) :: f :: fields)) =
        key ++ (": " : Text) ++ child.written hints ++ ", " ++
          Text.join ", " (entries hints (f :: fields)) := rfl
    rw [closing, hjoin, hentry, following, closing]
    simp

/-- Where the fields end is seen by what follows each of them. -/
theorem closing_of_following {fields fields' : List (Text × Schema)} {x y : Text}
    (h : following hints fields x = following hints fields' y) :
    closing hints fields x = closing hints fields' y := by
  cases fields with
  | nil =>
    cases fields' with
    | nil => exact h
    | cons f fields' => exact absurd (List.cons.inj h).1 (by decide)
  | cons f fields =>
    cases fields' with
    | nil => exact absurd (List.cons.inj h).1 (by decide)
    | cons g fields' => exact List.append_cancel_left h

/-- No field begins like the end of an object. -/
theorem closing_cons_ne {key : Text} (hk : key.IsName) (child : Schema)
    (fields : List (Text × Schema)) (x y : Text) :
    closing hints ((key, child) :: fields) x ≠ closing hints [] y := by
  intro h
  rw [closing_cons] at h
  cases key with
  | nil => exact absurd (List.cons.inj h).1 (by decide)
  | cons c key =>
    obtain ⟨rfl, -⟩ := List.cons.inj h
    exact hk.1 (List.mem_cons_self ..)

variable {same : Marks → Marks → Prop}

/-- Fields are read in one way up to the end of their object if their types are. -/
theorem closing_inj {fields fields' : List (Text × Schema)} {x y : Text}
    (hk : ∀ f ∈ fields, f.1.IsName) (hk' : ∀ f ∈ fields', f.1.IsName)
    (ih : ∀ f ∈ fields, ∀ g ∈ fields', ∀ {r r'}, Delimited r → Delimited r' →
      f.2.written hints ++ r = g.2.written hints ++ r' → Parallel same f.2 g.2 ∧ r = r')
    (h : closing hints fields x = closing hints fields' y) :
    ParallelFields same fields fields' ∧ x = y := by
  induction fields generalizing fields' with
  | nil =>
    cases fields' with
    | nil => exact ⟨.nil, List.append_cancel_left h⟩
    | cons g fields' =>
      exact absurd h.symm (closing_cons_ne (hk' g (List.mem_cons_self ..)) g.2 fields' y x)
  | cons f fields ihf =>
    cases fields' with
    | nil => exact absurd h (closing_cons_ne (hk f (List.mem_cons_self ..)) f.2 fields x y)
    | cons g fields' =>
      obtain ⟨key, child⟩ := f
      obtain ⟨key', child'⟩ := g
      obtain ⟨hkey, hkeys⟩ := List.forall_mem_cons.1 hk
      obtain ⟨hkey', hkeys'⟩ := List.forall_mem_cons.1 hk'
      rw [closing_cons, closing_cons] at h
      obtain ⟨rfl, hrest⟩ := Text.append_cons_inj hkey.2 hkey'.2 h
      obtain ⟨hchild, hfollowing⟩ := ih _ (List.mem_cons_self ..) _ (List.mem_cons_self ..)
        (delimited_following fields x) (delimited_following fields' y) (List.cons.inj hrest).2
      obtain ⟨hfields, hx⟩ := ihf hkeys hkeys'
        (fun f hf g hg => ih f (List.mem_cons_of_mem _ hf) g (List.mem_cons_of_mem _ hg))
        (closing_of_following hfollowing)
      exact ⟨.cons hchild hfields, hx⟩

/-- A form is read in one way up to a delimiter: the shape, what each comment says, and the rest. -/
theorem written_append_inj {s t : Schema} (hs : s.Readable hints) (ht : t.Readable hints)
    {r r' : Text} (hr : Delimited r) (hr' : Delimited r')
    (h : s.written hints ++ r = t.written hints ++ r') :
    Parallel (fun m n => m.comment hints = n.comment hints) s t ∧ r = r' := by
  have own {s : Schema} (hs : s.Readable hints) (hh : hints = true) (rule : Rule)
      (hrule : s.marks.rule = some rule) : ¬ ("*/" : Text) <:+: rule.label :=
    (hs.labels hh).not_closing rule (mem_rules_self hrule)
  -- the comments are read once the texts before them are seen to be the same
  have comments {s t : Schema} (hs : s.Readable hints) (ht : t.Readable hints) {r r' : Text}
      (hr : Delimited r) (hr' : Delimited r') :=
    Marks.comment_append_inj (own hs) (own ht) hr hr'
  induction s using nodes generalizing t r r' with
  | primitive m k =>
    rw [written_eq, written_eq, List.append_assoc, List.append_assoc] at h
    obtain ⟨n, rfl⟩ := exists_primitive_of_initial (initial_eq_of_body h)
    obtain ⟨hmarks, hrest⟩ := comments hs ht hr hr' (List.append_cancel_left h)
    exact ⟨.primitive hmarks, hrest⟩
  | array m item ih =>
    rw [written_eq, written_eq, List.append_assoc, List.append_assoc] at h
    obtain ⟨n, item', rfl⟩ := exists_array_of_initial (initial_eq_of_body h)
    have delimited (x : Text) : Delimited ("]" ++ x) :=
      .inr ⟨"]", by decide, List.prefix_append _ x⟩
    rw [body_array_append, body_array_append] at h
    obtain ⟨hitem, hclosed⟩ := ih hs.item ht.item (delimited _) (delimited _)
      (List.append_cancel_left h)
    obtain ⟨hmarks, hrest⟩ := comments hs ht hr hr' (List.append_cancel_left hclosed)
    exact ⟨.array hmarks hitem, hrest⟩
  | object m fields ih =>
    rw [written_eq, written_eq, List.append_assoc, List.append_assoc] at h
    obtain ⟨n, fields', rfl⟩ := exists_object_of_initial (initial_eq_of_body h)
    rw [body_object_append, body_object_append] at h
    obtain ⟨hfields, hclosed⟩ := closing_inj (fun f hf => hs.keys.key hf)
      (fun g hg => ht.keys.key hg)
      (fun f hf g hg => ih f hf (hs.field hf) (ht.field hg)) (List.append_cancel_left h)
    obtain ⟨hmarks, hrest⟩ := comments hs ht hr hr' hclosed
    exact ⟨.object hmarks hfields, hrest⟩

theorem entries_congr {fields fields' : List (Text × Schema)}
    (hf : ParallelFields same fields fields')
    (ih : ∀ f ∈ fields, ∀ t, Parallel same f.2 t → f.2.written hints = t.written hints) :
    entries hints fields = entries hints fields' := by
  induction fields generalizing fields' with
  | nil =>
    cases hf
    rfl
  | cons f fields ihf =>
    cases hf with
    | @cons key child child' _ fields' hchild hfields =>
      obtain ⟨hhead, htail⟩ := List.forall_mem_cons.1 ih
      exact congrArg₂ (fun t ts => (key ++ (": " : Text) ++ t) :: ts) (hhead child' hchild)
        (ihf hfields htail)

/-- The shape and the comments are all that is written. -/
theorem written_congr {s t : Schema}
    (h : Parallel (fun m n => m.comment hints = n.comment hints) s t) :
    s.written hints = t.written hints := by
  induction s using nodes generalizing t with
  | primitive m k =>
    cases h with
    | primitive hmarks =>
      rw [written_eq, written_eq]
      exact congrArg _ hmarks
  | array m item ih =>
    cases h with
    | array hmarks hitem =>
      rw [written_eq, written_eq, body_array_append, body_array_append, ih hitem]
      exact congrArg _ (congrArg _ (congrArg _ hmarks))
  | object m fields ih =>
    cases h with
    | object hmarks hfields =>
      rw [written_eq, written_eq, body_object_append, body_object_append, closing, closing,
        entries_congr hfields fun f hf t => ih f hf]
      exact congrArg _ (congrArg _ (congrArg _ hmarks))

/-- Two forms are the same exactly for one shape with the same comments. -/
theorem written_eq_iff {s t : Schema} (hs : s.Readable hints) (ht : t.Readable hints) :
    s.written hints = t.written hints ↔
      Parallel (fun m n => m.comment hints = n.comment hints) s t := by
  refine ⟨fun h => ?_, written_congr⟩
  exact (written_append_inj hs ht (.inl rfl) (.inl rfl) (congrArg (· ++ []) h)).1

end Reading

section Forms

/-- No delimiter begins like another one. -/
theorem delimiter_append_inj {d d' r r' : Text} (hd : d ∈ delimiters) (hd' : d' ∈ delimiters)
    (h : d ++ r = d' ++ r') : d = d' ∧ r = r' := by
  simp only [delimiters, List.mem_cons, List.not_mem_nil, or_false] at hd hd'
  rcases hd with rfl | rfl | rfl <;> rcases hd' with rfl | rfl | rfl <;> first
    | exact ⟨rfl, List.append_cancel_left h⟩
    | exact absurd (List.cons.inj h).1 (by decide)

/--
The plain forms of two schemas are the same exactly if the schemas have one shape. With a delimiter
and anything else behind it a plain form is not taken for that of another shape either, and what
stands behind it is told as well.
-/
theorem plain_readable {s t : Schema} (hs : s.NamesKeys) (ht : t.NamesKeys) :
    (s.plain = t.plain ↔ s.SameShape t) ∧
      ∀ d ∈ delimiters, ∀ d' ∈ delimiters, ∀ r r' : Text,
        s.plain ++ (d ++ r) = t.plain ++ (d' ++ r') → s.SameShape t ∧ d = d' ∧ r = r' := by
  have hs' : s.Readable false := ⟨hs, fun h => by cases h⟩
  have ht' : t.Readable false := ⟨ht, fun h => by cases h⟩
  have shape : Parallel (fun m n => m.comment false = n.comment false) s t ↔ s.SameShape t :=
    ⟨Parallel.mono fun _ _ _ => trivial, Parallel.mono fun _ _ _ => rfl⟩
  constructor
  · rw [← shape]
    exact written_eq_iff hs' ht'
  · intro d hd d' hd' r r' h
    obtain ⟨hshape, hrest⟩ := written_append_inj hs' ht' (.inr ⟨d, hd, List.prefix_append d r⟩)
      (.inr ⟨d', hd', List.prefix_append d' r'⟩) h
    exact ⟨shape.1 hshape, delimiter_append_inj hd hd' hrest⟩

def innerFirst : Schema :=
  .object .plain
    [("a", .object .plain [("b", .array .plain (.primitive .plain .string))]),
      ("c", .object .plain [])]

def innerBoth : Schema :=
  .object .plain
    [("a", .object .plain [("b", .array .plain (.primitive .plain .string)),
      ("c", .object .plain [])])]

theorem plain_innerFirst :
    innerFirst.NamesKeys ∧ innerBoth.NamesKeys ∧
      (innerFirst.plain = innerBoth.plain ↔ innerFirst.SameShape innerBoth) ∧
        ∀ r r' : Text, innerFirst.plain ++ (", " ++ r) ≠ innerBoth.plain ++ (" \x7d" ++ r') := by
  have hlist : (array .plain (.primitive .plain .string)).NamesKeys :=
    namesKeys_array _ (namesKeys_primitive _ _)
  have hempty : (object .plain []).NamesKeys := namesKeys_object _ nofun
  have hfirst : innerFirst.NamesKeys := by
    apply namesKeys_object
    simp only [List.forall_mem_cons]
    refine ⟨⟨by decide, namesKeys_object _ ?_⟩, ⟨by decide, hempty⟩, nofun⟩
    simp only [List.forall_mem_cons]
    exact ⟨⟨by decide, hlist⟩, nofun⟩
  have hboth : innerBoth.NamesKeys := by
    apply namesKeys_object
    simp only [List.forall_mem_cons]
    refine ⟨⟨by decide, namesKeys_object _ ?_⟩, nofun⟩
    simp only [List.forall_mem_cons]
    exact ⟨⟨by decide, hlist⟩, ⟨by decide, hempty⟩, nofun⟩
  obtain ⟨hiff, hread⟩ := plain_readable hfirst hboth
  refine ⟨hfirst, hboth, hiff, fun r r' h => ?_⟩
  exact absurd (hread ", " (by decide) " \x7d" (by decide) r r' h).2.1 (by decide)

end Forms

end Schema

namespace Marks

def Agree (m n : Marks) : Prop := m.label? = n.label? ∧ m.optional = n.optional

def optionalText : Option Text → Text
  | none => "optional"
  | some l => l ++ ", optional"

/-- The label of a required node says what the comment of an optional one does. -/
def Feigns (m n : Marks) : Prop :=
  m.optional = false ∧ n.optional = true ∧ m.label? = some (optionalText n.label?)

/-- Marks with one comment: they agree, or the label of one says what the other is marked with. -/
def LookAlike (m n : Marks) : Prop := m.Agree n ∨ m.Feigns n ∨ n.Feigns m

theorem hint?_eq (m : Marks) :
    m.hint? = if m.optional then some (optionalText m.label?) else m.label? := by
  obtain ⟨rule, optional⟩ := m
  cases rule <;> cases optional <;> simp [hint?, label?, optionalText, Text.join, Text.ofString]

theorem length_optionalText (l : Text) :
    (optionalText none).length < (optionalText (some l)).length := by
  simp [optionalText, Text.ofString]

theorem optionalText_inj {a b : Option Text} (h : optionalText a = optionalText b) : a = b := by
  have hlength := congrArg List.length h
  cases a with
  | none =>
    cases b with
    | none => rfl
    | some l => exact absurd hlength (Nat.ne_of_lt (length_optionalText l))
  | some l =>
    cases b with
    | none => exact absurd hlength (Nat.ne_of_gt (length_optionalText l))
    | some l' => exact congrArg some (List.append_cancel_right h)

theorem hint?_eq_iff {m n : Marks} : m.hint? = n.hint? ↔ m.LookAlike n := by
  rw [hint?_eq, hint?_eq, LookAlike]
  cases hm : m.optional <;> cases hn : n.optional
  · simp [Agree, Feigns, hm, hn]
  · simp [Agree, Feigns, hm, hn]
  · simp [Agree, Feigns, hm, hn, eq_comm]
  · have hlabels : optionalText m.label? = optionalText n.label? ↔ m.label? = n.label? :=
      ⟨optionalText_inj, congrArg optionalText⟩
    simp [Agree, Feigns, hm, hn, hlabels]

end Marks

def Text.ReadsOptional (t : Text) : Prop := t = "optional" ∨ (", optional" : Text) <:+ t

theorem Text.readsOptional_optionalText (label? : Option Text) :
    (Marks.optionalText label?).ReadsOptional := by
  cases label? with
  | none => exact .inl rfl
  | some l => exact .inr ⟨l, rfl⟩

theorem Marks.Feigns.readsOptional {m n : Marks} (h : m.Feigns n) :
    ∃ rule, m.rule = some rule ∧ rule.label.ReadsOptional := by
  obtain ⟨-, -, hlabel⟩ := h
  obtain ⟨rule, hrule, hl⟩ := Option.map_eq_some_iff.1 hlabel
  refine ⟨rule, hrule, ?_⟩
  rw [hl]
  exact Text.readsOptional_optionalText _

namespace Schema

/--
The hinted forms of two schemas are the same exactly if the schemas have one shape and the marks of
each node say the same, or else the label of a required node is what an optional one says. So a form
tells the label and the optional mark of every node if no label ends like the mark.
-/
theorem hinted_readable {s t : Schema} (hs : s.NamesKeys) (ht : t.NamesKeys) (hls : s.LabelsPass)
    (hlt : t.LabelsPass) :
    (s.hinted = t.hinted ↔ Parallel Marks.LookAlike s t) ∧
      ((∀ rule ∈ s.rules, ¬ rule.label.ReadsOptional) →
        (∀ rule ∈ t.rules, ¬ rule.label.ReadsOptional) →
          s.hinted = t.hinted → Parallel Marks.Agree s t) := by
  have hlook : (fun m n : Marks => m.comment true = n.comment true) = Marks.LookAlike := by
    funext m n
    exact propext (Marks.comment_eq_iff.trans Marks.hint?_eq_iff)
  have hiff : s.hinted = t.hinted ↔ Parallel Marks.LookAlike s t := by
    rw [← hlook]
    exact written_eq_iff ⟨hs, fun _ => hls⟩ ⟨ht, fun _ => hlt⟩
  refine ⟨hiff, fun hss hst heq => ?_⟩
  refine (hiff.1 heq).imp (P := fun rule => ¬ rule.label.ReadsOptional) ?_ hss hst
  rintro m n hm hn (h | h | h)
  · exact h
  · obtain ⟨rule, hrule, hreads⟩ := h.readsOptional
    exact absurd hreads (hm rule hrule)
  · obtain ⟨rule, hrule, hreads⟩ := h.readsOptional
    exact absurd hreads (hn rule hrule)

def marked (m : Marks) : Schema := .object .plain [("k", .primitive m .string)]

theorem namesKeys_marked (m : Marks) : (marked m).NamesKeys := by
  apply namesKeys_object
  simp only [List.forall_mem_cons]
  exact ⟨⟨by decide, namesKeys_primitive _ _⟩, nofun⟩

theorem labelsPass_marked {m : Marks}
    (h : ∀ rule ∈ m.rule, Rule.checkLabel rule.label = .ok rule.label) : (marked m).LabelsPass := by
  intro rule hr
  apply h
  simpa [marked, rules, fieldRules, Marks.plain] using hr

def labelled (label : Text) (optional : Bool) : Marks :=
  ⟨some ⟨label, fun _ => ⟨[], .ok true⟩⟩, optional⟩

def endsLikeMark : Schema := marked (labelled "short, optional" false)

def shortOrAbsent : Schema := marked (labelled "short" true)

theorem hinted_endsLikeMark :
    endsLikeMark.NamesKeys ∧ shortOrAbsent.NamesKeys ∧ endsLikeMark.LabelsPass ∧
      shortOrAbsent.LabelsPass ∧
        (endsLikeMark.hinted = shortOrAbsent.hinted ↔
          Parallel Marks.LookAlike endsLikeMark shortOrAbsent) := by
  have hs : endsLikeMark.NamesKeys := namesKeys_marked _
  have ht : shortOrAbsent.NamesKeys := namesKeys_marked _
  have hls : endsLikeMark.LabelsPass := labelsPass_marked (by rintro rule ⟨⟩; rfl)
  have hlt : shortOrAbsent.LabelsPass := labelsPass_marked (by rintro rule ⟨⟩; rfl)
  exact ⟨hs, ht, hls, hlt, (hinted_readable hs ht hls hlt).1⟩

/-- A required field labelled with the mark reads like an optional one without a label. -/
theorem required_reads_optional :
    ¬ ∀ s t : Schema, s.NamesKeys → t.NamesKeys → s.LabelsPass → t.LabelsPass →
      s.hinted = t.hinted → Parallel Marks.Agree s t := by
  intro h
  have hlabel : (marked (labelled "optional" false)).LabelsPass :=
    labelsPass_marked (by rintro rule ⟨⟩; rfl)
  have hnone : (marked ⟨none, true⟩).LabelsPass := labelsPass_marked nofun
  have hagree := h _ _ (namesKeys_marked _) (namesKeys_marked _) hlabel hnone (by decide)
  cases hagree with
  | object _ hfields =>
    cases hfields with
    | cons hchild _ =>
      cases hchild with
      | primitive hmarks => exact absurd hmarks.2 (by decide)

end Schema

end ReplySchema
