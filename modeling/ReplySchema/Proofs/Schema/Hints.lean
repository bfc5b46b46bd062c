import ReplySchema.Proofs.Schema.Labels
import ReplySchema.Proofs.Schema.Nodes
import ReplySchema.Schema.Written

/-!
Hints are well delimited. The hinted form of a schema is the plain form with one comment for each
node that has something to say, nodes in post-order. A label that a rule accepts cannot close its
comment, and a plain form opens none unless a field's key does, so erasing the comments of the hinted
form gives the plain form back, together with the hints.
-/

namespace ReplySchema

def Marks.hint? (m : Marks) : Option Text :=
  let mark : List Text := if m.optional then ["optional"] else []
  match m.label?.toList ++ mark with
  | [] => none
  | hints => some (Text.join ", " hints)

namespace Marks

theorem annotate_eq (m : Marks) (t : Text) :
    m.annotate true t = (m.hint?.map fun hint => t ++ (" /* " ++ (hint ++ " */"))).getD t := by
  obtain ⟨rule, optional⟩ := m
  cases rule <;> cases optional <;>
    simp [annotate, hintComment, hint?, label?, Text.join, Text.ofString]

theorem annotate_false (m : Marks) (t : Text) : m.annotate false t = t := rfl

theorem hint?_eq_none_iff {m : Marks} : m.hint? = none ↔ m.rule = none ∧ m.optional = false := by
  obtain ⟨rule, optional⟩ := m
  cases rule <;> cases optional <;> simp [hint?, label?]

/-- A hint closes no comment unless the label does. -/
theorem not_closing_hint {m : Marks}
    (hl : ∀ rule, m.rule = some rule → ¬ ("*/" : Text) <:+: rule.label)
    {hint : Text} (h : m.hint? = some hint) : ¬ ("*/" : Text) <:+: hint := by
  obtain ⟨rule, optional⟩ := m
  cases rule with
  | none =>
    cases optional with
    | false => cases h
    | true =>
      cases h
      decide
  | some rule =>
    have hlabel := hl rule rfl
    cases optional with
    | false =>
      cases h
      exact hlabel
    | true =>
      have hboth : hint? ⟨some rule, true⟩ = some (rule.label ++ (", optional" : Text)) := by
        simp [hint?, label?, Text.join, Text.ofString]
      rw [hboth] at h
      cases h
      intro hin
      rcases Text.infix_append_cons (b := " optional") (by decide) hin with hin | hin
      · exact hlabel hin
      · exact absurd hin (by decide)

end Marks

namespace Schema

mutual

/-- All nodes, fields in the order of declaration and each node behind those below it. -/
def postorder (s : Schema) : List Schema :=
  (match s with
  | primitive .. => []
  | array _ item => postorder item
  | object _ fields => fieldPostorder fields) ++ [s]

def fieldPostorder : List (Text × Schema) → List Schema
  | [] => []
  | (_, child) :: rest => postorder child ++ fieldPostorder rest

end

def hints (s : Schema) : List Text := s.postorder.filterMap fun n => n.marks.hint?

def fieldHints (fields : List (Text × Schema)) : List Text := fields.flatMap fun f => f.2.hints

theorem filterMap_fieldPostorder (fields : List (Text × Schema)) :
    (fieldPostorder fields).filterMap (fun n => n.marks.hint?) = fieldHints fields := by
  induction fields with
  | nil => rfl
  | cons f fields ih =>
    rw [fieldPostorder, List.filterMap_append, ih]
    rfl

theorem hints_primitive (m : Marks) (k : Primitive) :
    (primitive m k).hints = m.hint?.toList := by
  rw [hints, postorder, List.nil_append, List.filterMap_cons, List.filterMap_nil, marks]
  cases m.hint? <;> rfl

theorem hints_array (m : Marks) (item : Schema) :
    (array m item).hints = item.hints ++ m.hint?.toList := by
  rw [hints, postorder, List.filterMap_append, List.filterMap_cons, List.filterMap_nil, marks, hints]
  cases m.hint? <;> rfl

theorem hints_object (m : Marks) (fields : List (Text × Schema)) :
    (object m fields).hints = fieldHints fields ++ m.hint?.toList := by
  rw [hints, postorder, List.filterMap_append, filterMap_fieldPostorder, List.filterMap_cons,
    List.filterMap_nil, marks]
  cases m.hint? <;> rfl

def LabelsPass (s : Schema) : Prop :=
  ∀ rule ∈ s.rules, Rule.checkLabel rule.label = .ok rule.label

def KeysOpenNone (s : Schema) : Prop :=
  ∀ p m fields, s.Reaches p (.object m fields) → ∀ f ∈ fields, ¬ ("/*" : Text) <:+: f.1

theorem LabelsPass.not_closing {s : Schema} (h : s.LabelsPass) :
    ∀ rule ∈ s.rules, ¬ ("*/" : Text) <:+: rule.label :=
  fun rule hr => (Rule.checkLabel_eq_ok_iff.1 (h rule hr)).2.2

section Woven

open Text (Woven)

/-- A node that is woven without its own comment is woven with it. -/
theorem woven_annotate {m : Marks} (hl : ∀ rule, m.rule = some rule → ¬ ("*/" : Text) <:+: rule.label)
    {k t : Text} {below : List Text} (h : Woven k below t) :
    Woven k (below ++ m.hint?.toList) (m.annotate true t) := by
  rw [Marks.annotate_eq]
  cases hm : m.hint? with
  | none =>
    rw [Option.toList_none, List.append_nil]
    exact h
  | some hint =>
    have hcomment := Woven.comment (Marks.not_closing_hint hl hm) .nil
    have hboth := h.append hcomment
    rw [List.append_nil, List.append_nil] at hboth
    exact hboth

theorem woven_entry (key : Text) {k t : Text} {bodies : List Text} (h : Woven k bodies t) :
    Woven (key ++ ": " ++ k) bodies (key ++ ": " ++ t) :=
  (Woven.refl (key ++ ": ")).append h

/-- The fields of an object are woven, one behind the other. -/
theorem woven_entries {fields : List (Text × Schema)}
    (h : ∀ f ∈ fields, Woven f.2.plain f.2.hints f.2.hinted) :
    Woven (Text.join ", " (entries false fields)) (fieldHints fields)
      (Text.join ", " (entries true fields)) := by
  induction fields with
  | nil => exact .nil
  | cons f fields ih =>
    obtain ⟨key, child⟩ := f
    obtain ⟨hf, hfields⟩ := List.forall_mem_cons.1 h
    have hhead : Woven (key ++ ": " ++ child.plain) child.hints (key ++ ": " ++ child.hinted) :=
      woven_entry key hf
    have htail := ih hfields
    cases fields with
    | nil =>
      rw [show fieldHints [(key, child)] = child.hints from List.append_nil _]
      exact hhead
    | cons g fields =>
      have hcomma := hhead.append (Woven.refl ", ")
      rw [List.append_nil] at hcomma
      exact hcomma.append htail

/-- The hinted form is the plain form with the hints put in as comments. -/
theorem woven_hinted {s : Schema} (h : ∀ rule ∈ s.rules, ¬ ("*/" : Text) <:+: rule.label) :
    Woven s.plain s.hints s.hinted := by
  induction s using nodes with
  | primitive m k =>
    rw [hints_primitive, ← List.nil_append m.hint?.toList]
    apply woven_annotate
    · intro rule hr
      exact h rule (mem_rules_self hr)
    · exact .refl _
  | array m item ih =>
    rw [hints_array]
    apply woven_annotate
    · intro rule hr
      exact h rule (mem_rules_self hr)
    · have hitem := ih fun rule hr => h rule (mem_rules_item hr)
      have hboth := ((Woven.refl "[").append hitem).append (Woven.refl "]")
      rw [List.nil_append, List.append_nil] at hboth
      exact hboth
  | object m fields ih =>
    rw [hints_object]
    apply woven_annotate
    · intro rule hr
      exact h rule (mem_rules_self hr)
    · have hfields := woven_entries fun f hf => ih f hf fun rule hr => h rule (mem_rules_field hf hr)
      have hboth := ((Woven.refl "\x7b ").append hfields).append (Woven.refl " \x7d")
      rw [List.nil_append, List.append_nil] at hboth
      exact hboth

end Woven

section Plain

theorem mem_entries {fields : List (Text × Schema)} {t : Text} (h : t ∈ entries false fields) :
    ∃ f ∈ fields, t = f.1 ++ ": " ++ f.2.plain := by
  induction fields with
  | nil => cases h
  | cons f fields ih =>
    rcases List.mem_cons.1 h with rfl | h
    · exact ⟨f, List.mem_cons_self .., rfl⟩
    · obtain ⟨g, hg, ht⟩ := ih h
      exact ⟨g, List.mem_cons_of_mem _ hg, ht⟩

/-- A plain form opens a comment only in a key. -/
theorem not_opening_plain {s : Schema} (h : s.KeysOpenNone) : ¬ ("/*" : Text) <:+: s.plain := by
  induction s using nodes with
  | primitive m k =>
    rw [plain, body]
    cases k <;> decide
  | array m item ih =>
    intro hin
    have hitem : item.KeysOpenNone := fun p m' fields hr => h (.index 0 :: p) m' fields (.item hr)
    rcases Text.infix_append_cons (b := []) (by decide) (Text.infix_of_infix_cons (by decide) hin)
      with hin | hin
    · exact ih hitem hin
    · exact absurd hin (by decide)
  | object m fields ih =>
    intro hin
    rcases Text.infix_append_cons (b := "\x7d") (by decide) hin with hin | hin
    · have hseparator : ∀ c ∈ (", " : Text), c ∉ ("/*" : Text) :=
        List.forall_mem_cons.2 ⟨by decide, List.forall_mem_singleton.2 (by decide)⟩
      obtain ⟨t, ht, hin⟩ := (Text.infix_join_iff (List.cons_ne_nil _ _) (by decide) hseparator).1
        (Text.infix_of_infix_cons (by decide) (Text.infix_of_infix_cons (by decide) hin))
      obtain ⟨f, hf, rfl⟩ := mem_entries ht
      have hchild : f.2.KeysOpenNone :=
        fun p m' fields' hr => h (.key f.1 :: p) m' fields' (.field hf hr)
      rw [List.append_assoc] at hin
      rcases Text.infix_append_cons (by decide) hin with hin | hin
      · exact h [] m fields (.here _) f hf hin
      · exact ih f hf hchild (Text.infix_of_infix_cons (by decide) hin)
    · exact absurd hin (by decide)

end Plain

/--
Erasing the comments of the hinted form gives the plain form and the hints of all nodes that have
one, in post-order. So the two forms are the same exactly if no node has a rule or the optional mark.
-/
theorem eraseComments_hinted {s : Schema} (hl : s.LabelsPass) (hk : s.KeysOpenNone) :
    s.hinted.eraseComments = (s.plain, s.postorder.filterMap fun n => n.marks.hint?) ∧
      (s.hinted = s.plain ↔ ∀ n ∈ s.postorder, n.marks.rule = none ∧ n.marks.optional = false) := by
  have hwoven := woven_hinted hl.not_closing
  have herase := hwoven.eraseComments (not_opening_plain hk)
  refine ⟨herase, ?_⟩
  rw [show (∀ n ∈ s.postorder, n.marks.rule = none ∧ n.marks.optional = false) ↔ s.hints = [] by
    simp only [hints, List.filterMap_eq_nil_iff, Marks.hint?_eq_none_iff]]
  refine ⟨fun h => ?_, fun h => ?_⟩
  · rw [h, Text.eraseComments_of_not_infix (not_opening_plain hk)] at herase
    exact (congrArg Prod.snd herase).symm
  · rw [h] at hwoven
    exact hwoven.eq_of_nil

def remarked : Schema :=
  .object ⟨some ⟨"/*, \x7b\n]", fun _ => ⟨[], .ok true⟩⟩, false⟩
    [("a */ b", .array ⟨none, true⟩
      (.primitive ⟨some ⟨"/ x /* y *", fun _ => ⟨[], .ok true⟩⟩, true⟩ .string)),
      ("* /", .primitive .plain .number)]

theorem eraseComments_remarked :
    remarked.LabelsPass ∧ remarked.KeysOpenNone ∧
      remarked.hinted.eraseComments =
        (("\x7b a */ b: [string], * /: number \x7d" : Text),
          (["/ x /* y *, optional", "optional", "/*, \x7b\n]"] : List Text)) := by
  have hl : remarked.LabelsPass := by
    intro rule hr
    rcases List.mem_cons.1 hr with rfl | hr
    · rfl
    · cases List.mem_singleton.1 hr
      rfl
  have hk : remarked.KeysOpenNone := by
    intro p m fields hr
    cases hr with
    | here => decide
    | field hc hr =>
      rcases List.mem_cons.1 hc with hc | hc
      · cases hc
        cases hr with
        | item hr => cases hr
      · cases List.mem_singleton.1 hc
        cases hr
  exact ⟨hl, hk, (eraseComments_hinted hl hk).1⟩

end Schema

end ReplySchema
