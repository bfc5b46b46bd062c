import Mathlib.Data.List.TakeWhile
import ReplySchema.Proofs.Results
import ReplySchema.Proofs.Text.Comments
import ReplySchema.Schema.Rule

/-!
The labels of rules. A rule is made only with a label that says something when the blanks are gone
and that cannot close a comment; resolving what a caller offers gives no other rules.
-/

namespace ReplySchema

namespace Text

theorem dropBlanks_eq_nil_iff {t : Text} : t.dropBlanks = [] ↔ t.isBlank = true := by
  rw [dropBlanks, List.dropWhile_eq_nil_iff, isBlank, List.all_eq_true]

theorem isBlank_dropBlanks (t : Text) : t.dropBlanks.isBlank = t.isBlank := by
  induction t with
  | nil => rfl
  | cons c t ih =>
    rw [dropBlanks, List.dropWhile_cons]
    split
    · rename_i hc
      rw [isBlank, isBlank, List.all_cons, hc, Bool.true_and]
      exact ih
    · rfl

/-- Nothing is left between the blanks at both ends exactly if there are only blanks. -/
theorem trim_eq_nil_iff {t : Text} : t.trim = [] ↔ t.isBlank = true := by
  rw [trim, trimEnd, List.reverse_eq_nil_iff, dropBlanks_eq_nil_iff, isBlank, List.all_reverse]
  exact Eq.congr_left (isBlank_dropBlanks t)

/-- What may stand as a label in a comment. -/
def IsLabel (t : Text) : Prop := t.trim ≠ [] ∧ ¬ ("*/" : Text) <:+: t

end Text

def RuleSource.Made : RuleSource → Prop
  | .rule r => ∃ label test, Rule.make label test = .ok r
  | _ => True

namespace Rule

theorem checkLabel_eq_ok_iff {label t : Text} :
    checkLabel label = .ok t ↔ t = label ∧ label.IsLabel := by
  rw [checkLabel, Text.IsLabel, ne_eq, Text.trim_eq_nil_iff]
  split
  · rename_i hblank
    constructor
    · intro h
      cases h
    · intro h
      exact absurd hblank h.2.1
  · rename_i hblank
    split
    · rename_i hc
      constructor
      · intro h
        cases h
      · intro h
        rw [Text.contains_eq_false_iff.2 h.2.2] at hc
        cases hc
    · rename_i hc
      have hin := Text.contains_eq_false_iff.1 (Bool.not_eq_true _ ▸ hc)
      constructor
      · intro h
        cases h
        exact ⟨rfl, hblank, hin⟩
      · intro h
        rw [h.1]

theorem isLabel_of_make {label : Value} {test : Test} {r : Rule} (h : make label test = .ok r) :
    r.label.IsLabel := by
  cases label with
  | string t =>
    obtain ⟨u, hc, rfl⟩ := map_ok h
    obtain ⟨rfl, hl⟩ := checkLabel_eq_ok_iff.1 hc
    exact hl
  | _ => cases h

/-- Whatever is offered, and with whatever label, the rule has a label that may stand. -/
theorem isLabel_of_resolve {source : RuleSource} {label : Value} {r : Rule} (hs : source.Made)
    (h : resolve source label = .ok r) : r.label.IsLabel := by
  unfold resolve at h
  split at h
  · obtain ⟨label', test, hmade⟩ := hs
    cases h
    exact isLabel_of_make hmade
  · exact isLabel_of_make h
  · cases h
  · split at h
    · cases h
    · split at h
      · cases h
      · exact isLabel_of_make h
  · exact isLabel_of_make h

end Rule

end ReplySchema
