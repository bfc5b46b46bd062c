import ReplySchema.Proofs.Schema.FirstFailure
import ReplySchema.Proofs.Schema.Places

/-!
What a schema does not declare. Values that differ in undeclared members, in keys that are no
strings, in the order of members, or below a place where both are of one wrong kind are alike to the
schema. A check puts the same questions about alike values, in the same order, and comes to the same
result, so nothing undeclared reaches a rule, the text of a failure, or the choice of the failure.
-/

namespace ReplySchema

/-- `Alike s v w`: nothing that `s` asks for tells `v` and `w` apart. -/
inductive Alike : Schema → Value → Value → Prop
  | same {m : Marks} {k : Primitive} (v : Value) : Alike (.primitive m k) v v
  | misfits {s : Schema} {v w : Value} :
    v.kind = w.kind → ¬ s.Fits v → ¬ s.Fits w → Alike s v w
  | items {m : Marks} {item : Schema} {vs ws : List Value} :
    vs.length = ws.length →
    (∀ (i : Nat) v w, vs[i]? = some v → ws[i]? = some w → Alike item v w) →
    Alike (.array m item) (.array vs) (.array ws)
  | members {m : Marks} {fields : List (Text × Schema)} {v w : Value}
    {ms ns : List (Text × Value)} :
    v.members? = some ms → w.members? = some ns →
    (∀ f ∈ fields, (find? f.1 ms).isSome = (find? f.1 ns).isSome) →
    (∀ f ∈ fields, ∀ v w, find? f.1 ms = some v → find? f.1 ns = some w → Alike f.2 v w) →
    Alike (.object m fields) v w

namespace Schema

theorem check_of_not_fits {limit : Nat} {s : Schema} {v : Value} (h : ¬ s.Fits v) :
    s.check limit v = s.mismatch v := by
  cases s with
  | primitive m k =>
    have hk : ¬ k.accepts v := mt Primitive.accepts_iff.1 h
    rw [check, if_neg hk]
  | array m item =>
    cases v with
    | array vs => exact absurd ⟨vs, rfl⟩ h
    | _ => rfl
  | object m fields =>
    have hv : v.members? = none := Option.eq_none_iff_forall_ne_some.2 fun ms hms => h ⟨ms, hms⟩
    rw [check, hv]

/-- Alike values are checked by the same run: the same questions, and the same result. -/
theorem check_eq_of_alike (limit : Nat) {s : Schema} {v w : Value} (h : Alike s v w) :
    s.check limit v = s.check limit w := by
  induction h generalizing limit with
  | same v => rfl
  | misfits hk hv hw => rw [check_of_not_fits hv, check_of_not_fits hw, mismatch, mismatch, hk]
  | items hl _ ih =>
    have hitems (d : Nat) := checkItems_congr hl (fun i v w hv hw => ih i v w hv hw d) 0
    simp only [check, hitems]
  | members hv hw hp _ ih =>
    have hfields (d : Nat) :=
      checkFields_congr hp fun f hf v w hv hw => ih f hf v w hv hw d
    simp only [check, hv, hw, hfields]

def order : Schema :=
  .object ⟨some .never, false⟩
    [("lines", .array .plain (.object .plain [("count", .primitive .plain .number)])),
      ("note", .primitive ⟨none, true⟩ .string)]

/-- An order with a key that is no string, and with what is not declared in it and in its only line. -/
def noisyOrder : Value :=
  .mapping [(.int 1, .null), (.string "trace", .null),
    (.string "lines", .array [.object [("code", .string "x"), ("count", .int 2)]])]

def plainMembers : List (Text × Value) :=
  [("lines", .array [.object [("count", .int 2)]]), ("draft", .bool true)]

theorem check_noisyOrder :
    Alike order noisyOrder (.object plainMembers) ∧
      order.check 1000 noisyOrder = order.check 1000 (.object plainMembers) := by
  have hline : Alike (.object .plain [("count", .primitive .plain .number)])
      (.object [("code", .string "x"), ("count", .int 2)]) (.object [("count", .int 2)]) := by
    refine .members rfl rfl (by decide) ?_
    rintro f hf v w hv hw
    cases List.mem_singleton.1 hf
    cases hv
    cases hw
    exact .same _
  have horder : Alike order noisyOrder (.object plainMembers) := by
    refine .members rfl rfl (by decide) ?_
    rintro f hf v w hv hw
    rcases List.mem_cons.1 hf with rfl | hf
    · cases hv
      cases hw
      refine .items rfl ?_
      intro i v w hv hw
      cases i with
      | zero =>
        cases hv
        cases hw
        exact hline
      | succ i => cases hv
    · cases List.mem_singleton.1 hf
      cases hv
  exact ⟨horder, check_eq_of_alike 1000 horder⟩

end Schema

end ReplySchema
