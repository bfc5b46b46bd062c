import ReplySchema.Proofs.Schema.Passing

/-!
A check that stops at once and a check that visits everything agree: the first returns when the
second finds nothing, and raises the head of the second's findings otherwise. What stands in the
findings for a rule that does not hold is a failure that shows the value, except for a value that
holds an integer too long to be shown.
-/

namespace ReplySchema

namespace Failure

theorem path_under (step : Step) (f : Failure) : (f.under step).path = step :: f.path := by
  cases step <;> rfl

theorem root_under (step : Step) (f : Failure) : (f.under step).root = f.root := by
  cases step <;> rfl

theorem path_foldr_under (p : Path) (f : Failure) : (p.foldr under f).path = p ++ f.path := by
  induction p with
  | nil => rfl
  | cons step p ih => rw [List.foldr_cons, path_under, ih, List.cons_append]

theorem root_foldr_under (p : Path) (f : Failure) : (p.foldr under f).root = f.root := by
  induction p with
  | nil => rfl
  | cons step p ih => rw [List.foldr_cons, root_under, ih]

end Failure

def Rule.never : Rule := ⟨"never", fun _ => ⟨[], .ok false⟩⟩

def Schema.noNumber : Schema := .primitive ⟨some .never, false⟩ .number

def longNumber : Int := 10 ^ Json.maxIntegerDigits

namespace Schema

theorem isLong_longNumber : Json.IsLong longNumber := Json.isLong_pow (Nat.le_refl _)

theorem check_noNumber_long (limit : Nat) :
    (noNumber.check limit (.int longNumber)).result =
      .error (.fault Json.EncodeError.longInteger.toFault) := by
  have he : Json.encode limit (.int longNumber) = .error .longInteger := by
    rw [Json.encode, Json.printInt_of_long isLong_longNumber]
  rw [check_result]
  simp [noNumber, failures, Primitive.accepts, objections, marks, Marks.judge, Rule.never, refusal,
    he, outcome, Finding.raised]

/--
The check that stops raises the head of what the check that goes on finds: at the path `p` a failure
in one wrapper for each step of `p`, or a fault as it is. A rule that does not hold gives the failure
that shows the assembled value, or the fault of printing it when it holds a long integer.
-/
theorem check_raises_first_finding (limit : Nat) (s : Schema) (v : Value) :
    ((∃ r, (s.check limit v).result = .ok r) ↔ s.failures limit v = []) ∧
    (∀ p c rest, s.failures limit v = ⟨p, c⟩ :: rest →
      (∀ f, c = .failure f → ∃ g, (s.check limit v).result = .error (.failure g) ∧
        g = p.foldr Failure.under f ∧ g.path = p ++ f.path ∧ g.root = f.root) ∧
      (∀ x, c = .fault x → (s.check limit v).result = .error (.fault x))) ∧
    (∀ (n : Schema) (u : Value), n.bare.failures limit u = [] → n.marks.Refuses (n.project u) →
      n.failures limit u = [⟨[], n.refusal limit (n.project u)⟩] ∧
      ((¬ Json.HoldsLong (n.project u) ∧ ∃ text, Json.encode limit (n.project u) = .ok text ∧
        n.refusal limit (n.project u) = .failure (.validationFailed (n.wording text) text)) ∨
      Json.HoldsLong (n.project u) ∧
        n.refusal limit (n.project u) = .fault Json.EncodeError.longInteger.toFault)) := by
  refine ⟨?_, ?_, ?_⟩
  · rw [check_result]
    simp [outcome_eq_ok_iff]
  · intro p c rest h
    rw [check_result, h]
    refine ⟨?_, ?_⟩
    · rintro f rfl
      refine ⟨_, ?_, rfl, Failure.path_foldr_under p f, Failure.root_foldr_under p f⟩
      rw [outcome, Finding.raised_of_failure rfl]
    · rintro x rfl
      rw [outcome, Finding.raised_of_fault rfl]
  · intro n u h hr
    exact ⟨(failures_of_bare h).trans (objections_of_refuses hr), refusal_of_bare h⟩

/-- A long integer that a rule refuses is not reported as a failure of validation. -/
theorem long_integer_not_shown :
    Marks.Refuses noNumber.marks (.int longNumber) ∧
    ∀ limit message text, (noNumber.check limit (.int longNumber)).result ≠
      .error (.failure (.validationFailed message text)) := by
  refine ⟨⟨.never, rfl, rfl⟩, fun limit message text h => ?_⟩
  rw [check_noNumber_long] at h
  cases h

end Schema

end ReplySchema
