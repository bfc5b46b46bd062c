import ReplySchema.Proofs.Text.Search

/-!
Comments in a text. A comment begins with ` /* ` and goes up to the next ` */`. Erasing takes the
comments out from left to right, so it gets back a text into which comments were put, provided that
no `/*` stands in that text and no `*/` in what the comments say.
-/

namespace ReplySchema.Text

theorem length_of_splitAt? {word t before rest : Text} (h : splitAt? word t = some (before, rest)) :
    before.length + word.length + rest.length = t.length := by
  rw [eq_append_of_splitAt? h, List.length_append, List.length_append, Nat.add_assoc]

theorem length_of_comment {t before rest body after : Text}
    (hopen : splitAt? " /* " t = some (before, rest))
    (hclose : splitAt? " */" rest = some (body, after)) : after.length < t.length := by
  have h1 := length_of_splitAt? hopen
  have h2 := length_of_splitAt? hclose
  have h3 : (" /* " : Text).length = 4 := rfl
  omega

/-- The text without its comments, and what the comments say, in order. -/
def eraseComments (t : Text) : Text × List Text :=
  match hopen : splitAt? " /* " t with
  | none => (t, [])
  | some (before, rest) =>
    match hclose : splitAt? " */" rest with
    | none => (t, [])
    | some (body, after) =>
      have := length_of_comment hopen hclose
      (before ++ (eraseComments after).1, body :: (eraseComments after).2)
termination_by t.length

/-- `Woven k bodies t`: putting comments that say `bodies` into `k` makes `t`. -/
inductive Woven : Text → List Text → Text → Prop
  | nil : Woven [] [] []
  | cons {k t : Text} {bodies : List Text} (c : CodePoint) :
    Woven k bodies t → Woven (c :: k) bodies (c :: t)
  | comment {k t body : Text} {bodies : List Text} :
    ¬ ("*/" : Text) <:+: body → Woven k bodies t →
      Woven k (body :: bodies) (" /* " ++ (body ++ (" */" ++ t)))

namespace Woven

variable {k k' t t' : Text} {bodies bodies' : List Text}

theorem refl (t : Text) : Woven t [] t := by
  induction t with
  | nil => exact .nil
  | cons c t ih => exact .cons c ih

theorem append (h : Woven k bodies t) (h' : Woven k' bodies' t') :
    Woven (k ++ k') (bodies ++ bodies') (t ++ t') := by
  induction h with
  | nil => exact h'
  | cons c _ ih => exact .cons c ih
  | comment hbody _ ih =>
    simp only [List.append_assoc, List.cons_append]
    exact .comment hbody ih

theorem eq_of_nil (h : Woven k [] t) : t = k := by
  generalize hb : ([] : List Text) = bodies at h
  induction h with
  | nil => rfl
  | cons c _ ih => rw [ih hb]
  | comment => cases hb

end Woven

/-- A mark that begins with `x y z` stands first behind a text without `y z`, if `x` is neither. -/
theorem splitAt?_mark {x y z : CodePoint} (hy : y ≠ x) (hz : z ≠ x) (mark : Text) {a : Text}
    (ha : ¬ [y, z] <:+: a) (r : Text) :
    splitAt? (x :: y :: z :: mark) (a ++ (x :: y :: z :: mark ++ r)) = some (a, r) := by
  apply splitAt?_append
  intro b hne hb hmark
  -- a mark that begins in `b` has `y` in the second place and `z` in the third
  match b with
  | [] => exact hne rfl
  | [c] =>
    simp only [List.cons_append, List.nil_append, List.cons_prefix_cons] at hmark
    exact hy hmark.2.1
  | [c, d] =>
    simp only [List.cons_append, List.nil_append, List.cons_prefix_cons] at hmark
    exact hz hmark.2.2.1
  | c :: d :: e :: b =>
    simp only [List.cons_append, List.cons_prefix_cons] at hmark
    obtain ⟨-, rfl, rfl, -⟩ := hmark
    exact ha (List.IsInfix.trans ⟨[c], b, rfl⟩ hb.isInfix)

theorem splitAt?_opening {a : Text} (ha : ¬ ("/*" : Text) <:+: a) (r : Text) :
    splitAt? " /* " (a ++ (" /* " ++ r)) = some (a, r) :=
  splitAt?_mark (by decide) (by decide) " " ha r

theorem splitAt?_closing {body : Text} (hbody : ¬ ("*/" : Text) <:+: body) (r : Text) :
    splitAt? " */" (body ++ (" */" ++ r)) = some (body, r) :=
  splitAt?_mark (by decide) (by decide) [] hbody r

theorem eraseComments_of_not_infix {a : Text} (ha : ¬ ("/*" : Text) <:+: a) :
    eraseComments a = (a, []) := by
  have hopen : splitAt? " /* " a = none := by
    rw [splitAt?_eq_none_iff]
    intro h
    exact ha (List.IsInfix.trans ⟨[' '], [' '], rfl⟩ h)
  rw [eraseComments]
  split
  · rfl
  · rename_i hsome
    rw [hopen] at hsome
    cases hsome

theorem eraseComments_comment {a body : Text} (ha : ¬ ("/*" : Text) <:+: a)
    (hbody : ¬ ("*/" : Text) <:+: body) (t : Text) :
    eraseComments (a ++ (" /* " ++ (body ++ (" */" ++ t)))) =
      (a ++ (eraseComments t).1, body :: (eraseComments t).2) := by
  rw [eraseComments]
  split
  · rename_i hopen
    rw [splitAt?_opening ha] at hopen
    cases hopen
  · rename_i hopen
    rw [splitAt?_opening ha] at hopen
    cases hopen
    split
    · rename_i hclose
      rw [splitAt?_closing hbody] at hclose
      cases hclose
    · rename_i hclose
      rw [splitAt?_closing hbody] at hclose
      cases hclose
      rfl

/-- Erasing undoes weaving. The text `a` before the first comment is what the induction grows. -/
theorem Woven.eraseComments_append {k t : Text} {bodies : List Text} (h : Woven k bodies t)
    {a : Text} (ha : ¬ ("/*" : Text) <:+: a ++ k) :
    eraseComments (a ++ t) = (a ++ k, bodies) := by
  induction h generalizing a with
  | nil => exact eraseComments_of_not_infix ha
  | cons c _ ih =>
    have hstep := ih (a := a ++ [c])
    simp only [List.append_assoc, List.singleton_append] at hstep
    exact hstep ha
  | @comment k t body bodies hbody _ ih =>
    have hfront : ¬ ("/*" : Text) <:+: a := fun h => ha (h.trans (List.prefix_append a k).isInfix)
    have hback : ¬ ("/*" : Text) <:+: k := fun h => ha (h.trans (List.suffix_append a k).isInfix)
    have htail : eraseComments t = (k, bodies) := ih (a := []) hback
    rw [eraseComments_comment hfront hbody, htail]

theorem Woven.eraseComments {k t : Text} {bodies : List Text} (h : Woven k bodies t)
    (hk : ¬ ("/*" : Text) <:+: k) : t.eraseComments = (k, bodies) :=
  h.eraseComments_append (a := []) hk

end ReplySchema.Text
