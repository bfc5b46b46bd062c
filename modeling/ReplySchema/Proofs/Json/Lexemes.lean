import ReplySchema.Proofs.Json.Scanning

/-!
The lexemes of a document. What a strict reader refuses is spelled by a single constant or number,
so it can be found by going through the lexemes in order, without a look at how they nest. Strings
are lexemes of their own: nothing inside one is refused.
-/

namespace ReplySchema.Json

inductive Lexeme
  | string (value : Text)
  /-- A quote that opens no string, with everything behind it. -/
  | unclosed (rest : Text)
  | word (name : Text)
  | constant (name : Text)
  | number (literal : Literal) (spelling : Text)
  /-- Any other code point: brackets, commas, colons and space. -/
  | mark (c : CodePoint)

def lexeme (c : CodePoint) (t : Text) : Lexeme × Text :=
  if c = '"' then
    match scanString (c :: t) [] t with
    | .error _ => (.unclosed t, [])
    | .ok (value, r) => (.string value, r)
  else
    match scanWord? (c :: t) words with
    | some (name, _, r) => (.word name, r)
    | none =>
      match scanWord? (c :: t) constants with
      | some (name, _, r) => (.constant name, r)
      | none =>
        match Literal.scan? (c :: t) with
        | some (l, r) => (.number l ((c :: t).take ((c :: t).length - r.length)), r)
        | none => (.mark c, t)

theorem length_lexeme (c : CodePoint) (t : Text) : (lexeme c t).2.length < (c :: t).length := by
  unfold lexeme
  split
  · split
    · exact Nat.succ_pos _
    · rename_i h
      exact Nat.lt_succ_of_lt (length_scanString h)
  · split
    · rename_i h
      exact length_scanWord? (by decide) h
    · split
      · rename_i h
        exact length_scanWord? (by decide) h
      · split
        · rename_i h
          exact Literal.length_scan? h
        · exact Nat.lt_succ_self _

def lexemes (s : Text) : List Lexeme :=
  match s with
  | [] => []
  | c :: t => (lexeme c t).1 :: lexemes (lexeme c t).2
termination_by s.length
decreasing_by exact length_lexeme c t

/-- What a strict reader refuses: a constant by its name, or a number by its spelling. -/
inductive Refusal
  | constant (name : Text)
  | outOfRange (spelling : Text)

def Refusal.stop : Refusal → Stop
  | .constant name => .constant name
  | .outOfRange spelling => .outOfRange spelling

def Refusal.error : Refusal → DecodeError
  | .constant name => .constant name
  | .outOfRange spelling => .outOfRange spelling

def Refusal.detail : Refusal → Text
  | .constant name => name ++ " is not valid JSON"
  | .outOfRange spelling => "number " ++ spelling ++ " is out of range"

theorem Refusal.toError_stop (s : Text) (x : Refusal) : x.stop.toError s = x.error := by
  cases x with
  | constant name => rfl
  | outOfRange spelling => rfl

theorem Refusal.message_error (x : Refusal) : x.error.message = x.detail := by
  cases x with
  | constant name => rfl
  | outOfRange spelling => rfl

def Lexeme.refusal? : Lexeme → Option Refusal
  | .constant name => some (.constant name)
  | .number l spelling =>
    if l.isFloat && !l.toDouble.isFinite then some (.outOfRange spelling) else none
  | _ => none

def firstRefusal? (s : Text) : Option Refusal := (lexemes s).findSome? Lexeme.refusal?

theorem firstRefusal?_nil : firstRefusal? [] = none := by
  rw [firstRefusal?, lexemes]
  rfl

theorem firstRefusal?_cons (c : CodePoint) (t : Text) : firstRefusal? (c :: t) =
    (lexeme c t).1.refusal?.or (firstRefusal? (lexeme c t).2) := by
  rw [firstRefusal?, lexemes, List.findSome?_cons]
  cases (lexeme c t).1.refusal? with
  | none => rfl
  | some x => rfl

section Passing

variable {c : CodePoint} {t r : Text} {l : Lexeme} {x : Refusal}

/-- A lexeme that is not refused can be dropped. -/
theorem firstRefusal?_of_pass (h : lexeme c t = (l, r)) (hl : l.refusal? = none) :
    firstRefusal? (c :: t) = firstRefusal? r := by
  rw [firstRefusal?_cons, h, hl, Option.none_or]

theorem firstRefusal?_of_refused (h : lexeme c t = (l, r)) (hl : l.refusal? = some x) :
    firstRefusal? (c :: t) = some x := by
  rw [firstRefusal?_cons, h, hl, Option.some_or]

end Passing

def marks : List CodePoint := ['[', ']', '{', '}', ',', ':', ' ', '\t', '\n', '\r']

theorem lexeme_of_mem_marks {c : CodePoint} (h : c ∈ marks) (t : Text) :
    lexeme c t = (.mark c, t) := by
  simp only [marks, List.mem_cons, List.not_mem_nil, or_false] at h
  rcases h with rfl | rfl | rfl | rfl | rfl | rfl | rfl | rfl | rfl | rfl <;> rfl

theorem firstRefusal?_mark {c : CodePoint} (h : c ∈ marks) (t : Text) :
    firstRefusal? (c :: t) = firstRefusal? t :=
  firstRefusal?_of_pass (lexeme_of_mem_marks h t) rfl

theorem mem_marks_of_isSpace {c : CodePoint} (h : isSpace c) : c ∈ marks := by
  simp only [isSpace, Bool.or_eq_true, decide_eq_true_eq] at h
  rcases h with ((rfl | rfl) | rfl) | rfl <;> decide

theorem firstRefusal?_dropSpace (s : Text) : firstRefusal? (dropSpace s) = firstRefusal? s := by
  induction s with
  | nil => rfl
  | cons c t ih =>
    by_cases hc : isSpace c
    · rw [dropSpace, List.dropWhile_cons_of_pos hc, firstRefusal?_mark (mem_marks_of_isSpace hc)]
      exact ih
    · rw [dropSpace, List.dropWhile_cons_of_neg hc]

theorem firstRefusal?_string {t r value : Text}
    (h : scanString ('"' :: t) [] t = .ok (value, r)) :
    firstRefusal? ('"' :: t) = firstRefusal? r := by
  have hl : lexeme '"' t = (.string value, r) := by
    rw [lexeme, if_pos rfl, h]
  exact firstRefusal?_of_pass hl rfl

end ReplySchema.Json
