import ReplySchema.Json.Decode
import ReplySchema.Proofs.Results

/-!
Scanning without the lengths. The scanners promise how much shorter the rest of the text is; each
has an equation that forgets the promise, so that a scan can be computed on a given text. Items and
members are read by one and the same loop, each by its own reader of an element.
-/

namespace ReplySchema.Json

/-- The result and the text left over, without the length of that text. -/
def Scanned.plain {α : Type} {n : Nat} : Scanned α n → Except Stop (α × Text)
  | .error e => .error e
  | .ok (a, r) => .ok (a, r.1)

theorem Scanned.plain_ok {α : Type} {n : Nat} (a : α) (r : { r : Text // r.length < n }) :
    Scanned.plain (.ok (a, r)) = .ok (a, r.1) := rfl

theorem Scanned.plain_weaken {α : Type} {m n : Nat} (h : m ≤ n) (x : Scanned α m) :
    (x.weaken h).plain = x.plain := by
  cases x
  · rfl
  · rfl

theorem plain_scanNumber (st : Strictness) (s : Text) : (scanNumber st s).plain =
    match Literal.scan? s with
    | none => .error (.malformed .expectingValue s)
    | some (l, r) =>
      if l.isFloat then
        if l.toDouble.isFinite || st.allowNan then .ok (.float l.toDouble, r)
        else .error (.outOfRange (s.take (s.length - r.length)))
      else if maxIntegerDigits < l.whole.length then .error (.longInteger l.whole.length)
      else .ok (.int l.toInt, r) := by
  rw [scanNumber]
  split
  · rename_i h
    simp only [h]
    rfl
  · rename_i l r h
    simp only [h]
    split
    · split
      · rfl
      · rfl
    · split
      · rfl
      · rfl

theorem plain_scanScalar (st : Strictness) (s : Text) : (scanScalar st s).plain =
    match scanWord? s words with
    | some (_, v, r) => .ok (v, r)
    | none =>
      match scanWord? s constants with
      | some (name, x, r) => if st.allowNan then .ok (.float x, r) else .error (.constant name)
      | none => (scanNumber st s).plain := by
  rw [scanScalar]
  split
  · rename_i h
    simp only [h]
    rfl
  · rename_i h
    simp only [h]
    split
    · rename_i h
      simp only [h]
      split
      · rfl
      · rfl
    · rename_i h
      simp only [h]

section Series

variable {α β : Type}

/-- Reads what stands behind an element: the closing mark, or a comma and the elements left. -/
def readBehind (close : CodePoint) (one : α) (more : α → α)
    (rest : Text → Except Stop (α × Text)) (r : Text) : Except Stop (α × Text) :=
  match dropSpace r with
  | [] => .error (.malformed .expectingComma [])
  | c :: t =>
    if c = close then .ok (one, t)
    else if c = ',' then (rest (dropSpace t)).map fun (a, u) => (more a, u)
    else .error (.malformed .expectingComma (c :: t))

def readOpened (close : CodePoint) (e : Stop) (empty : β) (f : α → β)
    (rest : Text → Except Stop (α × Text)) (s : Text) : Except Stop (β × Text) :=
  match dropSpace s with
  | [] => .error e
  | c :: t => if c = close then .ok (empty, t) else (rest (c :: t)).map fun (a, r) => (f a, r)

/-- `rest` reads an element, and then on up to the closing mark. -/
def Lists (close : CodePoint) (elem : Text → Except Stop (α × Text))
    (rest : Text → Except Stop (List α × Text)) : Prop :=
  ∀ s, rest s =
    match elem s with
    | .error e => .error e
    | .ok (a, r) => readBehind close [a] (a :: ·) rest r

def Shortens (elem : Text → Except Stop (α × Text)) : Prop :=
  ∀ s a r, elem s = .ok (a, r) → r.length < s.length

end Series

theorem length_of_plain {α : Type} {n : Nat} {x : Scanned α n} {a : α} {r : Text}
    (h : x.plain = .ok (a, r)) : r.length < n := by
  cases x with
  | error e => cases h
  | ok p =>
    obtain ⟨b, u⟩ := p
    cases h
    exact u.2

section Containers

variable (value : (s : Text) → Scanned Value s.length) (s : Text)

theorem lists_scanItems :
    Lists ']' (fun s => (value s).plain) fun s => (scanItems value s).plain := by
  intro s
  dsimp only
  rw [scanItems]
  cases value s with
  | error e => rfl
  | ok p =>
    obtain ⟨v, r⟩ := p
    dsimp only [Scanned.plain_ok]
    unfold readBehind
    split
    · rename_i h
      simp only [h]
      rfl
    · rename_i c t h
      simp only [h]
      split
      · rfl
      · split
        · cases scanItems value (dropSpace t) with
          | error e => rfl
          | ok q => rfl
        · rfl

theorem plain_scanName : (scanName s).plain =
    match s with
    | [] => .error (.malformed .expectingName [])
    | q :: t =>
      if q = '"' then
        match scanString (q :: t) [] t with
        | .error e => .error e
        | .ok (name, u) =>
          match dropSpace u with
          | [] => .error (.malformed .expectingColon [])
          | c :: v =>
            if c = ':' then .ok (name, dropSpace v)
            else .error (.malformed .expectingColon (c :: v))
      else .error (.malformed .expectingName (q :: t)) := by
  cases s with
  | nil => rfl
  | cons q t =>
    dsimp only [scanName]
    split
    · split
      · rename_i h
        simp only [h]
        rfl
      · rename_i h
        simp only [h]
        split
        · rename_i h
          simp only [h]
          rfl
        · rename_i h
          simp only [h]
          split
          · rfl
          · rfl
    · rfl

def readMember (value : (s : Text) → Scanned Value s.length) (s : Text) :
    Except Stop ((Text × Value) × Text) :=
  match (scanName s).plain with
  | .error e => .error e
  | .ok (name, x) => (value x).plain.map fun (v, r) => ((name, v), r)

theorem readMember_ok {s r : Text} {m : Text × Value} (h : readMember value s = .ok (m, r)) :
    ∃ x, (scanName s).plain = .ok (m.1, x) ∧ (value x).plain = .ok (m.2, r) := by
  rw [readMember] at h
  split at h
  · cases h
  · rename_i name x hname
    obtain ⟨⟨v, y⟩, hvalue, he⟩ := map_ok h
    cases he
    exact ⟨x, hname, hvalue⟩

theorem shortens_readMember : Shortens (readMember value) := by
  intro s m r h
  obtain ⟨x, hname, hvalue⟩ := readMember_ok _ h
  exact Nat.lt_trans (length_of_plain hvalue) (length_of_plain hname)

theorem lists_scanMembers :
    Lists '}' (readMember value) fun s => (scanMembers value s).plain := by
  intro s
  dsimp only
  rw [scanMembers, readMember]
  cases scanName s with
  | error e => rfl
  | ok p =>
    obtain ⟨name, n⟩ := p
    dsimp only [Scanned.plain_ok]
    cases value n.1 with
    | error e => rfl
    | ok p =>
      obtain ⟨v, r⟩ := p
      dsimp only [Scanned.plain_ok, Except.map]
      unfold readBehind
      split
      · rename_i h
        simp only [h]
        rfl
      · rename_i c t h
        simp only [h]
        split
        · rfl
        · split
          · cases scanMembers value (dropSpace t) with
            | error e => rfl
            | ok q => rfl
          · rfl

theorem plain_scanArray : (scanArray value s).plain =
    readOpened ']' (.malformed .expectingValue []) (.array []) .array
      (fun s => (scanItems value s).plain) s := by
  rw [scanArray]
  unfold readOpened
  split
  · rename_i h
    simp only [h]
    rfl
  · rename_i c t h
    simp only [h]
    split
    · rfl
    · cases scanItems value (c :: t) with
      | error e => rfl
      | ok q => rfl

theorem plain_scanObject : (scanObject value s).plain =
    readOpened '}' (.malformed .expectingName []) (objectOf []) objectOf
      (fun s => (scanMembers value s).plain) s := by
  rw [scanObject]
  unfold readOpened
  split
  · rename_i h
    simp only [h]
    rfl
  · rename_i c t h
    simp only [h]
    split
    · rfl
    · cases scanMembers value (c :: t) with
      | error e => rfl
      | ok q => rfl

end Containers

section Values

variable (st : Strictness) (depth : Nat) (t : Text)

theorem plain_scanValue_nil :
    (scanValue st depth []).plain = .error (.malformed .expectingValue []) := by
  rw [scanValue.eq_def]
  rfl

theorem plain_scanValue_string : (scanValue st depth ('"' :: t)).plain =
    (scanString ('"' :: t) [] t).map fun (text, r) => (.string text, r) := by
  rw [scanValue.eq_def]
  dsimp only
  rw [if_pos rfl]
  split
  · rename_i h
    simp only [h]
    rfl
  · rename_i h
    simp only [h]
    rfl

theorem plain_scanValue_tooDeep {c : CodePoint} (h : c = '[' ∨ c = '{') :
    (scanValue st 0 (c :: t)).plain = .error .tooDeep := by
  rw [scanValue.eq_def]
  rcases h with rfl | rfl
  · rfl
  · rfl

theorem plain_scanValue_array : (scanValue st (depth + 1) ('[' :: t)).plain =
    (scanArray (scanValue st depth) t).plain := by
  rw [scanValue.eq_def]
  dsimp only
  rw [if_neg (by decide), if_pos (by decide), Scanned.plain_weaken, if_pos rfl]

theorem plain_scanValue_object : (scanValue st (depth + 1) ('{' :: t)).plain =
    (scanObject (scanValue st depth) t).plain := by
  rw [scanValue.eq_def]
  dsimp only
  rw [if_neg (by decide), if_pos (by decide), Scanned.plain_weaken, if_neg (by decide)]

theorem plain_scanValue_scalar {c : CodePoint} (h1 : c ≠ '"') (h2 : c ≠ '[') (h3 : c ≠ '{') :
    (scanValue st depth (c :: t)).plain = (scanScalar st (c :: t)).plain := by
  rw [scanValue.eq_def]
  dsimp only
  rw [if_neg h1, if_neg (by simp [h2, h3])]

theorem scanDocument_eq (s : Text) : scanDocument st s =
    match (scanValue st st.nesting (dropSpace s)).plain with
    | .error e => .error e
    | .ok (v, r) =>
      match dropSpace r with
      | [] => .ok v
      | c :: t => .error (.malformed .extraData (c :: t)) := by
  rw [scanDocument]
  cases scanValue st st.nesting (dropSpace s) with
  | error e => rfl
  | ok p => rfl

end Values

end ReplySchema.Json
