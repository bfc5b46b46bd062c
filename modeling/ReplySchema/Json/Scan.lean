import ReplySchema.Json.Number

/-!
The scanner of JSON documents. It reads one value at the start of a text and returns it with the text
that is left, which is shorter; an error keeps the text from its place on, so a place is never
counted while scanning. The nesting limit is the recursion argument, and the elements of one
container are a recursion on the length of the text.
-/

namespace ReplySchema.Json

/-- The ways in which a text can fail to be a document. -/
inductive Complaint
  | expectingValue
  | expectingName
  | expectingColon
  | expectingComma
  | unterminatedString
  | controlCharacter
  | badEscape
  | badUnicodeEscape
  | extraData
  | byteOrderMark
deriving DecidableEq

/-- Why a scan stopped, and for a complaint the text from its place on. -/
inductive Stop
  | malformed (what : Complaint) (rest : Text)
  | constant (name : Text)
  | outOfRange (literal : Text)
  | longInteger (digits : Nat)
  | tooDeep

/-- A result together with the text left over, which is shorter than `n`. -/
abbrev Scanned (α : Type) (n : Nat) := Except Stop (α × { r : Text // r.length < n })

/-- Which number spellings are accepted, and how deep containers may nest. -/
structure Strictness where
  /-- Accept `NaN`, `Infinity`, `-Infinity` and literals beyond the largest double. -/
  allowNan : Bool
  /-- Containers nested deeper than this are refused. -/
  nesting : Nat

/-- Integer literals may have this many digits. -/
def maxIntegerDigits : Nat := 4300

def isSpace (c : CodePoint) : Bool := c = ' ' || c = '\t' || c = '\n' || c = '\r'

def dropSpace (s : Text) : Text := s.dropWhile isSpace

theorem length_dropSpace (s : Text) : (dropSpace s).length ≤ s.length :=
  (List.dropWhile_suffix _).length_le

def shortEscape? (c : CodePoint) : Option CodePoint :=
  if c = '"' || c = '\\' || c = '/' then some c
  else if c = 'b' then some '\x08'
  else if c = 'f' then some '\x0c'
  else if c = 'n' then some '\n'
  else if c = 'r' then some '\r'
  else if c = 't' then some '\t'
  else none

/-- The code point of four hexadecimal digits with at least one more character behind them. -/
def scanUnit? : Text → Option (CodePoint × Text)
  | a :: b :: c :: d :: e :: t =>
    (Numeral.hexToNat? [a, b, c, d]).map fun n => (CodePoint.ofNat n, e :: t)
  | _ => none

theorem length_scanUnit? {s r : Text} {c : CodePoint} (h : scanUnit? s = some (c, r)) :
    r.length < s.length := by
  unfold scanUnit? at h
  split at h
  · obtain ⟨n, _, he⟩ := Option.map_eq_some_iff.1 h
    cases he
    simp only [List.length_cons]
    omega
  · cases h

/-- The second half of a surrogate pair, when one is spelled at the start of the text. -/
def scanLowSurrogate? (s : Text) : Option (CodePoint × Text) :=
  match Text.dropLead? "\\u" s with
  | some t =>
    match scanUnit? t with
    | some (low, u) => if low.isLowSurrogate then some (low, u) else none
    | none => none
  | none => none

theorem length_scanLowSurrogate? {s r : Text} {c : CodePoint}
    (h : scanLowSurrogate? s = some (c, r)) : r.length < s.length := by
  unfold scanLowSurrogate? at h
  split at h
  · rename_i t ht
    have h1 := Text.length_dropLead? ht
    split at h
    · rename_i low u hu
      have h2 := length_scanUnit? hu
      split at h
      · cases h
        omega
      · cases h
    · cases h
  · cases h

/--
Reads up to the closing quote. `opening` is the text from the opening quote on, and `done` holds in
reverse what was read. A high surrogate escape joins with a low one directly behind it.
-/
def scanString (opening : Text) (done : Text) (s : Text) : Except Stop (Text × Text) :=
  match s with
  | [] => .error (.malformed .unterminatedString opening)
  | c :: t =>
    if c = '"' then .ok (done.reverse, t)
    else if c = '\\' then
      match t with
      | [] => .error (.malformed .unterminatedString opening)
      | e :: u =>
        if e = 'u' then
          match h : scanUnit? u with
          | none => .error (.malformed .badUnicodeEscape t)
          | some (unit, v) =>
            have := length_scanUnit? h
            if unit.isHighSurrogate then
              match hl : scanLowSurrogate? v with
              | some (low, w) =>
                have := length_scanLowSurrogate? hl
                scanString opening (unit.joinSurrogates low :: done) w
              | none => scanString opening (unit :: done) v
            else scanString opening (unit :: done) v
        else
          match shortEscape? e with
          | some d => scanString opening (d :: done) u
          | none => .error (.malformed .badEscape s)
    else if c.val < 0x20 then .error (.malformed .controlCharacter s)
    else scanString opening (c :: done) t
termination_by s.length
decreasing_by all_goals simp only [List.length_cons]; omega

theorem length_scanString {opening done s t r : Text} (h : scanString opening done s = .ok (t, r)) :
    r.length < s.length := by
  fun_induction scanString opening done s generalizing t <;> simp_all <;> omega

/-- A number, or one of the three spellings that strict documents do not have. -/
def scanNumber (strictness : Strictness) (s : Text) : Scanned Value s.length :=
  match h : Literal.scan? s with
  | none => .error (.malformed .expectingValue s)
  | some (literal, r) =>
    have hr := Literal.length_scan? h
    if literal.isFloat then
      let x := literal.toDouble
      if x.isFinite || strictness.allowNan then .ok (.float x, ⟨r, hr⟩)
      else .error (.outOfRange (s.take (s.length - r.length)))
    else if maxIntegerDigits < literal.whole.length then .error (.longInteger literal.whole.length)
    else .ok (.int literal.toInt, ⟨r, hr⟩)

/-- The spellings that stand for one value each. -/
def words : List (Text × Value) :=
  [("null", .null), ("true", .bool true), ("false", .bool false)]

def constants : List (Text × Double) :=
  [("NaN", .nan), ("Infinity", .infinity false), ("-Infinity", .infinity true)]

/-- The entry whose spelling begins the text, and the text after the spelling. -/
def scanWord? {α : Type} (s : Text) : List (Text × α) → Option (Text × α × Text)
  | [] => none
  | (word, a) :: rest =>
    match Text.dropLead? word s with
    | some r => some (word, a, r)
    | none => scanWord? s rest

theorem length_scanWord? {α : Type} {s word r : Text} {a : α} {ws : List (Text × α)}
    (hne : ∀ w ∈ ws, w.1 ≠ []) (h : scanWord? s ws = some (word, a, r)) : r.length < s.length := by
  induction ws with
  | nil => cases h
  | cons w ws ih =>
    obtain ⟨spelling, b⟩ := w
    rw [scanWord?] at h
    split at h
    · rename_i r' hr
      cases h
      have := Text.length_dropLead? hr
      have := List.length_pos_iff.2 (hne _ (List.mem_cons_self ..))
      simp only at this
      omega
    · exact ih (fun w hw => hne w (List.mem_cons_of_mem _ hw)) h

def scanScalar (strictness : Strictness) (s : Text) : Scanned Value s.length :=
  match h : scanWord? s words with
  | some (_, v, r) => .ok (v, ⟨r, length_scanWord? (by decide) h⟩)
  | none =>
    match hc : scanWord? s constants with
    | some (name, x, r) =>
      if strictness.allowNan then .ok (.float x, ⟨r, length_scanWord? (by decide) hc⟩)
      else .error (.constant name)
    | none => scanNumber strictness s

/-- The elements of an array and its closing bracket, from the first element on. -/
def scanItems (value : (s : Text) → Scanned Value s.length) (s : Text) :
    Scanned (List Value) s.length :=
  match value s with
  | .error e => .error e
  | .ok (v, r) =>
    match h : dropSpace r.1 with
    | [] => .error (.malformed .expectingComma [])
    | c :: t =>
      have ht : t.length < s.length := by
        have := length_dropSpace r.1
        have := r.2
        simp only [h, List.length_cons] at *
        omega
      if c = ']' then .ok ([v], ⟨t, ht⟩)
      else if c = ',' then
        have hd := length_dropSpace t
        match scanItems value (dropSpace t) with
        | .error e => .error e
        | .ok (vs, u) => .ok (v :: vs, ⟨u.1, by have := u.2; omega⟩)
      else .error (.malformed .expectingComma (c :: t))
termination_by s.length
decreasing_by omega

/-- The name of a member, the colon behind it, and the space around the colon. -/
def scanName (s : Text) : Scanned Text s.length :=
  match s with
  | [] => .error (.malformed .expectingName [])
  | q :: t =>
    if q = '"' then
      match h : scanString (q :: t) [] t with
      | .error e => .error e
      | .ok (name, u) =>
        match hc : dropSpace u with
        | [] => .error (.malformed .expectingColon [])
        | c :: v =>
          if c = ':' then
            .ok (name, ⟨dropSpace v, by
              have := length_scanString h
              have := length_dropSpace u
              have := length_dropSpace v
              simp only [hc, List.length_cons] at *
              omega⟩)
          else .error (.malformed .expectingColon (c :: v))
    else .error (.malformed .expectingName (q :: t))

/-- The members of an object and its closing brace, from the first name on. -/
def scanMembers (value : (s : Text) → Scanned Value s.length) (s : Text) :
    Scanned (List (Text × Value)) s.length :=
  match scanName s with
  | .error e => .error e
  | .ok (name, n) =>
    match value n.1 with
    | .error e => .error e
    | .ok (v, r) =>
      match h : dropSpace r.1 with
      | [] => .error (.malformed .expectingComma [])
      | c :: t =>
        have ht : t.length < s.length := by
          have := length_dropSpace r.1
          have := r.2
          have := n.2
          simp only [h, List.length_cons] at *
          omega
        if c = '}' then .ok ([(name, v)], ⟨t, ht⟩)
        else if c = ',' then
          have hd := length_dropSpace t
          match scanMembers value (dropSpace t) with
          | .error e => .error e
          | .ok (ms, u) => .ok ((name, v) :: ms, ⟨u.1, by have := u.2; omega⟩)
        else .error (.malformed .expectingComma (c :: t))
termination_by s.length
decreasing_by omega

/-- The members in the order of their first names, each with its last value. -/
def objectOf (members : List (Text × Value)) : Value :=
  .object (members.foldl (fun ms m => assign m.1 m.2 ms) [])

def scanArray (value : (s : Text) → Scanned Value s.length) (s : Text) : Scanned Value s.length :=
  match h : dropSpace s with
  | [] => .error (.malformed .expectingValue [])
  | c :: t =>
    have hs := length_dropSpace s
    if c = ']' then .ok (.array [], ⟨t, by simp only [h, List.length_cons] at hs; omega⟩)
    else
      match scanItems value (c :: t) with
      | .error e => .error e
      | .ok (vs, r) => .ok (.array vs, ⟨r.1, by have := r.2; simp only [h] at hs; omega⟩)

def scanObject (value : (s : Text) → Scanned Value s.length) (s : Text) : Scanned Value s.length :=
  match h : dropSpace s with
  | [] => .error (.malformed .expectingName [])
  | c :: t =>
    have hs := length_dropSpace s
    if c = '}' then .ok (.object [], ⟨t, by simp only [h, List.length_cons] at hs; omega⟩)
    else
      match scanMembers value (c :: t) with
      | .error e => .error e
      | .ok (ms, r) => .ok (objectOf ms, ⟨r.1, by have := r.2; simp only [h] at hs; omega⟩)

/-- Lets a result with a rest shorter than `m` count as one with a rest shorter than `n`. -/
def Scanned.weaken {α : Type} {m n : Nat} (h : m ≤ n) : Scanned α m → Scanned α n
  | .error e => .error e
  | .ok (a, r) => .ok (a, ⟨r.1, Nat.lt_of_lt_of_le r.2 h⟩)

/-- One value at the start of the text, with containers nested at most `depth` deep. -/
def scanValue (strictness : Strictness) (depth : Nat) (s : Text) : Scanned Value s.length :=
  match s with
  | [] => .error (.malformed .expectingValue [])
  | c :: t =>
    if c = '"' then
      match h : scanString (c :: t) [] t with
      | .error e => .error e
      | .ok (text, r) => .ok (.string text, ⟨r, Nat.lt_succ_of_lt (length_scanString h)⟩)
    else if c = '[' || c = '{' then
      match depth with
      | 0 => .error .tooDeep
      | d + 1 =>
        (if c = '[' then scanArray (scanValue strictness d) t
          else scanObject (scanValue strictness d) t).weaken (Nat.le_succ _)
    else scanScalar strictness (c :: t)

end ReplySchema.Json
