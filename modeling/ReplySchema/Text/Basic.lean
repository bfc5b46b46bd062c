/-!
Text as the sequence of its code points. A JSON escape can spell half of a surrogate pair, so a
code point here is any number below `0x110000` and every length counts code points.
-/

namespace ReplySchema

/-- A Unicode code point, surrogates included. -/
abbrev CodePoint := Fin 0x110000

abbrev Text := List CodePoint

def CodePoint.ofChar (c : Char) : CodePoint :=
  ⟨c.toNat, by
    rcases c.valid with h | ⟨_, h⟩
    · exact Nat.lt_trans h (by decide)
    · exact h⟩

instance : Coe Char CodePoint := ⟨CodePoint.ofChar⟩

def Text.ofString (s : String) : Text := s.toList.map CodePoint.ofChar

instance : Coe String Text := ⟨Text.ofString⟩

namespace CodePoint

/-- The code point with the number `n`, counted round from the last one to the first. -/
def ofNat (n : Nat) : CodePoint := ⟨n % 0x110000, Nat.mod_lt n (by decide)⟩

/-- Whether the code point is in one of some ranges, both ends included. -/
def isIn (ranges : List (Nat × Nat)) (c : CodePoint) : Bool :=
  ranges.any fun r => r.1 ≤ c.val && c.val ≤ r.2

def isByteOrderMark (c : CodePoint) : Bool := c.val = 0xFEFF

def isHighSurrogate (c : CodePoint) : Bool := 0xD800 ≤ c.val && c.val ≤ 0xDBFF

def isLowSurrogate (c : CodePoint) : Bool := 0xDC00 ≤ c.val && c.val ≤ 0xDFFF

def isSurrogate (c : CodePoint) : Bool := 0xD800 ≤ c.val && c.val ≤ 0xDFFF

/-- The code point that a high and a low surrogate stand for together. -/
def joinSurrogates (high low : CodePoint) : CodePoint :=
  ofNat (0x10000 + 0x400 * (high.val - 0xD800) + (low.val - 0xDC00))

def isDigit (c : CodePoint) : Bool := 48 ≤ c.val && c.val ≤ 57

def isAsciiUpper (c : CodePoint) : Bool := 65 ≤ c.val && c.val ≤ 90

def isAsciiLower (c : CodePoint) : Bool := 97 ≤ c.val && c.val ≤ 122

/-- Lower case on the ASCII letters; every other code point stays. -/
def asciiLower (c : CodePoint) : CodePoint :=
  if c.isAsciiUpper then ofNat (c.val + 32) else c

/--
White space in the sense of Unicode's bidirectional classes `WS`, `B`, `S` and category `Zs`: 29 code
points. The zero width space and the byte order mark are not among them.
-/
def isBlank (c : CodePoint) : Bool :=
  (0x09 ≤ c.val && c.val ≤ 0x0D) || (0x1C ≤ c.val && c.val ≤ 0x20) || c.val = 0x85 || c.val = 0xA0 ||
    c.val = 0x1680 || (0x2000 ≤ c.val && c.val ≤ 0x200A) || c.val = 0x2028 || c.val = 0x2029 ||
    c.val = 0x202F || c.val = 0x205F || c.val = 0x3000

end CodePoint

namespace Text

def asciiLower (t : Text) : Text := t.map CodePoint.asciiLower

/-- What follows `lead` when the text begins with it. -/
def dropLead? : (lead text : Text) → Option Text
  | [], t => some t
  | _ :: _, [] => none
  | c :: lead, d :: t => if c = d then dropLead? lead t else none

theorem length_dropLead? {lead s r : Text} (h : dropLead? lead s = some r) :
    r.length + lead.length = s.length := by
  induction lead generalizing s with
  | nil => cases h; rfl
  | cons c lead ih =>
    cases s with
    | nil => cases h
    | cons d s =>
      rw [dropLead?] at h
      split at h
      · have := ih h
        simp only [List.length_cons]
        omega
      · cases h

def startsWith (t lead : Text) : Bool := (dropLead? lead t).isSome

def endsWith (t tail : Text) : Bool := startsWith t.reverse tail.reverse

/-- The text before the first place where `word` stands, and the text after it. -/
def splitAt? (word : Text) : Text → Option (Text × Text)
  | [] => (dropLead? word []).map fun rest => ([], rest)
  | c :: t =>
    match dropLead? word (c :: t) with
    | some rest => some ([], rest)
    | none => (splitAt? word t).map fun (before, rest) => (c :: before, rest)

def contains (t word : Text) : Bool := (splitAt? word t).isSome

def join (separator : Text) : List Text → Text
  | [] => []
  | [t] => t
  | t :: ts => t ++ separator ++ join separator ts

/-- The pieces between the places where `c` stands; one piece when it stands nowhere. -/
def splitOn (c : CodePoint) : Text → List Text
  | [] => [[]]
  | d :: t =>
    if d = c then [] :: splitOn c t
    else
      match splitOn c t with
      | [] => [[d]]
      | piece :: pieces => (d :: piece) :: pieces

/-- Both other spellings of a line end become a line feed. -/
def normalizeLines : Text → Text
  | [] => []
  | c :: t =>
    if c = '\r' then
      match t with
      | [] => ['\n']
      | d :: u => if d = '\n' then '\n' :: normalizeLines u else '\n' :: normalizeLines (d :: u)
    else c :: normalizeLines t

/-- Strictly before in the order of code points. -/
def precedes : Text → Text → Bool
  | [], [] => false
  | [], _ :: _ => true
  | _ :: _, [] => false
  | c :: t, d :: u => if c = d then precedes t u else c.val < d.val

def dropBlanks (t : Text) : Text := t.dropWhile CodePoint.isBlank

theorem length_dropBlanks (t : Text) : (dropBlanks t).length ≤ t.length :=
  (List.dropWhile_suffix _).length_le

def trimEnd (t : Text) : Text := (dropBlanks t.reverse).reverse

/-- The text without the blanks at both ends. -/
def trim (t : Text) : Text := trimEnd (dropBlanks t)

def isBlank (t : Text) : Bool := t.all CodePoint.isBlank

end Text

end ReplySchema
