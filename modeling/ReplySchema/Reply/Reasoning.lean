import ReplySchema.Text.Basic

/-!
Reasoning sections of a reply: an opening tag with one of six names, anything, and the first closing
tag that spells the name as the opening tag did, letter case aside. Removing a section can bring the
halves of another one together, so removal goes on until nothing is left to remove.
-/

namespace ReplySchema.Reply

def reasoningNames : List Text :=
  ["think", "thinking", "thought", "reasoning", "reflection", "scratchpad"]

/-- Lower case as far as it ends in ASCII: the Kelvin sign is a `k`, a capital dotted I is an `i`. -/
def foldCase (c : CodePoint) : CodePoint :=
  if c.val = 0x212A then 'k' else if c.val = 0x130 then 'i' else c.asciiLower

/-- Whether `c` stands for a letter, either case or the long s or the dotless i that folds with it. -/
def spellsLetter (letter c : CodePoint) : Bool :=
  foldCase c = letter || (letter = 's' && c.val = 0x17F) || (letter = 'i' && c.val = 0x131)

/-- Takes a word off the text in any spelling, and returns the spelling and what follows. -/
def spelling? : (word text : Text) → Option (Text × Text)
  | [], t => some ([], t)
  | _ :: _, [] => none
  | letter :: word, c :: t =>
    if spellsLetter letter c then (spelling? word t).map fun (s, rest) => (c :: s, rest) else none

/-- The opening tag of `name` at the start of the text: its spelling, and what follows the tag. -/
def openingOf? (name text : Text) : Option (Text × Text) :=
  match Text.dropLead? "<" text with
  | none => none
  | some t =>
    match spelling? name t with
    | none => none
    | some (spelling, u) => (Text.dropLead? ">" u).map fun rest => (spelling, rest)

def opening? (text : Text) : Option (Text × Text) := reasoningNames.findSome? fun name => openingOf? name text

/-- Takes a name off the text, spelled as given but for letter case. -/
def dropFolded? : (spelling text : Text) → Option Text
  | [], t => some t
  | _ :: _, [] => none
  | s :: spelling, c :: t => if foldCase s = foldCase c then dropFolded? spelling t else none

/-- What follows a closing tag at the start of the text; blanks may stand around its name. -/
def closing? (spelling text : Text) : Option Text :=
  match Text.dropLead? "</" text with
  | none => none
  | some t =>
    match dropFolded? spelling t.dropBlanks with
    | none => none
    | some u => Text.dropLead? ">" u.dropBlanks

/-- What follows the first closing tag in the text. -/
def afterClosing? (spelling : Text) : Text → Option Text
  | [] => none
  | c :: t =>
    match closing? spelling (c :: t) with
    | some rest => some rest
    | none => afterClosing? spelling t

/-- What follows a reasoning section at the start of the text. -/
def section? (text : Text) : Option Text :=
  (opening? text).bind fun (spelling, body) => afterClosing? spelling body

theorem length_spelling? {word s spelling r : Text} (h : spelling? word s = some (spelling, r)) :
    r.length ≤ s.length := by
  induction word generalizing s spelling with
  | nil => cases h; exact Nat.le_refl _
  | cons letter word ih =>
    cases s with
    | nil => cases h
    | cons c s =>
      rw [spelling?] at h
      split at h
      · obtain ⟨p, hp, he⟩ := Option.map_eq_some_iff.1 h
        cases he
        exact Nat.le_succ_of_le (ih hp)
      · cases h

theorem length_openingOf? {name s spelling r : Text} (h : openingOf? name s = some (spelling, r)) :
    r.length < s.length := by
  unfold openingOf? at h
  split at h
  · cases h
  · rename_i t ht
    split at h
    · cases h
    · rename_i sp u hu
      obtain ⟨rest, hr, he⟩ := Option.map_eq_some_iff.1 h
      cases he
      have h1 := Text.length_dropLead? ht
      have h2 := length_spelling? hu
      have h3 := Text.length_dropLead? hr
      have h4 : (Text.ofString "<").length = 1 := rfl
      omega

theorem length_dropFolded? {spelling s r : Text} (h : dropFolded? spelling s = some r) :
    r.length ≤ s.length := by
  induction spelling generalizing s with
  | nil => cases h; exact Nat.le_refl _
  | cons c spelling ih =>
    cases s with
    | nil => cases h
    | cons d s =>
      rw [dropFolded?] at h
      split at h
      · exact Nat.le_succ_of_le (ih h)
      · cases h

theorem length_closing? {spelling s r : Text} (h : closing? spelling s = some r) :
    r.length ≤ s.length := by
  unfold closing? at h
  split at h
  · cases h
  · rename_i t ht
    split at h
    · cases h
    · rename_i u hu
      have h1 := Text.length_dropLead? ht
      have h2 := Text.length_dropBlanks t
      have h3 := length_dropFolded? hu
      have h4 := Text.length_dropBlanks u
      have h5 := Text.length_dropLead? h
      omega

theorem length_afterClosing? {spelling s r : Text} (h : afterClosing? spelling s = some r) :
    r.length ≤ s.length := by
  induction s with
  | nil => cases h
  | cons c s ih =>
    rw [afterClosing?] at h
    split at h
    · rename_i rest hc
      cases h
      exact length_closing? hc
    · exact Nat.le_succ_of_le (ih h)

theorem length_section? {s r : Text} (h : section? s = some r) : r.length < s.length := by
  obtain ⟨⟨spelling, body⟩, ho, ha⟩ := Option.bind_eq_some_iff.1 h
  obtain ⟨name, _, hn⟩ := List.exists_of_findSome?_eq_some ho
  exact Nat.lt_of_le_of_lt (length_afterClosing? ha) (length_openingOf? hn)

/-- The text without its sections, found from left to right in one pass. -/
def dropSections (s : Text) : Text :=
  match s with
  | [] => []
  | c :: t =>
    match h : section? (c :: t) with
    | some rest =>
      have := length_section? h
      dropSections rest
    | none => c :: dropSections t
termination_by s.length
decreasing_by all_goals simp only [List.length_cons] at *; omega

/-- Passes over the text until a pass takes nothing away. -/
def dropReasoning (s : Text) : Text :=
  if (dropSections s).length < s.length then dropReasoning (dropSections s) else s
termination_by s.length

end ReplySchema.Reply
