import ReplySchema.Proofs.Json.Decoded
import ReplySchema.Proofs.Text.Casing
import ReplySchema.Proofs.Yaml.Members
import ReplySchema.Settings.File

/-!
Settings of a file as settings of the environment. A file that gives known settings values of their
types loads to what an environment says in which the same settings are made.
-/

namespace ReplySchema

/-- Text without carriage returns stays. -/
theorem Text.normalizeLines_eq_self {t : Text} (h : ('\r' : CodePoint) ∉ t) :
    t.normalizeLines = t := by
  induction t with
  | nil => rw [normalizeLines]
  | cons c t ih =>
    obtain ⟨hc, ht⟩ := not_or.1 (mt List.mem_cons.2 h)
    rw [normalizeLines.eq_def]
    dsimp only
    rw [if_neg (Ne.symm hc), ih ht]

inductive Setting
  | allowNan (on : Bool)
  | repairReplies (on : Bool)
  | logLevel (level : Text)

namespace Setting

def key : Setting → Text
  | allowNan _ => "allow_nan"
  | repairReplies _ => "repair_replies"
  | logLevel _ => "log_level"

def datum : Setting → Datum
  | allowNan on | repairReplies on => .bool on
  | logLevel level => .string level

def member (x : Setting) : Datum × Datum := (.string x.key, x.datum)

def value : Setting → Value
  | allowNan on | repairReplies on => .bool on
  | logLevel level => .string level

def named (x : Setting) : Text × Value := (x.key, x.value)

def truthText (on : Bool) : Text := if on then "true" else "false"

def text : Setting → Text
  | allowNan on | repairReplies on => truthText on
  | logLevel level => level

def words (x : Setting) : Text × Text := (x.key, x.text)

/-- A level that is a word, and looks like nothing else. -/
def IsPlain : Setting → Prop
  | logLevel level => Yaml.IsWord level ∧ Yaml.plainTag level = "str"
  | _ => True

/-- The datum of a word: the word itself, unless it looks like a truth value. -/
def textDatum (t : Text) : Datum :=
  if Yaml.plainTag t = "str" then .string t else .bool (Yaml.truthWord? t = some true)

theorem key_mem_knownNames (x : Setting) : x.key ∈ Settings.knownNames := by
  cases x <;> simp [key, Settings.knownNames]

theorem isWord_knownNames : ∀ t ∈ Settings.knownNames, Yaml.IsWord t ∧ Yaml.plainTag t = "str" := by
  decide

theorem isWord_truthText (on : Bool) : Yaml.IsWord (truthText on) := by
  cases on <;> decide

theorem means_truthText (on : Bool) : Yaml.Means (truthText on) (.bool on) := by
  cases on
  · exact .truth (by decide) (by decide)
  · exact .truth (by decide) (by decide)

theorem textDatum_text {x : Setting} (h : x.IsPlain) : textDatum x.text = x.datum := by
  cases x with
  | allowNan on | repairReplies on => cases on <;> rfl
  | logLevel level => exact if_pos h.2

theorem isWord_text {x : Setting} (h : x.IsPlain) : Yaml.IsWord x.text := by
  cases x with
  | allowNan on | repairReplies on => exact isWord_truthText on
  | logLevel level => exact h.1

theorem means_text {x : Setting} (h : x.IsPlain) : Yaml.Means x.text x.datum := by
  cases x with
  | allowNan on | repairReplies on => exact means_truthText on
  | logLevel level => exact .string h.2

theorem parts_value (x : Setting) : x.value.parts = [x.value] := by
  cases x <;> simp [value, Value.parts]

theorem decoded_value (x : Setting) (st : Json.Strictness) (depth : Nat) :
    Json.Decoded st depth x.value := by
  refine .leaf x.parts_value ?_ ?_
  · cases x <;> simp [value, Value.depth]
  · cases x <;> trivial

theorem ofMembers_named (xs : List Setting) :
    Datum.ofMembers (xs.map named) = xs.map member := by
  induction xs with
  | nil => rfl
  | cons x xs ih =>
    rw [List.map_cons, List.map_cons, ← ih]
    cases x <;> rfl

end Setting

namespace Environment

structure Words where
  word : Bool → Text
  switch_word : ∀ on, switch (word on) = on

def Words.digits : Words := ⟨fun on => if on then "1" else "0", by decide⟩

def set (words : Words) (e : Environment) : Setting → Environment
  | .allowNan on => { e with allowNan := some (words.word on) }
  | .repairReplies on => { e with repairReplies := some (words.word on) }
  | .logLevel level => { e with logLevel := some level }

def overlay (words : Words) (e : Environment) (xs : List Setting) : Environment :=
  xs.foldl (set words) e

end Environment

namespace Settings

/-- A file holds these settings in this order, and nothing else. -/
def Holds (limit : Nat) (path content : Text) (xs : List Setting) : Prop :=
  ∃ members, parse limit path content = .ok (.mapping members) ∧
    members.map (fun m => (m.1, m.2.get)) = xs.map Setting.member

/-- Settings written as a document, in a file whose name does not tell otherwise, are held there. -/
theorem holds_of_encode {limit : Nat} {path content : Text} {xs : List Setting}
    (hpath : suffix path ∉ yamlSuffixes) (hkeys : (xs.map Setting.key).Nodup)
    (hcontent : Json.encode limit (.object (xs.map Setting.named)) = .ok content)
    (hlines : ('\r' : CodePoint) ∉ content) : Holds limit path content xs := by
  have hdecoded : Json.Decoded ⟨true, limit⟩ limit (.object (xs.map Setting.named)) := by
    obtain ⟨d, -, rfl, -⟩ := Json.encode_object_ok hcontent
    refine .object (by simpa [Function.comp_def, Setting.named] using hkeys) fun m hm => ?_
    obtain ⟨x, -, rfl⟩ := List.mem_map.1 hm
    exact x.decoded_value _ _
  have hfinite : ∀ y, .float y ∈ (Value.object (xs.map Setting.named)).parts → y.isFinite := by
    intro y hy
    rw [Value.parts_object] at hy
    obtain ⟨m, hm, hy⟩ := List.mem_flatMap.1 ((List.mem_cons.1 hy).resolve_left nofun)
    obtain ⟨x, -, rfl⟩ := List.mem_map.1 hm
    rw [Setting.named, x.parts_value] at hy
    cases x <;> cases List.mem_singleton.1 hy
  have hdecode := hdecoded.decode_text ⟨true, limit⟩ hfinite hcontent
  refine ⟨(xs.map Setting.member).map fun m => (m.1, .pure m.2), ?_, ?_⟩
  · rw [parse, Text.normalizeLines_eq_self hlines, if_neg (mt List.contains_iff_mem.1 hpath), hdecode,
      ← Setting.ofMembers_named]
    rfl
  · rw [List.map_map]
    exact (List.map_congr_left fun m _ => rfl).trans (List.map_id' _)

/-- Settings written one a line, in a file whose name tells so, are held there. -/
theorem holds_of_lines (limit : Nat) {path : Text} {xs : List Setting}
    (hpath : suffix path ∈ yamlSuffixes) (hkeys : (xs.map Setting.key).Nodup)
    (hplain : ∀ x ∈ xs, x.IsPlain) :
    Holds limit path (Yaml.lines (xs.map Setting.words)) xs := by
  have hkey := fun x : Setting => Setting.isWord_knownNames x.key x.key_mem_knownNames
  have hwords : ∀ m ∈ xs.map Setting.words, Yaml.IsWord m.1 ∧ Yaml.IsWord m.2 :=
    List.forall_mem_map.2 fun x hx => ⟨(hkey x).1, Setting.isWord_text (hplain x hx)⟩
  have hmeans : ∀ m ∈ xs.map Setting.words,
      Yaml.plainTag m.1 = "str" ∧ Yaml.Means m.2 (Setting.textDatum m.2) := by
    refine List.forall_mem_map.2 fun x hx => ⟨(hkey x).2, ?_⟩
    rw [Setting.words, Setting.textDatum_text (hplain x hx)]
    exact Setting.means_text (hplain x hx)
  have hlines : ('\r' : CodePoint) ∉ Yaml.lines (xs.map Setting.words) :=
    fun hc => absurd (Yaml.mem_lines hwords hc) (by decide)
  have hyaml : yamlSuffixes.contains (suffix path) := List.contains_iff_mem.2 hpath
  rw [Holds, parse, Text.normalizeLines_eq_self hlines, if_pos hyaml]
  by_cases hne : xs.map Setting.words = []
  · rw [hne, List.map_eq_nil_iff.1 hne]
    refine ⟨[], ?_, rfl⟩
    rw [show Yaml.lines [] = [] from rfl, Yaml.load_nil]
    rfl
  · obtain ⟨d, members, hload, hmembers, hread⟩ := Yaml.load_lines hne hwords hmeans
      (by rwa [List.map_map])
    refine ⟨members.map fun m => (m.1, ⟨fun _ => d.datum m.2⟩), ?_, ?_⟩
    · rw [hload]
      change Except.ok (Held.ofDocument d) = _
      rw [Held.ofDocument, hmembers]
    · rw [List.map_map]
      refine hread.trans ?_
      rw [List.map_map]
      exact List.map_congr_left fun x hx => congrArg (Prod.mk _) (Setting.textDatum_text (hplain x hx))

example : Yaml.lines ([.allowNan true, .logLevel "debug"].map Setting.words) =
    "allow_nan: true\nlog_level: debug\n" := by decide

/-- The settings say what the environment says, but for the letter case of the level. -/
structure Agree (s : Settings) (e : Environment) : Prop where
  allowNan : s.allowNan = .bool e.allowsNan
  repairReplies : s.repairReplies = .bool e.repairsReplies
  logLevel : s.logLevel.upper = e.level

variable {e : Environment} {s : Settings}

theorem agree_ofEnvironment (e : Environment) : (ofEnvironment e).Agree e :=
  ⟨rfl, rfl, Text.upper_upper _⟩

theorem Agree.eq (h : s.Agree e) : { s with logLevel := s.logLevel.upper } = ofEnvironment e := by
  rw [ofEnvironment, ← h.allowNan, ← h.repairReplies, ← h.logLevel]

theorem Agree.override (h : s.Agree e) (words : Environment.Words) (x : Setting)
    {value : Thunk Datum} (hx : value.get = x.datum) :
    ∃ s', s.override (.string x.key) value = .ok s' ∧ s'.Agree (e.set words x) := by
  cases x with
  | allowNan on =>
    refine ⟨{ s with allowNan := value.get }, rfl, ?_, h.repairReplies, h.logLevel⟩
    rw [hx]
    exact congrArg Datum.bool (words.switch_word on).symm
  | repairReplies on =>
    refine ⟨{ s with repairReplies := value.get }, rfl, h.allowNan, ?_, h.logLevel⟩
    rw [hx]
    exact congrArg Datum.bool (words.switch_word on).symm
  | logLevel level =>
    refine ⟨{ s with logLevel := level }, ?_, h.allowNan, h.repairReplies, rfl⟩
    have hshown : value.get.shown = .ok level := by rw [hx]; rfl
    change value.get.shown.map _ = _
    rw [hshown]
    rfl

theorem Agree.foldlM (h : s.Agree e) (words : Environment.Words) {xs : List Setting}
    {members : List (Datum × Thunk Datum)}
    (hm : members.map (fun m => (m.1, m.2.get)) = xs.map Setting.member) :
    ∃ s', members.foldlM (fun s m => s.override m.1 m.2) s = .ok s' ∧
      s'.Agree (e.overlay words xs) := by
  induction members generalizing s e xs with
  | nil =>
    obtain rfl : xs = [] := by simpa using hm.symm
    exact ⟨s, rfl, h⟩
  | cons m members ih =>
    obtain ⟨x, xs, rfl, hx, hrest⟩ := List.map_eq_cons_iff.1 hm.symm
    obtain ⟨hkey, hvalue⟩ := Prod.ext_iff.1 hx
    obtain ⟨s', hs', hagree⟩ := h.override words x hvalue.symm
    obtain ⟨s'', hs'', hagree'⟩ := ih hagree hrest.symm
    refine ⟨s'', ?_, hagree'⟩
    have hkey' : m.1 = .string x.key := hkey.symm
    rw [List.foldlM_cons, hkey', hs']
    exact hs''

theorem isKnown_key (x : Setting) : isKnown (.string x.key) :=
  List.contains_iff_mem.2 x.key_mem_knownNames

/-- What a file of known settings loads to is what the environment says with these settings made. -/
theorem load_eq_overlay {limit : Nat} {path content : Text} {xs : List Setting}
    (h : Holds limit path content xs) (e : Environment) (words : Environment.Words) :
    load limit e path content = .ok (ofEnvironment (e.overlay words xs)) := by
  obtain ⟨members, hparse, hm⟩ := h
  have hknown : (members.map Prod.fst).filter (fun k => !isKnown k) = [] := by
    have hkeys : members.map Prod.fst = xs.map fun x => .string x.key := by
      simpa [Function.comp_def, Setting.member] using congrArg (List.map Prod.fst) hm
    simp [hkeys, isKnown_key]
  obtain ⟨s, hs, hagree⟩ := (agree_ofEnvironment e).foldlM words hm
  have happly : (ofEnvironment e).apply members = .ok (ofEnvironment (e.overlay words xs)) := by
    rw [apply, hs, ← hagree.eq]
    rfl
  rw [load, hparse]
  dsimp only [Bind.bind, Except.bind]
  rw [hknown]
  dsimp only
  rw [happly]
  rfl

theorem repairs_ofEnvironment (e e' : Environment) :
    (ofEnvironment e).repairs e' = e.repairsReplies := rfl

end Settings

end ReplySchema
