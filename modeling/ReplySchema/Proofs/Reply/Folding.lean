import Mathlib.Data.List.Forall2
import ReplySchema.Proofs.Reply.Sections
import ReplySchema.Proofs.Text.Casing
import ReplySchema.Text.Lower

/-!
The pattern of a section. It ignores case over the whole of Unicode: a letter of a name stands for
what has a lower case with the same upper case, and the closing name is compared with the opening one
by lower case. The search only knows the letters that fold to ASCII and two more, and by the tables of
both cases no other code point comes near them. A match ends at the first closing tag of its name, and
that is what the search finds at the start of a text.
-/

namespace ReplySchema

def CodePoint.simpleLower (c : CodePoint) : CodePoint := c.lower.headD c

theorem CodePoint.simpleLower_of_run {c : CodePoint} {r : CaseRun} (hc : c.val ≠ 0x130)
    (h : lowerRuns.find? (·.holds c.val) = some r) : c.simpleLower = r.moved c := by
  rw [simpleLower, lower, if_neg hc, h]
  rfl

theorem CodePoint.simpleLower_of_no_run {c : CodePoint} (hc : c.val ≠ 0x130)
    (h : lowerRuns.find? (·.holds c.val) = none) : c.simpleLower = c := by
  rw [simpleLower, lower, if_neg hc, h]
  rfl

namespace Reply

variable {c d letter : CodePoint}

open CaseRun

def Near (c : CodePoint) : Prop := ¬ beyond c.val c.val

section Letters

theorem foldCase_of_beyond (h : beyond c.val c.val) : foldCase c = c := by
  simp only [beyond, tied, Bool.and_eq_true, List.all_eq_true, Bool.or_eq_true, Nat.ble_eq,
    Nat.blt_eq] at h
  obtain ⟨hc, htied⟩ := h
  refine foldCase_eq_self ?_ ⟨?_, ?_⟩
  · simp only [CodePoint.isAsciiUpper, Bool.and_eq_true, decide_eq_true_eq]
    omega
  · have := htied 0x212A (by decide)
    omega
  · have := htied 0x130 (by decide)
    omega

theorem not_isAsciiUpper_foldCase (c : CodePoint) : ¬ (foldCase c).isAsciiUpper := by
  rcases foldCase_cases c with hlower | ⟨hsame, hupper⟩
  · have hval := CodePoint.val_of_isAsciiLower hlower
    simp only [CodePoint.isAsciiUpper, Bool.and_eq_true, decide_eq_true_eq]
    omega
  · rwa [hsame]

/-- A run of lower case leads from afar to afar, or as the letters of tags are folded. -/
theorem lowerRuns_near : lowerRuns.all fun r =>
    r.isRemote || r.span.all fun c => foldCase c = r.moved c := by decide +kernel

theorem lowerRuns_upper : (List.range 26).all fun k =>
    (lowerRuns.find? (·.holds (65 + k))).isSome := by decide +kernel

theorem foldCase_of_no_run (hc : c.val ≠ 0x130) (h : lowerRuns.find? (·.holds c.val) = none) :
    foldCase c = c := by
  refine foldCase_eq_self (fun hupper => ?_) ⟨fun hkelvin => ?_, hc⟩
  · simp only [CodePoint.isAsciiUpper, Bool.and_eq_true, decide_eq_true_eq] at hupper
    have hsome := List.all_eq_true.1 lowerRuns_upper (c.val - 65) (List.mem_range.2 (by omega))
    rw [Nat.add_sub_cancel' hupper.1, h] at hsome
    cases hsome
  · have hsome : (lowerRuns.find? (·.holds 0x212A)).isSome := by decide +kernel
    rw [← hkelvin, h] at hsome
    cases hsome

/-- Lower case comes near ASCII exactly where folding does. -/
theorem simpleLower_eq_iff (hd : Near d) : c.simpleLower = d ↔ foldCase c = d := by
  by_cases hc : c.val = 0x130
  · -- the one code point with a longer lower case, so in no run
    obtain rfl : c = ⟨0x130, by decide⟩ := Fin.ext hc
    exact Iff.rfl
  · cases hrun : lowerRuns.find? (·.holds c.val) with
    | none => rw [CodePoint.simpleLower_of_no_run hc hrun, foldCase_of_no_run hc hrun]
    | some r =>
      have hholds : r.holds c.val := by simpa using List.find?_some hrun
      have hnear := List.all_eq_true.1 lowerRuns_near r (List.mem_of_find?_eq_some hrun)
      rw [CodePoint.simpleLower_of_run hc hrun]
      rcases Bool.or_eq_true_iff.1 hnear with hremote | hfolded
      · obtain ⟨hfrom, hto⟩ := beyond_of_isRemote hremote hholds
        rw [foldCase_of_beyond hfrom]
        constructor
        · rintro rfl
          exact absurd hto hd
        · rintro rfl
          exact absurd hfrom hd
      · have hfold := List.all_eq_true.1 hfolded c (mem_span hholds)
        rw [← of_decide_eq_true hfold]

/-- What is beyond ASCII is folded from itself only, if at all. -/
theorem foldCase_eq_iff (hd : 0x80 ≤ d.val) (hself : foldCase d = d) : foldCase c = d ↔ c = d := by
  constructor
  · intro h
    rcases foldCase_cases c with hlower | ⟨hsame, -⟩
    · have hval := CodePoint.val_of_isAsciiLower hlower
      rw [h] at hval
      omega
    · rwa [hsame] at h
  · rintro rfl
    exact hself

theorem near_of_lt (h : c.val < 0x80) : Near c := by
  simp only [Near, beyond, Bool.and_eq_true, Nat.ble_eq]
  omega

theorem near_of_isAsciiLower (h : c.isAsciiLower) : Near c := by
  have hval := CodePoint.val_of_isAsciiLower h
  exact near_of_lt (by omega)

theorem near_tied : Near 'ſ' ∧ Near 'ı' := by
  unfold Near
  decide

theorem simpleLower_ne_capital (hl : letter.isAsciiLower) : c.simpleLower ≠ letter.capital := by
  have hval := CodePoint.val_of_isAsciiLower hl
  have hcapital := CodePoint.val_capital hl
  rw [Ne, simpleLower_eq_iff (near_of_lt (by omega))]
  intro h
  refine not_isAsciiUpper_foldCase c ?_
  simp only [h, CodePoint.isAsciiUpper, Bool.and_eq_true, decide_eq_true_eq]
  omega

/-- A letter of a name stands for what has a lower case with the same upper case. -/
theorem spellsLetter_iff (hl : letter.isAsciiLower) :
    spellsLetter letter c ↔ c.simpleLower.upper = letter.upper := by
  have hletter : c.simpleLower = letter ↔ foldCase c = letter :=
    simpleLower_eq_iff (near_of_isAsciiLower hl)
  have hlong : c.simpleLower = 'ſ' ↔ c.val = 0x17F := by
    rw [simpleLower_eq_iff near_tied.1, foldCase_eq_iff (by decide) (by decide), Fin.ext_iff]
    rfl
  have hdotless : c.simpleLower = 'ı' ↔ c.val = 0x131 := by
    rw [simpleLower_eq_iff near_tied.2, foldCase_eq_iff (by decide) (by decide), Fin.ext_iff]
    rfl
  rw [CodePoint.upper_eq_iff hl, or_iff_right (simpleLower_ne_capital hl), hletter, hlong, hdotless]
  simp only [spellsLetter, Bool.or_eq_true, Bool.and_eq_true, decide_eq_true_eq, or_assoc]

/-- What a letter of a name stands for folds to a small letter, of ASCII or tied to it. -/
theorem folded_of_spellsLetter (hl : letter.isAsciiLower) (h : spellsLetter letter c) :
    (foldCase c).isAsciiLower ∨ foldCase c = 'ſ' ∨ foldCase c = 'ı' := by
  simp only [spellsLetter, Bool.or_eq_true, Bool.and_eq_true, decide_eq_true_eq] at h
  rcases h with (hc | ⟨-, hc⟩) | ⟨-, hc⟩
  · exact .inl (hc ▸ hl)
  · obtain rfl : c = 'ſ' := Fin.ext hc
    exact .inr (.inl rfl)
  · obtain rfl : c = 'ı' := Fin.ext hc
    exact .inr (.inr rfl)

end Letters

section Tags

variable {t : Text}

/-- The name in an opening tag, letter case ignored. -/
def Opens (opened : Text) : Prop :=
  ∃ name ∈ reasoningNames,
    List.Forall₂ (fun letter c => c.simpleLower.upper = letter.upper) name opened

/-- A closing tag: the name that opened, compared by lower case, and blanks around it. -/
inductive Closes (opened : Text) : Text → Prop
  | mk {before closed after : Text} (hb : ∀ c ∈ before, c.isBlank)
      (hc : closed.map CodePoint.simpleLower = opened.map CodePoint.simpleLower)
      (ha : ∀ c ∈ after, c.isBlank) :
      Closes opened ("</" ++ (before ++ (closed ++ (after ++ ">"))))

/-- The pattern of a section matches the whole text, whatever the body is. -/
inductive Matches : Text → Prop
  | mk {opened tag : Text} (body : Text) (ho : Opens opened) (hc : Closes opened tag) :
      Matches ("<" ++ (opened ++ (">" ++ (body ++ tag))))

theorem opens_iff {opened : Text} : Opens opened ↔ Names opened := by
  refine exists_congr fun name => and_congr_right fun hn => ?_
  have hlower := (reasoningNames_lower name hn).2
  constructor
  · intro h
    have hall := (List.forall₂_and_left name opened).2 ⟨hlower, h⟩
    exact hall.imp fun letter c hc => (spellsLetter_iff hc.1).2 hc.2
  · intro h
    have hall := (List.forall₂_and_left name opened).2 ⟨hlower, h⟩
    exact hall.imp fun letter c hc => (spellsLetter_iff hc.1).1 hc.2

theorem Names.folded {opened : Text} (h : Names opened) :
    ∀ c ∈ opened, (foldCase c).isAsciiLower ∨ foldCase c = 'ſ' ∨ foldCase c = 'ı' := by
  intro c hc
  obtain ⟨letter, hl, hspelled⟩ := h.exists_letter c hc
  exact folded_of_spellsLetter hl hspelled

theorem Names.near {opened : Text} (h : Names opened) : ∀ c ∈ opened, Near (foldCase c) := by
  intro c hc
  rcases h.folded c hc with hlower | hlong | hdotless
  · exact near_of_isAsciiLower hlower
  · exact hlong ▸ near_tied.1
  · exact hdotless ▸ near_tied.2

/-- A closing name that folds like the opening one is one of the same lower case. -/
theorem map_foldCase_eq_iff {opened closed : Text} (h : ∀ c ∈ opened, Near (foldCase c)) :
    closed.map foldCase = opened.map foldCase ↔
      closed.map CodePoint.simpleLower = opened.map CodePoint.simpleLower := by
  induction opened generalizing closed with
  | nil => rw [List.map_nil, List.map_nil, List.map_eq_nil_iff, List.map_eq_nil_iff]
  | cons c opened ih =>
    obtain ⟨hc, hopened⟩ := List.forall_mem_cons.1 h
    have hlower : c.simpleLower = foldCase c := (simpleLower_eq_iff hc).2 rfl
    cases closed with
    | nil => simp
    | cons d closed =>
      simp only [List.map_cons, List.cons.injEq]
      rw [ih hopened, hlower, simpleLower_eq_iff hc]

theorem closes_iff {opened tag : Text} (ho : Names opened) :
    Closes opened tag ↔ Closing opened tag := by
  constructor
  · rintro ⟨hb, hc, ha⟩
    exact .mk hb ((map_foldCase_eq_iff ho.near).2 hc) ha
  · rintro ⟨hb, hc, ha⟩
    exact .mk hb ((map_foldCase_eq_iff ho.near).1 hc) ha

theorem matches_iff : Matches t ↔ Section t := by
  constructor
  · rintro ⟨body, ho, hc⟩
    have hnames := opens_iff.1 ho
    exact .mk body hnames ((closes_iff hnames).1 hc)
  · rintro ⟨body, ho, hc⟩
    exact .mk body (opens_iff.2 ho) ((closes_iff ho).2 hc)

def HasMatch (t : Text) : Prop := ∃ u, Matches u ∧ u <:+: t

theorem hasMatch_iff : HasMatch t ↔ HoldsSection t :=
  exists_congr fun _ => and_congr_left fun _ => matches_iff

end Tags

section Sealed

variable {s t : Text}

/-- A section whose body holds no closing tag of its name, whatever else stands there. -/
inductive Sealed : Text → Prop
  | mk {opened body tag : Text} (ho : Opens opened) (hc : Closes opened tag)
      (hb : ∀ other, Closes opened other → ¬ other <:+: body) :
      Sealed ("<" ++ (opened ++ (">" ++ (body ++ tag))))

theorem Sealed.toSection (h : Sealed t) : Section t := by
  obtain ⟨ho, hc, -⟩ := h
  have hnames := opens_iff.1 ho
  exact .mk _ hnames ((closes_iff hnames).1 hc)

/-- The mark that a closing tag begins with stands nowhere else in it. -/
theorem Closing.exists_tail {opened tag : Text} (ho : Names opened) (h : Closing opened tag) :
    ∃ u, tag = ('<' : CodePoint) :: u ∧ ('<' : CodePoint) ∉ u := by
  obtain @⟨before, closed, after, hb, hclosed, ha⟩ := h
  have hname : ('<' : CodePoint) ∉ closed := by
    intro hmem
    have hfold : foldCase '<' ∈ opened.map foldCase := hclosed ▸ List.mem_map_of_mem hmem
    obtain ⟨d, hd, hfold⟩ := List.mem_map.1 hfold
    rcases ho.folded d hd with hlower | hlong | hdotless
    · rw [hfold] at hlower
      exact absurd hlower (by decide)
    · exact absurd (hfold.symm.trans hlong) (by decide)
    · exact absurd (hfold.symm.trans hdotless) (by decide)
  refine ⟨'/' :: (before ++ (closed ++ (after ++ ">"))), rfl, ?_⟩
  simp only [List.mem_cons, List.mem_append, not_or]
  exact ⟨by decide, fun h => absurd (hb _ h) (by decide), hname,
    fun h => absurd (ha _ h) (by decide), by decide⟩

/-- No closing tag begins in a body that holds none, for it would hold the mark of the one behind. -/
theorem closing?_eq_none {opened body tag : Text} {c : CodePoint} (ho : Names opened)
    (hc : Closing opened tag) (hb : ∀ other, Closing opened other → ¬ other <:+: c :: body)
    (r : Text) : closing? opened (c :: (body ++ (tag ++ r))) = none := by
  cases hclosing : closing? opened (c :: (body ++ (tag ++ r))) with
  | none => rfl
  | some rest =>
    obtain ⟨other, hother, hsplit⟩ := (closing?_eq_some_iff ho).1 hclosing
    rw [← List.cons_append] at hsplit
    rcases List.append_eq_append_iff.1 hsplit with ⟨k, hk, hrest⟩ | ⟨k, hk, -⟩
    · cases k with
      | nil =>
        rw [List.append_nil] at hk
        exact absurd (hk ▸ List.infix_rfl) (hb other hother)
      | cons d k =>
        obtain ⟨u, rfl, -⟩ := hc.exists_tail ho
        obtain ⟨v, rfl, hv⟩ := hother.exists_tail ho
        obtain ⟨rfl, -⟩ := List.cons.inj hrest
        obtain ⟨-, rfl⟩ := List.cons.inj hk
        exact absurd (List.mem_append_right body (List.mem_cons_self ..)) hv
    · exact absurd ⟨[], k, hk.symm⟩ (hb other hother)

/-- The first closing tag is the one behind a body that holds none. -/
theorem afterClosing?_append {opened body tag : Text} (ho : Names opened)
    (hc : Closing opened tag) (hb : ∀ other, Closing opened other → ¬ other <:+: body) (r : Text) :
    afterClosing? opened (body ++ (tag ++ r)) = some r := by
  induction body with
  | nil =>
    have htag : closing? opened (tag ++ r) = some r := (closing?_eq_some_iff ho).2 ⟨tag, hc, rfl⟩
    obtain ⟨c, u, rfl⟩ := hc.eq_cons
    rw [List.cons_append] at htag
    rw [List.nil_append, List.cons_append, afterClosing?, htag]
  | cons c body ih =>
    have hbody : ∀ other, Closing opened other → ¬ other <:+: body :=
      fun other hother hin => hb other hother (hin.trans (List.suffix_cons c body).isInfix)
    rw [List.cons_append, afterClosing?, closing?_eq_none ho hc hb]
    exact ih hbody

/-- What the search finds at the start of a text is a section up to its first closing tag. -/
theorem section?_eq_some_iff {r : Text} : section? s = some r ↔ ∃ u, Sealed u ∧ s = u ++ r := by
  constructor
  · intro h
    obtain ⟨⟨opened, rest⟩, ho, hc⟩ := Option.bind_eq_some_iff.1 h
    obtain ⟨hopened, rfl⟩ := opening?_eq_some_iff.1 ho
    obtain ⟨body, tag, htag, hbody, rfl⟩ := closing_of_afterClosing? hopened hc
    have hfirst : ∀ other, Closes opened other → ¬ other <:+: body :=
      fun other hother => hbody other ((closes_iff hopened).1 hother)
    refine ⟨_, .mk (opens_iff.2 hopened) ((closes_iff hopened).2 htag) hfirst, ?_⟩
    simp only [List.append_assoc]
  · rintro ⟨u, ⟨ho, hc, hb⟩, rfl⟩
    have hopened := opens_iff.1 ho
    simp only [List.append_assoc]
    rw [section?, opening?_eq_some_iff.2 ⟨hopened, rfl⟩]
    exact afterClosing?_append hopened ((closes_iff hopened).1 hc)
      (fun other hother => hb other ((closes_iff hopened).2 hother)) r

theorem Sealed.section?_append (h : Sealed s) (r : Text) : section? (s ++ r) = some r := by
  rw [section?_eq_some_iff]
  exact ⟨s, h, rfl⟩

end Sealed

end Reply

end ReplySchema
