import ReplySchema.Text.Upper

/-!
Upper case is settled: no code point that the tables give as the upper case of another one is itself
in the tables. For the runs this is a matter of their ends and of which of every two code points they
skip, so runs are compared, and not the code points in them. Few code points have to do with ASCII:
beside its own letters only four are tied to them by case, so an ASCII letter shares its upper case
with no letter but its capital, a long s and an i without a dot.
-/

namespace ReplySchema

namespace CaseRun

def single (n : Nat) : CaseRun := ⟨n, n, 2, 0⟩

def least (r : CaseRun) : Nat := (r.first + r.offset).toNat

def greatest (r : CaseRun) : Nat := (r.last + r.offset).toNat

def staysIn (r : CaseRun) : Bool := 0 ≤ r.first + r.offset && r.last + r.offset < 0x110000

/-- Whether nothing that the run moves comes to the run `s`: one ends before the other begins, or they
skip each other. -/
def misses (r s : CaseRun) : Bool :=
  Nat.blt r.greatest s.first || Nat.blt s.last r.least ||
    (Nat.beq s.step 2 && (Nat.beq r.step 2 || Nat.beq r.first r.last) &&
      Nat.beq ((r.least + s.first) % 2) 1)

def sources : List CaseRun := upperSpecials.map (fun s => single s.1) ++ upperRuns

def settled (r : CaseRun) : Bool := r.staysIn && sources.all r.misses

variable {r s : CaseRun} {c : Nat}

theorem holds_iff : r.holds c ↔ r.first ≤ c ∧ c ≤ r.last ∧ (c - r.first) % r.step = 0 := by
  simp [holds, and_assoc]

theorem single_holds (n : Nat) : (single n).holds n := by
  simp [holds_iff, single]

theorem misses_iff :
    r.misses s ↔ r.greatest < s.first ∨ s.last < r.least ∨
      s.step = 2 ∧ (r.step = 2 ∨ r.first = r.last) ∧ (r.least + s.first) % 2 = 1 := by
  simp [misses, or_assoc, and_assoc]

/-- What a run moves is not in a run that it misses. -/
theorem not_holds_moved (hr : r.staysIn) (hrs : r.misses s) (hc : r.holds c) :
    ¬ s.holds (CodePoint.ofNat (c + r.offset).toNat).val := by
  obtain ⟨hlow, hhigh⟩ : 0 ≤ r.first + r.offset ∧ r.last + r.offset < 0x110000 := by
    simpa [staysIn] using hr
  obtain ⟨hfirst, hlast, hstep⟩ := holds_iff.1 hc
  have hval : (CodePoint.ofNat (c + r.offset).toNat).val = (c + r.offset).toNat :=
    Nat.mod_eq_of_lt (by omega)
  have hmiss := misses_iff.1 hrs
  rw [least, greatest] at hmiss
  rw [hval]
  intro h
  obtain ⟨hfirst', hlast', hstep'⟩ := holds_iff.1 h
  rcases hmiss with hbefore | hbehind | ⟨hs, hskip, hodd⟩
  · omega
  · omega
  · rw [hs] at hstep'
    rcases hskip with hskip | hskip
    · rw [hskip] at hstep
      omega
    · omega

theorem not_holds_settled (hr : r.settled) (hc : r.holds c) (hs : s ∈ sources) :
    ¬ s.holds (CodePoint.ofNat (c + r.offset).toNat).val := by
  obtain ⟨hin, hall⟩ := Bool.and_eq_true_iff.1 hr
  exact not_holds_moved hin (List.all_eq_true.1 hall s hs) hc

/-- The code points beyond ASCII that case ties to ASCII letters: both odd forms of the letter i, the
long s and the Kelvin sign. -/
def tied : List Nat := [0x130, 0x131, 0x17F, 0x212A]

def beyond (first last : Nat) : Bool :=
  Nat.ble 0x80 first && tied.all fun n => Nat.blt last n || Nat.blt n first

def isRemote (r : CaseRun) : Bool :=
  r.staysIn && beyond r.first r.last && beyond r.least r.greatest

def span (r : CaseRun) : List CodePoint :=
  (List.range (r.last + 1 - r.first)).map fun k => .ofNat (r.first + k)

def moved (r : CaseRun) (c : CodePoint) : CodePoint := .ofNat (c.val + r.offset).toNat

theorem mem_span {c : CodePoint} (h : r.holds c.val) : c ∈ r.span := by
  obtain ⟨hfirst, hlast, -⟩ := holds_iff.1 h
  refine List.mem_map.2 ⟨c.val - r.first, List.mem_range.2 (by omega), ?_⟩
  rw [Nat.add_sub_cancel' hfirst]
  exact Fin.ext (Nat.mod_eq_of_lt c.isLt)

theorem beyond_of_mem {first last n : Nat} (h : beyond first last) (hfirst : first ≤ n)
    (hlast : n ≤ last) : beyond n n := by
  simp only [beyond, Bool.and_eq_true, List.all_eq_true, Bool.or_eq_true, Nat.ble_eq,
    Nat.blt_eq] at h ⊢
  refine ⟨Nat.le_trans h.1 hfirst, fun k hk => ?_⟩
  have := h.2 k hk
  omega

theorem beyond_of_isRemote {c : CodePoint} (hr : r.isRemote) (h : r.holds c.val) :
    beyond c.val c.val ∧ beyond (r.moved c).val (r.moved c).val := by
  simp only [isRemote, staysIn, Bool.and_eq_true, decide_eq_true_eq] at hr
  obtain ⟨⟨⟨hlow, hhigh⟩, hfrom⟩, hto⟩ := hr
  obtain ⟨hfirst, hlast, -⟩ := holds_iff.1 h
  have hval : (r.moved c).val = (c.val + r.offset).toNat := Nat.mod_eq_of_lt (by omega)
  refine ⟨beyond_of_mem hfrom hfirst hlast, beyond_of_mem hto ?_ ?_⟩
  · rw [hval, least]
    omega
  · rw [hval, greatest]
    omega

theorem upperRuns_settled : upperRuns.all settled := by decide +kernel

theorem upperSpecials_settled : upperSpecials.all fun s => s.2.all fun n => (single n).settled := by
  decide +kernel

/-- A run of upper case leads from afar to afar, or from the small letters of ASCII and those tied. -/
theorem upperRuns_remote : upperRuns.all fun r => r.isRemote || r.span.all fun c =>
    c.val = (r.moved c).val + 32 || (r.moved c = 'S' && c = 'ſ') ||
      (r.moved c = 'I' && c = 'ı') := by decide +kernel

theorem upperSpecials_long : upperSpecials.all fun s => Nat.blt 1 s.2.length := by decide +kernel

theorem upper_ascii : (List.range 26).all fun k =>
    (CodePoint.ofNat (97 + k)).upper = [.ofNat (65 + k)] &&
      (CodePoint.ofNat (65 + k)).upper = [.ofNat (65 + k)] := by decide +kernel

end CaseRun

namespace CodePoint

theorem upper_eq_self {c : CodePoint} (h : ∀ s ∈ CaseRun.sources, ¬ s.holds c.val) :
    c.upper = [c] := by
  have hspecial : upperSpecials.find? (·.1 = c.val) = none := by
    refine List.find?_eq_none.2 fun s hs heq => ?_
    have hkey : s.1 = c.val := by simpa using heq
    have hsource : CaseRun.single s.1 ∈ CaseRun.sources :=
      List.mem_append_left _ (List.mem_map.2 ⟨s, hs, rfl⟩)
    exact h _ hsource (hkey ▸ CaseRun.single_holds s.1)
  have hrun : upperRuns.find? (·.holds c.val) = none :=
    List.find?_eq_none.2 fun r hr => h r (List.mem_append_right _ hr)
  rw [upper, hspecial, hrun]

theorem upper_of_mem_upper {c d : CodePoint} (hd : d ∈ c.upper) : d.upper = [d] := by
  unfold upper at hd
  split at hd
  next k ns hspecial =>
    obtain ⟨n, hn, rfl⟩ := List.mem_map.1 hd
    have hsettled := List.all_eq_true.1 CaseRun.upperSpecials_settled _
      (List.mem_of_find?_eq_some hspecial)
    refine upper_eq_self fun s hs => ?_
    simpa [CaseRun.single] using CaseRun.not_holds_settled (List.all_eq_true.1 hsettled n hn)
      (CaseRun.single_holds n) hs
  next hspecial =>
    split at hd
    next r hrun =>
      obtain rfl := List.mem_singleton.1 hd
      have hsettled := List.all_eq_true.1 CaseRun.upperRuns_settled r (List.mem_of_find?_eq_some hrun)
      have hc : r.holds c.val := by simpa using List.find?_some hrun
      exact upper_eq_self fun s hs => CaseRun.not_holds_settled hsettled hc hs
    next hrun =>
      obtain rfl := List.mem_singleton.1 hd
      rw [upper, hspecial, hrun]

/-- The one code point that is the upper case of another comes from a run, or from itself. -/
theorem exists_run_of_upper {c d : CodePoint} (h : d.upper = [c]) (hne : d ≠ c) :
    ∃ r ∈ upperRuns, r.holds d.val ∧ r.moved d = c := by
  unfold upper at h
  split at h
  next k ns hspecial =>
    have hlong := List.all_eq_true.1 CaseRun.upperSpecials_long _
      (List.mem_of_find?_eq_some hspecial)
    have hlength := congrArg List.length h
    rw [List.length_map, List.length_singleton] at hlength
    rw [Nat.blt_eq, hlength] at hlong
    exact absurd hlong (by decide)
  next hspecial =>
    split at h
    next r hrun =>
      have hholds : r.holds d.val := by simpa using List.find?_some hrun
      exact ⟨r, List.mem_of_find?_eq_some hrun, hholds, (List.cons.inj h).1⟩
    next hrun => exact absurd (List.cons.inj h).1 hne

def capital (letter : CodePoint) : CodePoint := .ofNat (letter.val - 32)

section Letters

variable {letter d : CodePoint} (hl : letter.isAsciiLower)

include hl

theorem val_of_isAsciiLower : 97 ≤ letter.val ∧ letter.val ≤ 122 := by
  simpa [isAsciiLower] using hl

theorem val_capital : (capital letter).val + 32 = letter.val := by
  have hval := val_of_isAsciiLower hl
  have hcapital : (capital letter).val = letter.val - 32 := Nat.mod_eq_of_lt (by omega)
  omega

theorem upper_capital :
    letter.upper = [capital letter] ∧ (capital letter).upper = [capital letter] := by
  have hval := val_of_isAsciiLower hl
  have hall := List.all_eq_true.1 CaseRun.upper_ascii (letter.val - 97)
    (List.mem_range.2 (by omega))
  have hsmall : ofNat (97 + (letter.val - 97)) = letter := by
    rw [Nat.add_sub_cancel' hval.1]
    exact Fin.ext (Nat.mod_eq_of_lt letter.isLt)
  have hcapital : 65 + (letter.val - 97) = letter.val - 32 := by omega
  rw [hsmall, hcapital, Bool.and_eq_true, decide_eq_true_eq, decide_eq_true_eq] at hall
  exact hall

theorem upper_eq_iff : d.upper = letter.upper ↔
    d = letter ∨ d = capital letter ∨ (letter = 's' ∧ d = 'ſ') ∨ (letter = 'i' ∧ d = 'ı') := by
  obtain ⟨hupper, hself⟩ := upper_capital hl
  have hval := val_capital hl
  rw [hupper]
  constructor
  · intro h
    by_cases hne : d = capital letter
    · exact .inr (.inl hne)
    · obtain ⟨r, hr, hholds, hmoved⟩ := exists_run_of_upper h hne
      rcases Bool.or_eq_true_iff.1 (List.all_eq_true.1 CaseRun.upperRuns_remote r hr) with
        hremote | hspan
      · have hto := (CaseRun.beyond_of_isRemote hremote hholds).2
        have hlast := (val_of_isAsciiLower hl).2
        simp only [hmoved, CaseRun.beyond, Bool.and_eq_true, Nat.ble_eq] at hto
        omega
      · have hsmall := List.all_eq_true.1 hspan d (CaseRun.mem_span hholds)
        simp only [hmoved, Bool.or_eq_true, Bool.and_eq_true, decide_eq_true_eq] at hsmall
        rcases hsmall with (hsmall | ⟨hs, rfl⟩) | ⟨hi, rfl⟩
        · exact .inl (Fin.ext (hsmall.trans hval))
        · exact .inr (.inr (.inl ⟨Fin.ext (by rw [← hval, hs]; rfl), rfl⟩))
        · exact .inr (.inr (.inr ⟨Fin.ext (by rw [← hval, hi]; rfl), rfl⟩))
  · rintro (rfl | rfl | ⟨rfl, rfl⟩ | ⟨rfl, rfl⟩)
    · exact hupper
    · exact hself
    · decide +kernel
    · decide +kernel

end Letters

end CodePoint

namespace Text

theorem upper_eq_self {t : Text} (h : ∀ c ∈ t, c.upper = [c]) : t.upper = t := by
  induction t with
  | nil => rfl
  | cons c t ih =>
    obtain ⟨hc, ht⟩ := List.forall_mem_cons.1 h
    have htail := ih ht
    rw [upper] at htail ⊢
    rw [List.flatMap_cons, hc, htail]
    rfl

/-- Upper case once and for all. -/
theorem upper_upper (t : Text) : t.upper.upper = t.upper := by
  refine upper_eq_self fun d hd => ?_
  obtain ⟨c, -, hdc⟩ := List.mem_flatMap.1 hd
  exact CodePoint.upper_of_mem_upper hdc

end Text

end ReplySchema
