import ReplySchema.Proofs.Json.Lexemes

/-!
A strict and a lax scanner side by side. They read the same up to the first lexeme that is refused,
and there the strict one stops, whatever the lax one meets behind it. The relation speaks of the
text that each part of a scan starts at, so the parts put together are aligned when each of them is.
-/

namespace ReplySchema.Json

def strict (limit : Nat) : Strictness := ⟨false, limit⟩

def lax (limit : Nat) : Strictness := ⟨true, limit⟩

variable {limit : Nat}

/--
How a strict and a lax scan of one text end: with one and the same complaint, with one result that
left no refused lexeme behind, or at the first refused lexeme, where only the strict one stops.
-/
inductive Aligned {α : Type} (s : Text) :
    (strictly laxly : Except Stop (α × Text)) → Prop
  | stopped (e : Stop) : Aligned s (.error e) (.error e)
  | reached (a : α) (r : Text) (h : firstRefusal? s = firstRefusal? r) :
    Aligned s (.ok (a, r)) (.ok (a, r))
  | refused (x : Refusal) (laxly : Except Stop (α × Text)) (h : firstRefusal? s = some x) :
    Aligned s (.error x.stop) laxly

namespace Aligned

variable {α β : Type} {s s' : Text} {x y : Except Stop (α × Text)}

/-- Both scans may start further on, behind lexemes that are not refused. -/
theorem behind (h : Aligned s x y) (hs : firstRefusal? s' = firstRefusal? s) : Aligned s' x y := by
  cases h with
  | stopped e => exact .stopped e
  | reached a r hr => exact .reached a r (hs.trans hr)
  | refused z y hz => exact .refused z y (hs.trans hz)

theorem map (h : Aligned s x y) (f : α → β) :
    Aligned s (x.map fun (a, r) => (f a, r)) (y.map fun (a, r) => (f a, r)) := by
  cases h with
  | stopped e => exact .stopped e
  | reached a r hr => exact .reached (f a) r hr
  | refused z y hz => exact .refused z _ hz

end Aligned

theorem aligned_scanNumber {c : CodePoint} {t : Text} (hc : c ≠ '"')
    (hw : scanWord? (c :: t) words = none) (hk : scanWord? (c :: t) constants = none) :
    Aligned (c :: t) (scanNumber (strict limit) (c :: t)).plain
      (scanNumber (lax limit) (c :: t)).plain := by
  rw [plain_scanNumber, plain_scanNumber]
  cases hs : Literal.scan? (c :: t) with
  | none => exact .stopped _
  | some p =>
    obtain ⟨l, r⟩ := p
    have hl : lexeme c t = (.number l ((c :: t).take ((c :: t).length - r.length)), r) := by
      rw [lexeme, if_neg hc, hw, hk, hs]
    dsimp only
    by_cases hf : l.isFloat
    · have hlax : l.toDouble.isFinite || (lax limit).allowNan := Bool.or_true _
      rw [if_pos hf, if_pos hf, if_pos hlax]
      by_cases hx : l.toDouble.isFinite
      · have hstrict : l.toDouble.isFinite || (strict limit).allowNan :=
          Bool.or_eq_true_iff.2 (.inl hx)
        rw [if_pos hstrict]
        exact .reached _ _ (firstRefusal?_of_pass hl (by simp [Lexeme.refusal?, hx]))
      · have hstrict : ¬ (l.toDouble.isFinite || (strict limit).allowNan) := by
          rwa [strict, Bool.or_false]
        have hrefused : (Lexeme.number l ((c :: t).take ((c :: t).length - r.length))).refusal? =
            some (.outOfRange ((c :: t).take ((c :: t).length - r.length))) := by
          rw [Lexeme.refusal?, if_pos (by simp [hf, hx])]
        rw [if_neg hstrict]
        exact .refused (.outOfRange _) _ (firstRefusal?_of_refused hl hrefused)
    · rw [if_neg hf, if_neg hf]
      by_cases hlong : maxIntegerDigits < l.whole.length
      · rw [if_pos hlong]
        exact .stopped _
      · rw [if_neg hlong]
        exact .reached _ _ (firstRefusal?_of_pass hl (by simp [Lexeme.refusal?, hf]))

theorem aligned_scanScalar {c : CodePoint} (hc : c ≠ '"') (t : Text) :
    Aligned (c :: t) (scanScalar (strict limit) (c :: t)).plain
      (scanScalar (lax limit) (c :: t)).plain := by
  rw [plain_scanScalar, plain_scanScalar]
  cases hw : scanWord? (c :: t) words with
  | some p =>
    obtain ⟨name, v, r⟩ := p
    have hl : lexeme c t = (.word name, r) := by
      rw [lexeme, if_neg hc, hw]
    exact .reached v r (firstRefusal?_of_pass hl rfl)
  | none =>
    dsimp only
    cases hk : scanWord? (c :: t) constants with
    | some p =>
      obtain ⟨name, x, r⟩ := p
      have hl : lexeme c t = (.constant name, r) := by
        rw [lexeme, if_neg hc, hw, hk]
      exact .refused (.constant name) _ (firstRefusal?_of_refused hl rfl)
    | none => exact aligned_scanNumber hc hw hk

section Series

variable {α β : Type} {close : CodePoint} {rest rest' : Text → Except Stop (α × Text)}

theorem aligned_readBehind (hclose : close ∈ marks) (one : α) (more : α → α) (r : Text)
    (h : ∀ t : Text, t.length < r.length → Aligned t (rest t) (rest' t)) :
    Aligned r (readBehind close one more rest r) (readBehind close one more rest' r) := by
  have hlen := length_dropSpace r
  have hr := firstRefusal?_dropSpace r
  unfold readBehind
  cases hd : dropSpace r with
  | nil => exact .stopped _
  | cons c t =>
    rw [hd] at hlen hr
    dsimp only
    by_cases hc : c = close
    · rw [if_pos hc, if_pos hc]
      subst hc
      exact .reached one t (hr.symm.trans (firstRefusal?_mark hclose t))
    · rw [if_neg hc, if_neg hc]
      by_cases hcomma : c = ','
      · rw [if_pos hcomma, if_pos hcomma]
        subst hcomma
        have hshort : (dropSpace t).length < r.length :=
          Nat.lt_of_le_of_lt (length_dropSpace t) hlen
        have ht : firstRefusal? r = firstRefusal? (dropSpace t) := calc
          firstRefusal? r = firstRefusal? (',' :: t) := hr.symm
          _ = firstRefusal? t := firstRefusal?_mark (by decide) t
          _ = firstRefusal? (dropSpace t) := (firstRefusal?_dropSpace t).symm
        exact ((h (dropSpace t) hshort).map more).behind ht
      · rw [if_neg hcomma, if_neg hcomma]
        exact .stopped _

theorem aligned_readOpened (hclose : close ∈ marks) (e : Stop) (empty : β) (f : α → β)
    (h : ∀ t, Aligned t (rest t) (rest' t)) (s : Text) :
    Aligned s (readOpened close e empty f rest s) (readOpened close e empty f rest' s) := by
  have hs := firstRefusal?_dropSpace s
  unfold readOpened
  cases hd : dropSpace s with
  | nil => exact .stopped e
  | cons c t =>
    rw [hd] at hs
    dsimp only
    by_cases hc : c = close
    · rw [if_pos hc, if_pos hc]
      subst hc
      exact .reached empty t (hs.symm.trans (firstRefusal?_mark hclose t))
    · rw [if_neg hc, if_neg hc]
      exact ((h (c :: t)).map f).behind hs.symm

theorem aligned_lists (hclose : close ∈ marks) {elem elem' : Text → Except Stop (α × Text)}
    {rest rest' : Text → Except Stop (List α × Text)} (hl : Lists close elem rest)
    (hl' : Lists close elem' rest') (hshort : Shortens elem')
    (he : ∀ s, Aligned s (elem s) (elem' s)) (s : Text) : Aligned s (rest s) (rest' s) := by
  have h := he s
  rw [hl, hl']
  generalize elem s = x at h ⊢
  generalize hy : elem' s = y at h ⊢
  cases h with
  | stopped e => exact .stopped e
  | refused z y hz => exact .refused z _ hz
  | reached a r hr =>
    have hlen := hshort s a r hy
    have htail : Aligned r (readBehind close [a] (a :: ·) rest r)
        (readBehind close [a] (a :: ·) rest' r) := by
      -- the elements left stand in a shorter text, which the recursion is on
      apply aligned_readBehind hclose
      intro t ht
      exact aligned_lists hclose hl hl' hshort he t
    exact htail.behind hr
termination_by s.length
decreasing_by omega

end Series

section Containers

variable {value value' : (s : Text) → Scanned Value s.length}

theorem firstRefusal?_scanName {s n name : Text} (h : (scanName s).plain = .ok (name, n)) :
    firstRefusal? s = firstRefusal? n := by
  rw [plain_scanName] at h
  split at h
  · cases h
  · split at h
    · rename_i q t hq
      subst hq
      split at h
      · cases h
      · rename_i u hstring
        split at h
        · cases h
        · rename_i c v hcolon
          split at h
          · rename_i hc
            cases h
            subst hc
            calc
              firstRefusal? ('"' :: t) = firstRefusal? u := firstRefusal?_string hstring
              _ = firstRefusal? (':' :: v) := by rw [← hcolon, firstRefusal?_dropSpace]
              _ = firstRefusal? v := firstRefusal?_mark (by decide) v
              _ = firstRefusal? (dropSpace v) := (firstRefusal?_dropSpace v).symm
          · cases h
    · cases h

theorem aligned_readMember (hv : ∀ s, Aligned s (value s).plain (value' s).plain) (s : Text) :
    Aligned s (readMember value s) (readMember value' s) := by
  rw [readMember, readMember]
  -- names are read alike, no matter how strictly
  cases hname : (scanName s).plain with
  | error e => exact .stopped e
  | ok p =>
    obtain ⟨name, n⟩ := p
    exact ((hv n).map fun v => (name, v)).behind (firstRefusal?_scanName hname)

theorem aligned_scanArray (hv : ∀ s, Aligned s (value s).plain (value' s).plain) (s : Text) :
    Aligned s (scanArray value s).plain (scanArray value' s).plain := by
  rw [plain_scanArray, plain_scanArray]
  refine aligned_readOpened (by decide) _ _ Value.array (fun t => ?_) s
  exact aligned_lists (by decide) (lists_scanItems value) (lists_scanItems value')
    (fun _ _ _ => length_of_plain) hv t

theorem aligned_scanObject (hv : ∀ s, Aligned s (value s).plain (value' s).plain) (s : Text) :
    Aligned s (scanObject value s).plain (scanObject value' s).plain := by
  rw [plain_scanObject, plain_scanObject]
  refine aligned_readOpened (by decide) _ _ objectOf (fun t => ?_) s
  exact aligned_lists (by decide) (lists_scanMembers value) (lists_scanMembers value')
    (shortens_readMember value') (aligned_readMember hv) t

end Containers

theorem aligned_scanValue (depth : Nat) (s : Text) :
    Aligned s (scanValue (strict limit) depth s).plain (scanValue (lax limit) depth s).plain := by
  cases s with
  | nil =>
    rw [plain_scanValue_nil, plain_scanValue_nil]
    exact .stopped _
  | cons c t =>
    by_cases hquote : c = '"'
    · subst hquote
      rw [plain_scanValue_string, plain_scanValue_string]
      cases hs : scanString ('"' :: t) [] t with
      | error e => exact .stopped e
      | ok p =>
        obtain ⟨text, r⟩ := p
        exact .reached (Value.string text) r (firstRefusal?_string hs)
    · by_cases hopen : c = '[' ∨ c = '{'
      · cases depth with
        | zero =>
          rw [plain_scanValue_tooDeep _ _ hopen, plain_scanValue_tooDeep _ _ hopen]
          exact .stopped _
        | succ depth =>
          -- what a container holds is scanned with one level less
          have ih := aligned_scanValue depth
          rcases hopen with rfl | rfl
          · rw [plain_scanValue_array, plain_scanValue_array]
            exact (aligned_scanArray ih t).behind (firstRefusal?_mark (by decide) t)
          · rw [plain_scanValue_object, plain_scanValue_object]
            exact (aligned_scanObject ih t).behind (firstRefusal?_mark (by decide) t)
      · obtain ⟨hbracket, hbrace⟩ := not_or.1 hopen
        rw [plain_scanValue_scalar _ _ _ hquote hbracket hbrace,
          plain_scanValue_scalar _ _ _ hquote hbracket hbrace]
        exact aligned_scanScalar hquote t

end ReplySchema.Json
