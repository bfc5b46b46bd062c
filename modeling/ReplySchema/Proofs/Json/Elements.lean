import ReplySchema.Proofs.Json.Alignment
import ReplySchema.Proofs.Json.ReadBack
import ReplySchema.Proofs.Json.StringTexts

/-!
Elements read by the grammar. What is read of a series of elements begins the text as the grammar
says, and a series is read to the closing mark behind it, provided that both hold of one element.
Arrays and objects are read by one loop, so each direction is one induction over the elements.
-/

namespace ReplySchema.Json

theorem isSpace_iff {c : CodePoint} : isSpace c ↔ c = ' ' ∨ c = '\t' ∨ c = '\n' ∨ c = '\r' := by
  simp only [isSpace, Bool.or_eq_true, decide_eq_true_eq, or_assoc]

theorem exists_gap (s : Text) : ∃ g, Gap g ∧ s = g ++ dropSpace s := by
  refine ⟨s.takeWhile isSpace, fun c hc => isSpace_iff.1 ?_, ?_⟩
  · exact List.all_eq_true.1 List.all_takeWhile c hc
  · rw [dropSpace, List.takeWhile_append_dropWhile]

theorem Gap.nil : Gap [] := nofun

theorem Gap.dropSpace {g : Text} (hg : Gap g) (t : Text) : dropSpace (g ++ t) = dropSpace t := by
  induction g with
  | nil => rfl
  | cons c g ih =>
    obtain ⟨hc, hg⟩ := List.forall_mem_cons.1 hg
    rw [List.cons_append, Json.dropSpace, List.dropWhile_cons_of_pos (isSpace_iff.2 hc)]
    exact ih hg

theorem dropSpace_cons {c : CodePoint} (hc : ¬ isSpace c) (t : Text) : dropSpace (c :: t) = c :: t :=
  List.dropWhile_cons_of_neg hc

theorem Gap.stops {g : Text} (hg : Gap g) {r : Text} (hr : Literal.Stops r) :
    Literal.Stops (g ++ r) := by
  intro c hc
  cases g with
  | nil => exact hr c hc
  | cons d g =>
    cases hc
    rcases hg c (List.mem_cons_self ..) with rfl | rfl | rfl | rfl <;> decide

section Series

variable {α : Type} {Elem : Text → α → Prop} {elem : Text → Except Stop (α × Text)}
variable {rest : Text → Except Stop (List α × Text)} {close : CodePoint}

def Consumes (Elem : Text → α → Prop) (elem : Text → Except Stop (α × Text)) : Prop :=
  ∀ s a r, elem s = .ok (a, r) → ∃ t, s = t ++ r ∧ Elem t a

/-- Behind an element stands the closing mark, or a comma and what is read on behind it. -/
theorem readBehind_ok {one : List α} {more : List α → List α} {x r : Text} {as : List α}
    (h : readBehind close one more rest x = .ok (as, r)) :
    (∃ g, Gap g ∧ x = g ++ close :: r ∧ as = one) ∨
    ∃ g g' y bs, Gap g ∧ Gap g' ∧ x = g ++ (',' : CodePoint) :: (g' ++ y) ∧
      rest y = .ok (bs, r) ∧ as = more bs := by
  obtain ⟨g, hg, hx⟩ := exists_gap x
  rw [readBehind] at h
  cases hd : dropSpace x with
  | nil =>
    rw [hd] at h
    cases h
  | cons c y =>
    rw [hd] at h hx
    dsimp only at h
    split at h
    · rename_i hc
      cases h
      exact .inl ⟨g, hg, hc ▸ hx, rfl⟩
    · split at h
      · rename_i hcomma
        obtain ⟨g', hg', hy⟩ := exists_gap y
        obtain ⟨p, hrest, he⟩ := map_ok h
        cases he
        refine .inr ⟨g, g', dropSpace y, p.1, hg, hg', ?_, hrest, rfl⟩
        rw [← hy, ← hcomma, hx]
      · cases h

theorem series_of_read (hl : Lists close elem rest) (he : Consumes Elem elem) {s r : Text}
    {as : List α} (h : rest s = .ok (as, r)) : ∃ u, s = u ++ close :: r ∧ Series Elem u as := by
  rw [hl] at h
  cases ha : elem s with
  | error e =>
    rw [ha] at h
    cases h
  | ok p =>
    obtain ⟨a, x⟩ := p
    obtain ⟨t, rfl, ht⟩ := he s a x ha
    rw [ha] at h
    rcases readBehind_ok h with ⟨g, hg, rfl, rfl⟩ | ⟨g, g', y, bs, hg, hg', rfl, hrest, rfl⟩
    · exact ⟨t ++ g, by simp, .last ht hg⟩
    · -- what stands behind the comma is shorter
      obtain ⟨u, rfl, hs⟩ := series_of_read hl he hrest
      exact ⟨_, by simp, .more ht hg hg' hs⟩
termination_by s.length
decreasing_by
  subst_vars
  simp only [List.length_append, List.length_cons]
  omega

def Starts (close : CodePoint) (t : Text) : Prop := ∃ c u, t = c :: u ∧ ¬ isSpace c ∧ c ≠ close

/-- Each text of an element is read to its end. -/
def Covers (Elem : Text → α → Prop) (elem : Text → Except Stop (α × Text)) : Prop :=
  ∀ t a, Elem t a → ∀ r, Literal.Stops r → elem (t ++ r) = .ok (a, r)

structure Closes (close : CodePoint) : Prop where
  space : ¬ isSpace close
  comma : close ≠ ','
  stops : ∀ r, Literal.Stops (close :: r)

theorem Starts.append {t : Text} (h : Starts close t) (r : Text) : Starts close (t ++ r) := by
  obtain ⟨c, u, rfl, hc⟩ := h
  exact ⟨c, u ++ r, rfl, hc⟩

theorem Starts.dropSpace {t : Text} (h : Starts close t) (r : Text) :
    dropSpace (t ++ r) = t ++ r := by
  obtain ⟨c, u, rfl, hc, -⟩ := h
  exact dropSpace_cons hc (u ++ r)

theorem Series.starts {t : Text} {as : List α} (hs : ∀ t a, Elem t a → Starts close t)
    (h : Series Elem t as) : Starts close t := by
  cases h with
  | last ha => exact (hs _ _ ha).append _
  | more ha => exact (hs _ _ ha).append _

theorem readBehind_close (hc : Closes close) {g : Text} (hg : Gap g) (one : List α)
    (more : List α → List α) (r : Text) :
    readBehind close one more rest (g ++ close :: r) = .ok (one, r) := by
  rw [readBehind, hg.dropSpace, dropSpace_cons hc.space]
  dsimp only
  rw [if_pos rfl]

theorem readBehind_comma (hc : Closes close) {g g' : Text} (hg : Gap g) (hg' : Gap g')
    (one : List α) (more : List α → List α) {x : Text} (hx : dropSpace x = x) :
    readBehind close one more rest (g ++ (',' : CodePoint) :: (g' ++ x)) =
      (rest x).map fun (as, r) => (more as, r) := by
  rw [readBehind, hg.dropSpace, dropSpace_cons (by decide)]
  dsimp only
  rw [if_neg (Ne.symm hc.comma), if_pos rfl, hg'.dropSpace, hx]

theorem read_of_series (hl : Lists close elem rest) (hc : Closes close) (he : Covers Elem elem)
    (hs : ∀ t a, Elem t a → Starts close t) {u : Text} {as : List α} (h : Series Elem u as)
    (r : Text) : rest (u ++ close :: r) = .ok (as, r) := by
  induction h with
  | last ha hg =>
    rw [List.append_assoc, hl, he _ _ ha _ (hg.stops (hc.stops r))]
    exact readBehind_close hc hg _ _ r
  | @more t g g' u a as ha hg hg' hrest ih =>
    have hcomma : Literal.Stops ((',' : CodePoint) :: (g' ++ (u ++ close :: r))) :=
      Literal.stops_cons (by decide) _
    have hu := (hrest.starts hs).dropSpace (close :: r)
    simp only [List.append_assoc, List.cons_append]
    rw [hl, he _ _ ha _ (hg.stops hcomma)]
    dsimp only
    rw [readBehind_comma hc hg hg' _ _ hu, ih]
    rfl

variable {β : Type} {left : CodePoint} {e : Stop} {f : List α → β}

theorem enclosed_of_readOpened (left : CodePoint) (hl : Lists close elem rest)
    (he : Consumes Elem elem) {s r : Text} {b : β}
    (h : readOpened close e (f []) f rest s = .ok (b, r)) :
    ∃ t as, left :: s = t ++ r ∧ Enclosed Elem left close t as ∧ b = f as := by
  obtain ⟨g, hg, hs⟩ := exists_gap s
  rw [readOpened] at h
  cases hd : dropSpace s with
  | nil =>
    rw [hd] at h
    cases h
  | cons c x =>
    rw [hd] at h hs
    dsimp only at h
    split at h
    · rename_i hc
      cases h
      refine ⟨_, [], ?_, .empty hg, rfl⟩
      rw [hs, hc]
      simp
    · cases hr : rest (c :: x) with
      | error e' =>
        rw [hr] at h
        cases h
      | ok p =>
        obtain ⟨as, y⟩ := p
        rw [hr] at h
        cases h
        obtain ⟨u, hu, hseries⟩ := series_of_read hl he hr
        refine ⟨_, as, ?_, .filled hg hseries, rfl⟩
        rw [hs, hu]
        simp

theorem readOpened_close (hc : Closes close) {g : Text} (hg : Gap g) (e : Stop) (b : β)
    (f : List α → β) (r : Text) :
    readOpened close e b f rest (g ++ close :: r) = .ok (b, r) := by
  rw [readOpened, hg.dropSpace, dropSpace_cons hc.space]
  dsimp only
  rw [if_pos rfl]

theorem readOpened_starts {g u : Text} (hg : Gap g) (hu : Starts close u) (e : Stop) (b : β)
    (f : List α → β) :
    readOpened close e b f rest (g ++ u) = (rest u).map fun (as, r) => (f as, r) := by
  obtain ⟨c, x, rfl, hspace, hne⟩ := hu
  rw [readOpened, hg.dropSpace, dropSpace_cons hspace]
  dsimp only
  rw [if_neg hne]

theorem readOpened_of_enclosed (hl : Lists close elem rest) (hc : Closes close)
    (he : Covers Elem elem) (hs : ∀ t a, Elem t a → Starts close t) {t : Text} {as : List α}
    (h : Enclosed Elem left close t as) (e : Stop) (f : List α → β) (r : Text) :
    ∃ x, t ++ r = left :: x ∧ readOpened close e (f []) f rest x = .ok (f as, r) := by
  cases h with
  | @empty g hg =>
    exact ⟨g ++ close :: r, by simp, readOpened_close hc hg e (f []) f r⟩
  | @filled g u as hg hu =>
    refine ⟨g ++ (u ++ close :: r), by simp, ?_⟩
    rw [readOpened_starts hg ((hu.starts hs).append _), read_of_series hl hc he hs hu r]
    rfl

end Series

section Members

variable {value : (s : Text) → Scanned Value s.length} {Elem : Text → Value → Prop}

theorem closes_bracket : Closes ']' :=
  ⟨by decide, by decide, fun r => Literal.stops_cons (by decide) r⟩

theorem closes_brace : Closes '}' :=
  ⟨by decide, by decide, fun r => Literal.stops_cons (by decide) r⟩

theorem stringText_of_scanName {s r k : Text} (h : (scanName s).plain = .ok (k, r)) :
    ∃ n g g', s = n ++ (g ++ (':' : CodePoint) :: (g' ++ r)) ∧ StringText n k ∧ Gap g ∧ Gap g' := by
  rw [plain_scanName] at h
  cases s with
  | nil => cases h
  | cons q t =>
    dsimp only at h
    split at h
    · rename_i hq
      cases hs : scanString (q :: t) [] t with
      | error e =>
        rw [hs] at h
        cases h
      | ok p =>
        obtain ⟨name, u⟩ := p
        obtain ⟨g, hg, hu⟩ := exists_gap u
        obtain ⟨b, x, hb, hbody, hname⟩ := stringBody_of_scanString hs
        rw [List.reverse_nil, List.nil_append] at hname
        rw [hs] at h
        dsimp only at h
        cases hd : dropSpace u with
        | nil =>
          rw [hd] at h
          cases h
        | cons c y =>
          rw [hd] at h hu
          dsimp only at h
          split at h
          · rename_i hc
            cases h
            obtain ⟨g', hg', hy⟩ := exists_gap y
            refine ⟨_, g, g', ?_, hname ▸ StringText.mk hbody, hg, hg'⟩
            rw [hq, hb, hu, hc, ← hy]
            simp
          · cases h
    · cases h

theorem quoted_append (b r : Text) : ('"' : CodePoint) :: (b ++ [('"' : CodePoint)]) ++ r =
    ('"' : CodePoint) :: (b ++ ('"' : CodePoint) :: r) := by
  simp

theorem scanName_of_stringText {n k g g' x : Text} (hn : StringText n k) (hg : Gap g)
    (hg' : Gap g') (hx : dropSpace x = x) :
    (scanName (n ++ (g ++ (':' : CodePoint) :: (g' ++ x)))).plain = .ok (k, x) := by
  obtain @⟨b, _, hbody⟩ := hn
  rw [quoted_append, plain_scanName]
  dsimp only
  rw [if_pos rfl, scanString_append hbody]
  dsimp only
  rw [hg.dropSpace, dropSpace_cons (by decide)]
  dsimp only
  rw [if_pos rfl, hg'.dropSpace, hx, List.reverse_nil, List.nil_append]

theorem consumes_readMember (hv : Consumes Elem fun s => (value s).plain) :
    Consumes (Member Elem) (readMember value) := by
  intro s m r h
  obtain ⟨x, hname, hvalue⟩ := readMember_ok _ h
  obtain ⟨t, ht, hden⟩ := hv x m.2 r hvalue
  obtain ⟨n, g, g', hs, hn, hg, hg'⟩ := stringText_of_scanName hname
  refine ⟨_, ?_, .mk hn hg hg' hden⟩
  rw [hs, ht]
  simp

theorem covers_readMember {close : CodePoint} (hs : ∀ t v, Elem t v → Starts close t)
    (hv : Covers Elem fun s => (value s).plain) : Covers (Member Elem) (readMember value) := by
  rintro _ _ ⟨hn, hg, hg', ht⟩ r hr
  have hread := hv _ _ ht r hr
  dsimp only at hread
  have hx := (hs _ _ ht).dropSpace r
  simp only [List.append_assoc, List.cons_append]
  rw [readMember, scanName_of_stringText hn hg hg' hx]
  dsimp only
  rw [hread]
  rfl

theorem Member.starts {t : Text} {m : Text × Value} (h : Member Elem t m) : Starts '}' t := by
  obtain ⟨⟨-⟩, -, -, -⟩ := h
  exact ⟨'"', _, rfl, by decide, by decide⟩

end Members

end ReplySchema.Json
