import ReplySchema.Proofs.Text.Search
import ReplySchema.Yaml.Token

/-!
The tokens of members written one a line. Keys and values are plain words: letters, and low lines
between them. The scanner opens one block mapping in front of the first key, and every further line
goes on with it.
-/

namespace ReplySchema.Yaml

/-- A letter or a low line. -/
def isWordChar (c : CodePoint) : Bool := c.isAsciiUpper || c.isAsciiLower || c = '_'

/-- A word that may stand for a key. -/
structure IsWord (t : Text) : Prop where
  ne_nil : t ≠ []
  short : t.length ≤ 1024
  letters : ∀ c ∈ t, isWordChar c

instance (t : Text) : Decidable (IsWord t) :=
  decidable_of_iff (t ≠ [] ∧ t.length ≤ 1024 ∧ t.all isWordChar)
    ⟨fun ⟨h, hs, hc⟩ => ⟨h, hs, List.all_eq_true.1 hc⟩,
      fun ⟨h, hs, hc⟩ => ⟨h, hs, List.all_eq_true.2 hc⟩⟩

def line (m : Text × Text) : Text :=
  m.1 ++ (':' : CodePoint) :: (' ' : CodePoint) :: (m.2 ++ [('\n' : CodePoint)])

def lines (ms : List (Text × Text)) : Text := ms.flatMap line

theorem mem_lines {ms : List (Text × Text)} (h : ∀ m ∈ ms, IsWord m.1 ∧ IsWord m.2) {c : CodePoint}
    (hc : c ∈ lines ms) : isWordChar c ∨ c ∈ ([':', ' ', '\n'] : Text) := by
  obtain ⟨m, hm, hc⟩ := List.mem_flatMap.1 hc
  rw [line, List.mem_append, List.mem_cons, List.mem_cons, List.mem_append] at hc
  rcases hc with hc | rfl | rfl | hc | hc
  · exact .inl ((h m hm).1.letters c hc)
  · exact .inr (by decide)
  · exact .inr (by decide)
  · exact .inl ((h m hm).2.letters c hc)
  · exact .inr (List.mem_cons_of_mem _ (List.mem_cons_of_mem _ hc))

section Letters

variable {c : CodePoint}

theorem isWordChar_iff : isWordChar c ↔
    (65 ≤ c.val ∧ c.val ≤ 90) ∨ (97 ≤ c.val ∧ c.val ≤ 122) ∨ c.val = 95 := by
  rw [isWordChar, Bool.or_eq_true, Bool.or_eq_true, CodePoint.isAsciiUpper, CodePoint.isAsciiLower,
    Bool.and_eq_true, Bool.and_eq_true, decide_eq_true_iff, decide_eq_true_iff, decide_eq_true_iff,
    decide_eq_true_iff, decide_eq_true_iff, or_assoc, Fin.ext_iff]
  rfl

/-- What is no word character is different from every one. -/
theorem ne_of_isWordChar (h : isWordChar c) {d : CodePoint} (hd : isWordChar d = false) : c ≠ d := by
  rintro rfl
  cases h.symm.trans hd

theorem not_isSpace_of_isWordChar (h : isWordChar c) : isSpace c = false := by
  have := isWordChar_iff.1 h
  have hb : isBreak c = false := by
    have hn := ne_of_isWordChar h (d := '\n') (by decide)
    simp only [isBreak, Bool.or_eq_false_iff, decide_eq_false_iff_not]
    exact ⟨⟨⟨hn, by omega⟩, by omega⟩, by omega⟩
  rw [isSpace, isBlank, hb, Bool.or_false, Bool.or_eq_false_iff]
  exact ⟨decide_eq_false (ne_of_isWordChar h (by decide)),
    decide_eq_false (ne_of_isWordChar h (by decide))⟩

/-- A word character takes up one column. -/
theorem next_of_isWordChar (h : isWordChar c) (t : Text) (i l k : Nat) :
    (⟨c :: t, i, l, k⟩ : Cursor).next = ⟨t, i + 1, l, k + 1⟩ := by
  have hm : c.isByteOrderMark = false := by
    have := isWordChar_iff.1 h
    exact decide_eq_false (by omega)
  have hb := (Bool.or_eq_false_iff.1 (not_isSpace_of_isWordChar h)).2
  simp [Cursor.next, hb, hm]

end Letters

section Words

variable {w r : Text} {i l k : Nat}

theorem skip_succ (n : Nat) (c : Cursor) : c.skip (n + 1) = c.next.skip n := by
  induction n with
  | zero => rfl
  | succ n ih => exact congrArg Cursor.next ih

theorem skip_word (h : ∀ c ∈ w, isWordChar c) (r : Text) (i l k : Nat) :
    (⟨w ++ r, i, l, k⟩ : Cursor).skip w.length = ⟨r, i + w.length, l, k + w.length⟩ := by
  induction w generalizing i k with
  | nil => rfl
  | cons c w ih =>
    obtain ⟨hc, hw⟩ := List.forall_mem_cons.1 h
    rw [List.length_cons, skip_succ, List.cons_append, next_of_isWordChar hc, ih hw, Nat.add_right_comm,
      Nat.add_right_comm k]
    rfl

theorem plainRun_word (h : ∀ c ∈ w, isWordChar c) {d : CodePoint} {after : Text}
    (hd : endsPlain false d after) : plainRun false (w ++ d :: after) = (w, d :: after) := by
  induction w with
  | nil => rw [List.nil_append, plainRun, if_pos hd]
  | cons c w ih =>
    obtain ⟨hc, hw⟩ := List.forall_mem_cons.1 h
    have hgoes : endsPlain false c (w ++ d :: after) = false := by
      have hcolon : decide (c = ((':' : Char) : CodePoint)) = false :=
        decide_eq_false (ne_of_isWordChar hc (by decide))
      simp [endsPlain, not_isSpace_of_isWordChar hc, hcolon]
    rw [List.cons_append, plainRun, hgoes, if_neg Bool.false_ne_true, ih hw]

/-- The end of the text, or the beginning of a line with a word on it. -/
def Fresh (r : Text) : Prop := ∀ c ∈ r.head?, isWordChar c

theorem fresh_word (h : IsWord w) (r : Text) : Fresh (w ++ r) := by
  obtain ⟨c, t, rfl⟩ := List.exists_cons_of_ne_nil h.ne_nil
  intro d hd
  cases hd
  exact h.letters _ (List.mem_cons_self ..)

theorem fresh_lines {ms : List (Text × Text)} (h : ∀ m ∈ ms, IsWord m.1) : Fresh (lines ms) := by
  cases ms with
  | nil => exact nofun
  | cons m ms =>
    rw [lines, List.flatMap_cons, line, List.append_assoc]
    exact fresh_word (h m (List.mem_cons_self ..)) _

theorem Fresh.startsWith_eq_false (h : Fresh r) {c : CodePoint} (hc : isWordChar c = false)
    (lead : Text) : r.startsWith (c :: lead) = false := by
  cases r with
  | nil => rfl
  | cons d r =>
    have hne : c ≠ d := (ne_of_isWordChar (h d rfl) hc).symm
    rw [Text.startsWith, Text.dropLead?, if_neg hne, Option.isSome_none]

theorem Fresh.separatesDocuments_eq_false (h : Fresh r) : separatesDocuments r = false := by
  have hdash : r.startsWith "---" = false := h.startsWith_eq_false (by decide) _
  have hdot : r.startsWith "..." = false := h.startsWith_eq_false (by decide) _
  rw [separatesDocuments, hdash, hdot, Bool.or_false, Bool.false_and]

theorem Fresh.gap_eq (h : Fresh r) : gap (· = ' ') true r = ⟨[], r, false⟩ := by
  cases r with
  | nil => rfl
  | cons c r =>
    have hspace := not_isSpace_of_isWordChar (h c rfl)
    obtain ⟨hblank, hbreak⟩ := Bool.or_eq_false_iff.1 hspace
    have hline : lineBreak? [c] = none := by
      rw [isBreak, Bool.or_assoc, Bool.or_assoc, Bool.or_eq_false_iff, Bool.or_eq_false_iff] at hbreak
      simp [lineBreak?, isBreak, hbreak]
    have hfill : decide (c = ((' ' : Char) : CodePoint)) = false :=
      decide_eq_false (ne_of_isWordChar (h c rfl) (by decide))
    rw [gap, h.separatesDocuments_eq_false, Bool.and_false, if_neg Bool.false_ne_true, hline]
    simp only [hfill]
    rfl

theorem plainGap_colon (r : Text) : plainGap ((':' : CodePoint) :: r) = ⟨[], (':' : CodePoint) :: r, false⟩ :=
  rfl

theorem Fresh.plainGap_eq (h : Fresh r) :
    plainGap (('\n' : CodePoint) :: r) = ⟨[(' ' : CodePoint)], r, true⟩ := by
  have hbreak : lineBreak? ((('\n' : CodePoint) :: r).dropWhile fun c : CodePoint => c = ' ') =
      some (('\n' : CodePoint), r) := rfl
  rw [plainGap, hbreak]
  dsimp only
  rw [h.gap_eq]
  rfl

theorem skipTo_word (h : ∀ c ∈ w, isWordChar c) (r : Text) (i l k : Nat) :
    (⟨w ++ r, i, l, k⟩ : Cursor).skipTo r = ⟨r, i + w.length, l, k + w.length⟩ := by
  rw [Cursor.skipTo, List.length_append, Nat.add_sub_cancel_right, skip_word h]

/-- A plain scalar that is a key ends in front of the colon. -/
theorem plain_key (h : IsWord w) (margin : Nat) (r : Text) (i l k : Nat) :
    plain false margin ⟨w ++ (':' : CodePoint) :: (' ' : CodePoint) :: r, i, l, k⟩ =
      ⟨w, ⟨(':' : CodePoint) :: (' ' : CodePoint) :: r, i + w.length, l, k + w.length⟩, false⟩ := by
  have hhash : (w ++ (':' : CodePoint) :: (' ' : CodePoint) :: r).startsWith "#" = false :=
    (fresh_word h _).startsWith_eq_false (by decide) _
  have hempty : w.isEmpty = false := List.isEmpty_eq_false_iff.2 h.ne_nil
  rw [plain, plainFrom, plainRun_word h.letters (by rfl)]
  simp only [hhash, hempty, plainGap_colon, skipTo_word h.letters]
  simp

/-- A plain scalar at the end of a line ends there if the next line does not stand further right. -/
theorem plain_value (h : IsWord w) (hr : Fresh r) (margin i l k : Nat) :
    plain false (margin + 1) ⟨w ++ ('\n' : CodePoint) :: r, i, l, k⟩ =
      ⟨w, ⟨r, i + w.length + 1, l + 1, 0⟩, true⟩ := by
  have hhash : (w ++ ('\n' : CodePoint) :: r).startsWith "#" = false :=
    (fresh_word h _).startsWith_eq_false (by decide) _
  have hempty : w.isEmpty = false := List.isEmpty_eq_false_iff.2 h.ne_nil
  have hnext : (⟨w ++ ('\n' : CodePoint) :: r, i, l, k⟩ : Cursor).skipTo r =
      ⟨r, i + w.length + 1, l + 1, 0⟩ := by
    have hlength : (w ++ ('\n' : CodePoint) :: r).length - r.length = w.length + 1 := by
      rw [List.length_append, List.length_cons]
      omega
    rw [Cursor.skipTo, hlength]
    change ((⟨w ++ ('\n' : CodePoint) :: r, i, l, k⟩ : Cursor).skip w.length).next = _
    rw [skip_word h.letters]
    rfl
  rw [plain, plainFrom, plainRun_word h.letters (by rfl)]
  simp only [hhash, hempty, hr.plainGap_eq, hnext]
  simp

end Words

namespace Scanner

variable {s t u : Scanner} {c : CodePoint} {after w r : Text}

/-- One token is fetched where no key that was possible is lost and nothing is closed in front of it. -/
theorem scan_step (hskip : s.skipToToken = t) (hstale : t.dropStale = .ok t)
    (hclose : t.closeTo t.cursor.column = t) (hrest : t.cursor.rest = c :: after)
    (hfetch : t.fetch c after = .ok u) (hlt : u.cursor.rest.length < s.cursor.rest.length) :
    s.scan = u.scan := by
  rw [scan, hskip, hstale]
  dsimp only
  rw [hclose]
  split
  · rename_i hnil
    cases hnil.symm.trans hrest
  · rename_i d after' hcons
    obtain ⟨rfl, rfl⟩ := List.cons.inj (hcons.symm.trans hrest)
    rw [hfetch]
    exact dif_pos hlt

theorem skipComment_of_not_isSpace (hc : isSpace c = false) (hhash : c ≠ '#') (after : Text)
    (i l k : Nat) : Cursor.skipComment ⟨c :: after, i, l, k⟩ = ⟨c :: after, i, l, k⟩ := by
  have hspace : decide (c = ((' ' : Char) : CodePoint)) = false :=
    (Bool.or_eq_false_iff.1 (Bool.or_eq_false_iff.1 hc).1).1
  have hspaces : Cursor.skipSpaces ⟨c :: after, i, l, k⟩ = ⟨c :: after, i, l, k⟩ := by
    rw [Cursor.skipSpaces, Cursor.skipWhile]
    simp only [List.dropWhile_cons, hspace, Bool.false_eq_true, if_false, Cursor.skipTo, Nat.sub_self]
    rfl
  have hcomment : Text.startsWith (c :: after) "#" = false := by
    have hdrop : Text.dropLead? "#" (c :: after) = none := if_neg (Ne.symm hhash)
    rw [Text.startsWith, hdrop]
    rfl
  rw [Cursor.skipComment, hspaces]
  simp only [hcomment]
  rfl

theorem skipComment_space (r : Text) (i l k : Nat) :
    Cursor.skipComment ⟨(' ' : CodePoint) :: r, i, l, k⟩ = Cursor.skipComment ⟨r, i + 1, l, k + 1⟩ := by
  have hspaces : Cursor.skipSpaces ⟨(' ' : CodePoint) :: r, i, l, k⟩ =
      Cursor.skipSpaces ⟨r, i + 1, l, k + 1⟩ := by
    have hdrop : (((' ' : CodePoint) :: r).dropWhile fun c : CodePoint => c = ' ') =
        r.dropWhile fun c : CodePoint => c = ' ' := rfl
    have hle : (r.dropWhile fun c : CodePoint => c = ' ').length ≤ r.length :=
      (List.dropWhile_suffix _).length_le
    rw [Cursor.skipSpaces, Cursor.skipSpaces, Cursor.skipWhile, Cursor.skipWhile, Cursor.skipTo, hdrop,
      List.length_cons, Nat.sub_add_comm hle, skip_succ]
    rfl
  rw [Cursor.skipComment, Cursor.skipComment, hspaces]

/-- Where neither a comment nor a line end comes first, the scanner only skips spaces. -/
theorem skipToToken_of_skipComment {d : Cursor} (hskip : s.cursor.skipComment = d)
    (hrest : d.rest = c :: after) (hc : isSpace c = false) :
    s.skipToToken = { s with cursor := d } := by
  have hbreak := (Bool.or_eq_false_iff.1 hc).2
  have hline : lineBreak? d.rest = none := by
    rw [isBreak, Bool.or_assoc, Bool.or_assoc, Bool.or_eq_false_iff, Bool.or_eq_false_iff] at hbreak
    simp [hrest, lineBreak?, isBreak, hbreak]
  rw [skipToToken]
  simp only [hskip, hline]

theorem skipToToken_of_not_isSpace (hrest : s.cursor.rest = c :: after) (hc : isSpace c = false)
    (hhash : c ≠ '#') : s.skipToToken = s := by
  obtain ⟨⟨rest, i, l, k⟩, flow, columns, allowed, keys, ts⟩ := s
  cases hrest
  exact skipToToken_of_skipComment (skipComment_of_not_isSpace hc hhash after i l k) rfl hc

theorem beginsPlain_of_isWordChar (hc : isWordChar c) (after : Text) (s : Scanner) :
    s.beginsPlain c after = true := by
  have hne : ∀ d, isWordChar d = false → decide (c = d) = false := fun d hd =>
    decide_eq_false (ne_of_isWordChar hc hd)
  have hmarks : ("?:,[]\x7b\x7d#&*!|>'\"%@\x60" : Text).all (fun d => !isWordChar d) = true := by
    decide
  have hcontains : Text.contains "?:,[]\x7b\x7d#&*!|>'\"%@\x60" [c] = false := by
    refine Text.contains_eq_false_iff.2 fun h => ?_
    have hword := List.all_eq_true.1 hmarks c (h.mem (List.mem_singleton_self c))
    rw [hc] at hword
    cases hword
  simp (disch := decide) [beginsPlain, not_isSpace_of_isWordChar hc, hne, hcontains]

theorem fetch_of_isWordChar (hc : isWordChar c) (after : Text) (s : Scanner) :
    s.fetch c after = s.fetchPlain := by
  have hne : ∀ d, isWordChar d = false → (c = d) = False := fun d hd =>
    eq_false (ne_of_isWordChar hc hd)
  simp (disch := decide) [fetch, hne, beginsPlain_of_isWordChar hc]

/-- What stands in the tokens in front of the first key. -/
def opening : List Nat → List Token
  | [] => [.blockMapping]
  | _ => []

def memberTokens (m : Text × Text) : List Token :=
  [.key, .scalar m.1 true, .value, .scalar m.2 true]

/-- The scanner at the beginning of a line, with no block open or only that of the members. -/
def atLine (columns : List Nat) (ts : List Token) (r : Text) (i l : Nat) : Scanner :=
  ⟨⟨r, i, l, 0⟩, 0, columns, true, [], ts⟩

/-- The place of a key at the beginning of a line; behind another member there has to be one. -/
def keyPlace (columns : List Nat) (ts : List Token) (i l : Nat) : KeyPlace :=
  ⟨ts.length, columns.head? = some 0, i, l, 0⟩

/-- The scanner behind a key that began the line. -/
def atColon (columns : List Nat) (ts : List Token) (w r : Text) (i l : Nat) : Scanner :=
  ⟨⟨(':' : CodePoint) :: (' ' : CodePoint) :: r, i + w.length, l, w.length⟩, 0, columns, false,
    [(0, keyPlace columns ts i l)], ts ++ [.scalar w true]⟩

/-- The scanner behind the colon that makes the word in front of it a key. -/
def atValue (columns : List Nat) (ts : List Token) (w r : Text) (i l : Nat) : Scanner :=
  ⟨⟨(' ' : CodePoint) :: r, i + w.length + 1, l, w.length + 1⟩, 0, [0], false, [],
    ts ++ opening columns ++ [.key, .scalar w true, .value]⟩

variable {columns : List Nat} {ts : List Token} {i l k : Nat} {v : Text}

theorem closeTo_of_margin (h : s.columns = [] ∨ s.columns = [0]) (column : Nat) :
    s.closeTo column = s := by
  have hclosed : s.columns.takeWhile (column < ·) = [] := by
    rcases h with h | h <;> simp [h]
  obtain ⟨cursor, flow, columns, allowed, keys, ts⟩ := s
  rw [closeTo, hclosed]
  split
  · rfl
  · simp

theorem fetchPlain_of_noteKey {text : Text} {cursor : Cursor} {ends : Bool} (hnote : s.noteKey = .ok t)
    (hplain : plain t.inFlow t.margin t.cursor = ⟨text, cursor, ends⟩) :
    s.fetchPlain =
      .ok ({ t with cursor := cursor, keyAllowed := ends }.emit (.scalar text true)) := by
  rw [fetchPlain, hnote]
  dsimp only [bind, Except.bind]
  rw [hplain]
  rfl

theorem dropStale_of_fresh (h : ∀ k ∈ s.keys, s.isStale k.2 = false) : s.dropStale = .ok s := by
  have hany : (s.keys.any fun k => s.isStale k.2 && k.2.required) = false := by
    rw [List.any_eq_false]
    intro k hk
    simp [h k hk]
  have hfilter : s.keys.filter (fun k => !s.isStale k.2) = s.keys :=
    List.filter_eq_self.2 fun k hk => by simp [h k hk]
  rw [dropStale, hany, hfilter]
  rfl

theorem insertIdx_length (ts rest : List Token) (t : Token) :
    (ts ++ rest).insertIdx ts.length t = ts ++ t :: rest := by
  induction ts with
  | nil => rfl
  | cons u ts ih => exact congrArg (u :: ·) ih

theorem scan_key (h : IsWord w) (hcolumns : columns = [] ∨ columns = [0]) (r : Text) :
    (atLine columns ts (w ++ (':' : CodePoint) :: (' ' : CodePoint) :: r) i l).scan =
      (atColon columns ts w r i l).scan := by
  obtain ⟨c, t, rfl⟩ := List.exists_cons_of_ne_nil h.ne_nil
  have hc := h.letters c (List.mem_cons_self ..)
  have hskip := skipToToken_of_not_isSpace
    (s := atLine columns ts (c :: t ++ (':' : CodePoint) :: (' ' : CodePoint) :: r) i l) rfl
    (not_isSpace_of_isWordChar hc) (ne_of_isWordChar hc (by decide))
  refine scan_step hskip (dropStale_of_fresh nofun) (closeTo_of_margin hcolumns _) rfl ?_ ?_
  · rw [fetch_of_isWordChar hc]
    have hplain := plain_key h (margin (atLine columns ts [] i l)) r i l 0
    rw [Nat.zero_add] at hplain
    have hnote : (atLine columns ts (c :: t ++ (':' : CodePoint) :: (' ' : CodePoint) :: r) i l).noteKey =
        .ok { atLine columns ts (c :: t ++ (':' : CodePoint) :: (' ' : CodePoint) :: r) i l with
          keys := [(0, keyPlace columns ts i l)] } := rfl
    exact fetchPlain_of_noteKey hnote hplain
  · simp only [atLine, atColon, List.length_append, List.length_cons]
    omega

theorem scan_colon (h : IsWord w) (hcolumns : columns = [] ∨ columns = [0]) (r : Text) :
    (atColon columns ts w r i l).scan = (atValue columns ts w r i l).scan := by
  have hskip := skipToToken_of_not_isSpace (s := atColon columns ts w r i l) rfl (by decide) (by decide)
  have hfresh : (atColon columns ts w r i l).isStale (keyPlace columns ts i l) = false := by
    simpa [isStale, atColon, keyPlace] using h.short
  have hstale := dropStale_of_fresh (s := atColon columns ts w r i l) (List.forall_mem_singleton.2 hfresh)
  refine scan_step hskip hstale (closeTo_of_margin hcolumns _) rfl ?_ ?_
  · change (atColon columns ts w r i l).fetchValue = _
    rcases hcolumns with rfl | rfl
    · have hvalue : (atColon [] ts w r i l).fetchValue =
          .ok { atValue [] ts w r i l with
            tokens := ((ts ++ [Token.scalar w true]).insertIdx ts.length .key).insertIdx ts.length
              .blockMapping ++ [.value] } := rfl
      rw [hvalue, insertIdx_length, insertIdx_length]
      simp [atValue, opening]
    · have hvalue : (atColon [0] ts w r i l).fetchValue =
          .ok { atValue [0] ts w r i l with
            tokens := (ts ++ [Token.scalar w true]).insertIdx ts.length .key ++ [.value] } := rfl
      rw [hvalue, insertIdx_length]
      simp [atValue, opening]
  · simp [atColon, atValue]

theorem scan_value (h : IsWord v) (hr : Fresh r) :
    (atValue columns ts w (v ++ ('\n' : CodePoint) :: r) i l).scan =
      (atLine [0] (ts ++ (opening columns ++ memberTokens (w, v))) r (i + w.length + 1 + 1 + v.length + 1)
        (l + 1)).scan := by
  obtain ⟨c, t, rfl⟩ := List.exists_cons_of_ne_nil h.ne_nil
  have hc := h.letters c (List.mem_cons_self ..)
  have hspace := not_isSpace_of_isWordChar hc
  have hcomment := skipComment_of_not_isSpace hspace (ne_of_isWordChar hc (by decide))
    (t ++ ('\n' : CodePoint) :: r) (i + w.length + 1 + 1) l (w.length + 1 + 1)
  have hskip := skipToToken_of_skipComment
    (s := atValue columns ts w (c :: t ++ ('\n' : CodePoint) :: r) i l)
    ((skipComment_space ..).trans hcomment) rfl hspace
  refine scan_step hskip (dropStale_of_fresh nofun) (closeTo_of_margin (.inr rfl) _) rfl ?_ ?_
  · rw [fetch_of_isWordChar hc]
    have hnote : { atValue columns ts w (c :: t ++ ('\n' : CodePoint) :: r) i l with
        cursor := ⟨c :: (t ++ ('\n' : CodePoint) :: r), i + w.length + 1 + 1, l, w.length + 1 + 1⟩
        }.noteKey = .ok _ := rfl
    refine (fetchPlain_of_noteKey hnote (plain_value h hr 0 _ l _)).trans ?_
    simp [atValue, atLine, emit, memberTokens]
  · simp only [atLine, atValue, List.length_append, List.length_cons]
    omega

/-- A line becomes the tokens of its member; in front of the first one the block is opened. -/
theorem scan_line {m : Text × Text} (hk : IsWord m.1) (hv : IsWord m.2) (hr : Fresh r)
    (hcolumns : columns = [] ∨ columns = [0]) :
    (atLine columns ts (line m ++ r) i l).scan =
      (atLine [0] (ts ++ (opening columns ++ memberTokens m)) r
        (i + m.1.length + 1 + 1 + m.2.length + 1) (l + 1)).scan := by
  have hline : line m ++ r =
      m.1 ++ (':' : CodePoint) :: (' ' : CodePoint) :: (m.2 ++ ('\n' : CodePoint) :: r) := by
    simp [line]
  rw [hline, scan_key hk hcolumns, scan_colon hk hcolumns, scan_value hv hr]

theorem scan_end : (atLine [0] ts [] i l).scan = ⟨ts ++ [.blockEnd], none⟩ := by
  have hskip : (atLine [0] ts [] i l).skipToToken = atLine [0] ts [] i l := by
    rw [skipToToken]
    rfl
  have hstale := dropStale_of_fresh (s := atLine [0] ts [] i l) nofun
  rw [scan, hskip, hstale]
  dsimp only
  rw [closeTo_of_margin (.inr rfl)]
  rfl

theorem scan_lines {ms : List (Text × Text)} (h : ∀ m ∈ ms, IsWord m.1 ∧ IsWord m.2) :
    (atLine [0] ts (lines ms) i l).scan = ⟨ts ++ (ms.flatMap memberTokens ++ [.blockEnd]), none⟩ := by
  induction ms generalizing ts i l with
  | nil => exact scan_end
  | cons m ms ih =>
    obtain ⟨⟨hk, hv⟩, hms⟩ := List.forall_mem_cons.1 h
    have hr := fresh_lines fun m hm => (hms m hm).1
    rw [lines, List.flatMap_cons, ← lines, scan_line hk hv hr (.inr rfl), ih hms]
    simp [opening]

end Scanner

theorem tokens_nil : tokens [] = ⟨[], none⟩ := by
  have hskip : (Scanner.start []).skipToToken = Scanner.start [] := by
    rw [Scanner.skipToToken]
    rfl
  have hstale := Scanner.dropStale_of_fresh (s := Scanner.start []) nofun
  rw [tokens, Scanner.scan, hskip, hstale]
  rfl

/-- The tokens of members written one a line: those of the members, in one block mapping. -/
theorem tokens_lines {ms : List (Text × Text)} (hne : ms ≠ [])
    (h : ∀ m ∈ ms, IsWord m.1 ∧ IsWord m.2) :
    tokens (lines ms) = ⟨.blockMapping :: (ms.flatMap Scanner.memberTokens ++ [.blockEnd]), none⟩ := by
  obtain ⟨m, ms, rfl⟩ := List.exists_cons_of_ne_nil hne
  obtain ⟨⟨hk, hv⟩, hms⟩ := List.forall_mem_cons.1 h
  have hr := fresh_lines fun m hm => (hms m hm).1
  have hstart : Scanner.start (line m ++ lines ms) = Scanner.atLine [] [] (line m ++ lines ms) 0 0 := by
    obtain ⟨c, t, ht⟩ := List.exists_cons_of_ne_nil hk.ne_nil
    have hc := isWordChar_iff.1 (hk.letters c (ht ▸ List.mem_cons_self ..))
    have hmark : ¬ c.isByteOrderMark = true := by
      rw [CodePoint.isByteOrderMark, decide_eq_true_iff]
      omega
    rw [line, ht]
    exact congrArg (fun d => (⟨d, 0, [], true, [], []⟩ : Scanner)) (if_neg hmark)
  rw [tokens, lines, List.flatMap_cons, ← lines, hstart, Scanner.scan_line hk hv hr (.inl rfl),
    Scanner.scan_lines hms]
  simp [Scanner.opening]

end ReplySchema.Yaml
