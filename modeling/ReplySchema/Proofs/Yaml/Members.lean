import ReplySchema.Proofs.Yaml.Lines
import ReplySchema.Yaml.Build

/-!
The data of members written one a line. The reader puts the mapping in front of its words, two nodes a
member; the builder finds one collection, fills it with the words' data, and has nothing left to fill.
-/

namespace ReplySchema.Yaml

variable {ts : List Token} {nodes : Graph}

def reading (ts : List Token) (nodes : Graph) : Reader := ⟨⟨ts, none⟩, nodes, [], defaultHandles⟩

def wordNode (t : Text) : Node := ⟨standard (plainTag t), .scalar t⟩

def memberNodes (m : Text × Text) : List Node := [wordNode m.1, wordNode m.2]

/-- The nodes of members that stand one behind another from the node `n` on. -/
def pairsFrom (n : NodeId) : List (Text × Text) → List (NodeId × NodeId)
  | [] => []
  | _ :: ms => (n, n + 1) :: pairsFrom (n + 2) ms

/-- The graph of members: a mapping, and behind that the words. -/
def memberGraph (ms : List (Text × Text)) : Graph :=
  #[⟨standard "map", .mapping (pairsFrom 1 ms)⟩] ++ (ms.flatMap memberNodes).toArray

theorem run_pair (d : Nat) (m : Text × Text) :
    (pair (d + 6) .member endsMember).run (reading (Scanner.memberTokens m ++ ts) nodes) =
      .ok ((nodes.size, nodes.size + 1), reading ts (nodes ++ (memberNodes m).toArray)) := by
  have hrun : (pair (d + 6) .member endsMember).run (reading (Scanner.memberTokens m ++ ts) nodes) =
      .ok ((nodes.size, (nodes.push (wordNode m.1)).size),
        reading ts ((nodes.push (wordNode m.1)).push (wordNode m.2))) := rfl
  have hnodes : (nodes.push (wordNode m.1)).push (wordNode m.2) = nodes ++ (memberNodes m).toArray :=
    Array.toList_inj.1 (by simp [memberNodes])
  rw [hrun, Array.size_push, hnodes]

theorem run_blockPairs (d : Nat) (ms : List (Text × Text)) :
    (blockPairs (d + ms.length + 7)).run
        (reading (ms.flatMap Scanner.memberTokens ++ [.blockEnd]) nodes) =
      .ok (pairsFrom nodes.size ms, reading [] (nodes ++ (ms.flatMap memberNodes).toArray)) := by
  induction ms generalizing nodes with
  | nil =>
    rw [List.flatMap_nil, List.flatMap_nil, List.nil_append, Array.append_empty]
    rfl
  | cons m ms ih =>
    have hstep : (blockPairs (d + (m :: ms).length + 7)).run
        (reading ((m :: ms).flatMap Scanner.memberTokens ++ [.blockEnd]) nodes) =
      (do
        let p ← pair (d + ms.length + 7) .member endsMember
        return p :: (← blockPairs (d + ms.length + 7)) : Read _).run
          (reading (Scanner.memberTokens m ++ (ms.flatMap Scanner.memberTokens ++ [.blockEnd])) nodes) := by
      rw [List.flatMap_cons, List.append_assoc, List.length_cons]
      rfl
    rw [hstep, StateT.run_bind, run_pair (d + ms.length + 1)]
    change StateT.run (do return (nodes.size, nodes.size + 1) :: (← blockPairs (d + ms.length + 7)) : Read _) _ = _
    rw [StateT.run_bind, ih]
    simp [pairsFrom, memberNodes]

theorem run_mapping (d : Nat) (ms : List (Text × Text)) :
    (node (d + ms.length + 9) .block).run
        (reading (.blockMapping :: (ms.flatMap Scanner.memberTokens ++ [.blockEnd])) #[]) =
      .ok (0, reading [] (memberGraph ms)) := by
  have hstep : (node (d + ms.length + 9) .block).run
      (reading (.blockMapping :: (ms.flatMap Scanner.memberTokens ++ [.blockEnd])) #[]) =
    (do
      let c ← Content.mapping <$> blockPairs (d + ms.length + 7)
      modify fun r => { r with nodes := r.nodes.set! 0 ⟨standard "map", c⟩ }
      return 0 : Read _).run
        (reading (ms.flatMap Scanner.memberTokens ++ [.blockEnd]) #[⟨standard "map", .sequence []⟩]) := rfl
  rw [hstep, StateT.run_bind, StateT.run_map, run_blockPairs]
  change Except.ok (0, reading [] ((#[_] ++ (ms.flatMap memberNodes).toArray).set! 0 _)) = _
  congr 3
  exact Array.toList_inj.1 (by simp [memberGraph])

theorem document_tokens (ms : List (Text × Text)) :
    document ⟨.blockMapping :: (ms.flatMap Scanner.memberTokens ++ [.blockEnd]), none⟩ =
      .ok (some (memberGraph ms, 0)) := by
  generalize hts : Token.blockMapping :: (ms.flatMap Scanner.memberTokens ++ [.blockEnd]) = ts
  have hdepth : 8 * ts.length + 8 = 31 * ms.length + 15 + ms.length + 9 := by
    have hlength : (ms.flatMap Scanner.memberTokens).length = ms.length * 4 := by
      simp [List.length_flatMap, Scanner.memberTokens]
    rw [← hts, List.length_cons, List.length_append, hlength, List.length_singleton]
    omega
  have hstep : Read.document.run (reading ts #[]) =
      (do
        let n ← node (8 * ts.length + 8) .block
        Read.finish
        return some n : Read _).run (reading ts #[]) := by
    rw [← hts]
    rfl
  have hrun : Read.document.run (reading ts #[]) = .ok (some 0, reading [] (memberGraph ms)) := by
    rw [hstep, hdepth, ← hts, StateT.run_bind, run_mapping]
    rfl
  change (Read.document.run (reading ts #[]) >>= _) = _
  rw [hrun]
  rfl

/-- A word that stands for a datum: for itself, or for a truth value. -/
inductive Means : Text → Datum → Prop
  | string {t : Text} : plainTag t = "str" → Means t (.string t)
  | truth {t : Text} {on : Bool} : plainTag t = "bool" → truthWord? t = some on → Means t (.bool on)

/-- From the node `n` on the graph has the words of the members. -/
def WordsFrom (g : Graph) (n : NodeId) : List (Text × Text) → Prop
  | [] => True
  | m :: ms => g[n]? = some (wordNode m.1) ∧ g[n + 1]? = some (wordNode m.2) ∧ WordsFrom g (n + 2) ms

theorem wordsFrom_append (g : Graph) (ms : List (Text × Text)) :
    WordsFrom (g ++ (ms.flatMap memberNodes).toArray) g.size ms := by
  induction ms generalizing g with
  | nil => trivial
  | cons m ms ih =>
    have hmore := ih (g ++ (memberNodes m).toArray)
    have hgraph : g ++ ((m :: ms).flatMap memberNodes).toArray =
        g ++ (memberNodes m).toArray ++ (ms.flatMap memberNodes).toArray :=
      Array.toList_inj.1 (by simp)
    rw [hgraph]
    refine ⟨?_, ?_, ?_⟩
    · simp [memberNodes]
    · simp [memberNodes]
    · simpa [memberNodes] using hmore

section Words

variable {g : Graph} {n : Nat} {t : Text} {d : Datum} {b : Builder} {m : Text × Text}
  {ms : List (Text × Text)} {f : Text → Datum} {done : List (Key × Part)}

theorem Means.atomOf (h : Means t d) (hg : g[n]? = some (wordNode t)) :
    Build.atomOf g n = .ok (.atom d (some n)) := by
  have htag : g.tag n = standard (plainTag t) := by
    rw [Graph.tag, hg]
    rfl
  have htext : Build.scalarText g (g.size + 1) n = .ok t := by
    rw [Build.scalarText, Graph.content?, hg]
    rfl
  rw [Build.atomOf, htag, htext]
  cases h with
  | string h =>
    rw [h]
    rfl
  | @truth on h hw =>
    rw [h]
    have hbool : scalarDatum (standard "bool") t = .ok (.bool on) := by
      change boolOf t = _
      rw [boolOf, hw]
      rfl
    dsimp only [bind, Except.bind]
    rw [hbool]
    rfl

theorem Means.part (h : Means t d) (hg : b.graph[n]? = some (wordNode t))
    (hfree : (b.parts[n]?).join = none) :
    (Build.part n).run b =
      .ok (.atom d (some n), { b with parts := b.parts.set! n (some (.atom d (some n))) }) := by
  have htag : b.graph.tag n = standard (plainTag t) := by
    rw [Graph.tag, hg]
    rfl
  have hatom : ¬ ∃ name, name ∈ Build.collectionTypes ∧ b.graph.tag n = standard name := by
    rw [htag]
    cases h with
    | string h => rw [h]; decide
    | truth h _ => rw [h]; decide
  unfold Build.part
  simp [hfree, hatom, h.atomOf hg]

theorem withPairs_self {pairs : List (NodeId × NodeId)} (h : g.content? n = some (.mapping pairs)) :
    g.withPairs n pairs = g := by
  obtain ⟨⟨tag, content⟩, hn, rfl⟩ := Option.map_eq_some_iff.1 h
  refine Array.ext_getElem? fun i => ?_
  rw [Graph.withPairs, Array.getElem?_modify]
  split
  · rename_i hi
    rw [← hi, hn]
    rfl
  · rfl

theorem withPlainKeys_self (h : ∀ p ∈ g.pairs n, g.tag p.1 = standard "str") :
    g.withPlainKeys n = g := by
  rw [Graph.withPlainKeys]
  generalize g.pairs n = pairs at h
  induction pairs with
  | nil => rfl
  | cons p pairs ih =>
    obtain ⟨hp, hpairs⟩ := List.forall_mem_cons.1 h
    have hvalue : standard "str" ≠ standard "value" := by decide
    rw [List.foldl_cons, hp, if_neg hvalue, ih hpairs]

/-- Where all keys are strings there is nothing to merge. -/
theorem merged_of_strings {pairs : List (NodeId × NodeId)} (h : g.content? n = some (.mapping pairs))
    (hkeys : ∀ p ∈ pairs, g.tag p.1 = standard "str") : g.merged n = .ok g := by
  have hpairs : g.pairs n = pairs := by
    rw [Graph.pairs, h]
  rw [← hpairs] at hkeys
  have hnone : (g.pairs n).find? g.isMerge = none := by
    refine List.find?_eq_none.2 fun p hp => ?_
    rw [Graph.isMerge, hkeys p hp]
    decide
  have hbrought : ∀ k, (Merging.brought k n).run g = .ok ([], g) := by
    intro k
    cases k with
    | zero => rfl
    | succ k =>
      simp [Merging.brought, Merging.take?, hnone]
      rfl
  have hsettle : (Merging.settle n []).run g = .ok (pairs, g) := by
    simp [Merging.settle, withPlainKeys_self hkeys, hpairs, withPairs_self h]
    rfl
  rw [Graph.merged]
  simp only [StateT.run_bind, hbrought]
  dsimp only [bind, Except.bind]
  rw [hsettle]
  rfl

/-- The members that are built of words, the first of which is the node `n`. -/
def memberParts (f : Text → Datum) (n : NodeId) : List (Text × Text) → List (Key × Part)
  | [] => []
  | m :: ms => (⟨.string m.1, some n⟩, .atom (f m.2) (some (n + 1))) :: memberParts f (n + 2) ms

theorem bindKey_of_new {key : Key} {p : Part} {done : List (Key × Part)}
    (h : ∀ e ∈ done, e.1.same key = false) : Build.bindKey key p done = done ++ [(key, p)] := by
  induction done with
  | nil => rfl
  | cons e done ih =>
    obtain ⟨he, hdone⟩ := List.forall_mem_cons.1 h
    rw [Build.bindKey, he, if_neg Bool.false_ne_true, ih hdone]
    rfl

theorem run_addMember (hk : plainTag m.1 = "str") (hv : Means m.2 d)
    (hgk : b.graph[n]? = some (wordNode m.1)) (hgv : b.graph[n + 1]? = some (wordNode m.2))
    (hfree : ∀ j ≥ n, (b.parts[j]?).join = none)
    (hnew : ∀ e ∈ done, e.1.same ⟨.string m.1, some n⟩ = false) :
    ∃ parts, (Build.addMember done (n, n + 1)).run b =
        .ok (done ++ [(⟨.string m.1, some n⟩, .atom d (some (n + 1)))], { b with parts := parts }) ∧
      ∀ j ≥ n + 2, (parts[j]?).join = none := by
  have hset : ∀ (parts : Array (Option Part)) (i j : Nat) (p : Option Part), i < j →
      (parts.set! i p)[j]? = parts[j]? := by
    intro parts i j p hij
    rw [Array.set!_eq_setIfInBounds, Array.getElem?_setIfInBounds_ne hij.ne]
  have hkey := (Means.string hk).part hgk (hfree n le_rfl)
  have hvalue := hv.part
    (b := { b with parts := b.parts.set! n (some (.atom (.string m.1) (some n))) }) hgv
    ((congrArg Option.join (hset _ _ _ _ (Nat.lt_succ_self n))).trans (hfree _ (Nat.le_succ n)))
  refine ⟨(b.parts.set! n (some (.atom (.string m.1) (some n)))).set! (n + 1)
    (some (.atom d (some (n + 1)))), ?_, fun j hj => ?_⟩
  · rw [Build.addMember, StateT.run_bind, hkey, ← bindKey_of_new hnew]
    change StateT.run (do
      let p ← Build.part (n + 1)
      return Build.bindKey ⟨.string m.1, some n⟩ p done : Build _) _ = _
    rw [StateT.run_bind, hvalue]
    rfl
  · rw [hset _ _ _ _ (by omega), hset _ _ _ _ (by omega)]
    exact hfree j (by omega)

theorem run_members (hms : ∀ m ∈ ms, plainTag m.1 = "str" ∧ Means m.2 (f m.2))
    (hg : WordsFrom b.graph n ms) (hfree : ∀ j ≥ n, (b.parts[j]?).join = none)
    (hdone : ∀ e ∈ done, ∃ t, ∃ j < n, e.1 = ⟨.string t, some j⟩ ∧ t ∉ ms.map Prod.fst)
    (hkeys : (ms.map Prod.fst).Nodup) :
    ∃ parts, ((pairsFrom n ms).foldlM Build.addMember done).run b =
      .ok (done ++ memberParts f n ms, { b with parts := parts }) := by
  induction ms generalizing n b done with
  | nil => exact ⟨b.parts, by rw [pairsFrom, memberParts, List.append_nil]; rfl⟩
  | cons m ms ih =>
    obtain ⟨⟨hk, hv⟩, hms⟩ := List.forall_mem_cons.1 hms
    obtain ⟨hgk, hgv, hg⟩ := hg
    rw [List.map_cons, List.nodup_cons] at hkeys
    have hnew : ∀ e ∈ done, e.1.same ⟨.string m.1, some n⟩ = false := by
      intro e he
      obtain ⟨t, j, hj, hek, ht⟩ := hdone e he
      have htm : t ≠ m.1 := fun h => ht (h ▸ List.mem_cons_self ..)
      simp [hek, Key.same, Datum.sameKey, hj.ne, htm]
    obtain ⟨parts, hadd, hrest⟩ := run_addMember hk hv hgk hgv hfree hnew
    have hdone' : ∀ e ∈ done ++ [((⟨.string m.1, some n⟩ : Key), Part.atom (f m.2) (some (n + 1)))],
        ∃ t, ∃ j < n + 2, e.1 = ⟨.string t, some j⟩ ∧ t ∉ ms.map Prod.fst := by
      intro e he
      rcases List.mem_append.1 he with he | he
      · obtain ⟨t, j, hj, hek, ht⟩ := hdone e he
        exact ⟨t, j, by omega, hek, fun h => ht (List.mem_cons_of_mem _ h)⟩
      · rw [List.mem_singleton.1 he]
        exact ⟨m.1, n, by omega, rfl, hkeys.1⟩
    obtain ⟨parts', hrun⟩ := ih (b := { b with parts := parts }) hms hg hrest hdone' hkeys.2
    refine ⟨parts', ?_⟩
    rw [pairsFrom, List.foldlM_cons, memberParts, List.append_cons, StateT.run_bind, hadd]
    exact hrun

theorem WordsFrom.tag (h : WordsFrom g n ms) (hms : ∀ m ∈ ms, plainTag m.1 = "str")
    {p : NodeId × NodeId} (hp : p ∈ pairsFrom n ms) : g.tag p.1 = standard "str" := by
  induction ms generalizing n with
  | nil => cases hp
  | cons m ms ih =>
    obtain ⟨hm, hms⟩ := List.forall_mem_cons.1 hms
    rcases List.mem_cons.1 hp with rfl | hp
    · rw [Graph.tag, h.1, ← hm]
      rfl
    · exact ih h.2.2 hms hp

def wordMembers (f : Text → Datum) (n : NodeId) (ms : List (Text × Text)) : List (Datum × Part) :=
  (memberParts f n ms).map fun m => (m.1.datum, m.2)

theorem run_filling (hgraph : b.graph.content? 0 = some (.mapping (pairsFrom 1 ms)))
    (htag : b.graph.tag 0 = standard "map")
    (hms : ∀ m ∈ ms, plainTag m.1 = "str" ∧ Means m.2 (f m.2)) (hg : WordsFrom b.graph 1 ms)
    (hfree : ∀ j ≥ 1, (b.parts[j]?).join = none) (hkeys : (ms.map Prod.fst).Nodup) :
    ∃ parts, (Build.filling 0).run b =
      .ok (.mapping (wordMembers f 1 ms), { b with parts := parts }) := by
  have hpairs : b.graph.pairs 0 = pairsFrom 1 ms := by
    rw [Graph.pairs, hgraph]
  have hstrings : ∀ p ∈ pairsFrom 1 ms, b.graph.tag p.1 = standard "str" :=
    fun p hp => hg.tag (fun m hm => (hms m hm).1) hp
  have hmapping : b.graph.isMapping 0 := by
    rw [Graph.isMapping, hgraph]
  obtain ⟨parts, hrun⟩ := run_members hms hg hfree (fun _ he => absurd he List.not_mem_nil) hkeys
  refine ⟨parts, ?_⟩
  have hmembers : (Build.members 0).run b = .ok (memberParts f 1 ms, { b with parts := parts }) := by
    unfold Build.members
    simp [hmapping, merged_of_strings hgraph hstrings]
    dsimp only [bind, Except.bind]
    rw [hpairs]
    exact hrun
  have hseq : standard "map" ≠ standard "seq" := by decide
  unfold Build.filling
  simp [htag, hmembers, if_neg hseq]
  rfl

theorem run_part_mapping (htag : b.graph.tag n = standard "map") (hfree : (b.parts[n]?).join = none) :
    (Build.part n).run b = .ok (.collection n,
      { b with parts := b.parts.set! n (some (.collection n)), waiting := n :: b.waiting }) := by
  have hcollection : ∃ name, name ∈ Build.collectionTypes ∧ b.graph.tag n = standard name :=
    ⟨"map", by decide, htag⟩
  unfold Build.part
  simp [hfree, hcollection]
  rfl

/-- A collection that holds no further one is all there is to be filled. -/
theorem run_fillAll {filling : Filling} {b' : Builder} (bound : Nat)
    (hfilling : (Build.filling n).run b = .ok (filling, b')) (hwaiting : b'.waiting = []) :
    (Build.fillAll (bound + 1) [n]).run b =
      .ok ((), { b' with fillings := b'.fillings.set! n (some filling) }) := by
  have hfill : (Build.fill n).run b = .ok ((), { b' with fillings := b'.fillings.set! n (some filling) }) := by
    rw [Build.fill, StateT.run_bind, hfilling]
    rfl
  have hrest : ∀ b, (Build.fillAll bound []).run b = .ok ((), b) := by
    intro b
    cases bound <;> rfl
  rw [Build.fillAll, StateT.run_bind, List.forM, StateT.run_bind, hfill]
  change (Build.fillAll bound b'.waiting.reverse).run { b' with fillings := _, waiting := [] } = _
  rw [hwaiting, List.reverse_nil, hrest]
  exact nofun

/-- The members of a mapping of words are their data, in their order. -/
theorem ofGraph_members (g : Graph) (hgraph : g.content? 0 = some (.mapping (pairsFrom 1 ms)))
    (htag : g.tag 0 = standard "map")
    (hms : ∀ m ∈ ms, plainTag m.1 = "str" ∧ Means m.2 (f m.2)) (hg : WordsFrom g 1 ms)
    (hkeys : (ms.map Prod.fst).Nodup) :
    ∃ fillings, Document.ofGraph g 0 = .ok ⟨.collection 0, fillings⟩ ∧
      (fillings[0]?).join = some (.mapping (wordMembers f 1 ms)) := by
  have hsize : 0 < g.size := by
    obtain ⟨node, hnode, -⟩ := Option.map_eq_some_iff.1 hgraph
    exact (Array.getElem?_eq_some_iff.1 hnode).1
  have hempty : ∀ j : Nat, ((Array.replicate g.size (none : Option Part))[j]?).join = none := by
    intro j
    rw [Array.getElem?_replicate]
    split <;> rfl
  have hroot := run_part_mapping
    (b := ⟨g, Array.replicate g.size none, Array.replicate g.size none, []⟩) htag (hempty 0)
  obtain ⟨parts, hfilling⟩ := run_filling
    (b := ⟨g, (Array.replicate g.size none).set! 0 (some (.collection 0)),
      Array.replicate g.size none, []⟩) hgraph htag hms hg
    (fun j hj => by
      rw [Array.set!_eq_setIfInBounds, Array.getElem?_setIfInBounds_ne (by omega)]
      exact hempty j) hkeys
  have hfill := run_fillAll g.size hfilling rfl
  refine ⟨(Array.replicate g.size none).set! 0 (some (.mapping (wordMembers f 1 ms))), ?_, ?_⟩
  · rw [Document.ofGraph]
    dsimp only
    rw [StateT.run_bind, hroot]
    change (StateT.run (do
      Build.fillAll (g.size + 1) [0]
      return Part.collection 0 : Build _) _ >>= _) = _
    rw [StateT.run_bind, hfill]
    rfl
  · simp [hsize]

theorem isAllowed_of_isWordChar {c : CodePoint} (h : isWordChar c) : isAllowed c := by
  have := isWordChar_iff.1 h
  simp only [isAllowed, Bool.or_eq_true, Bool.and_eq_true, decide_eq_true_iff]
  omega

theorem isAllowed_lines (h : ∀ m ∈ ms, IsWord m.1 ∧ IsWord m.2) : (lines ms).all isAllowed := by
  refine List.all_eq_true.2 fun c hc => ?_
  rcases mem_lines h hc with hc | hc
  · exact isAllowed_of_isWordChar hc
  · exact List.all_eq_true.1 (by decide : ([':', ' ', '\n'] : Text).all isAllowed) c hc

theorem datum_wordMembers (d : Document) (f : Text → Datum) (n : Nat) (ms : List (Text × Text)) :
    (wordMembers f n ms).map (fun m => (m.1, d.datum m.2)) = ms.map fun m => (.string m.1, f m.2) := by
  induction ms generalizing n with
  | nil => rfl
  | cons m ms ih =>
    rw [List.map_cons, ← ih (n + 2)]
    rfl

theorem load_nil : load [] = .ok none := by
  rw [load, tokens_nil]
  rfl

/-- Members written one a line, with keys that look like nothing but strings, are what is loaded. -/
theorem load_lines (hne : ms ≠ []) (hwords : ∀ m ∈ ms, IsWord m.1 ∧ IsWord m.2)
    (hms : ∀ m ∈ ms, plainTag m.1 = "str" ∧ Means m.2 (f m.2)) (hkeys : (ms.map Prod.fst).Nodup) :
    ∃ d members, load (lines ms) = .ok (some d) ∧ d.members? = some members ∧
      members.map (fun m => (m.1, d.datum m.2)) = ms.map fun m => (.string m.1, f m.2) := by
  obtain ⟨fillings, hdocument, hfilling⟩ := ofGraph_members (f := f) (memberGraph ms)
    (by simp [memberGraph, Graph.content?]) (by simp [memberGraph, Graph.tag]) hms
    (wordsFrom_append _ ms) hkeys
  refine ⟨⟨.collection 0, fillings⟩, wordMembers f 1 ms, ?_, ?_, datum_wordMembers _ f 1 ms⟩
  · rw [load, isAllowed_lines hwords, tokens_lines hne hwords, document_tokens]
    change some <$> Document.ofGraph _ 0 = _
    rw [hdocument]
    rfl
  · rw [Document.members?]
    dsimp only
    rw [hfilling]

end Words

end ReplySchema.Yaml
