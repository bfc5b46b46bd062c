import ReplySchema.Proofs.Cli.Config
import ReplySchema.Proofs.Json.Indented
import ReplySchema.Proofs.Reply.Verbatim
import ReplySchema.Proofs.Schema.FixedPoints

/-!
The output of a check as a document. A check that is done has printed the value that passed, and what
it printed is a document for the same value: it passes under the same schema without repair, and a
check of it prints it again.
-/

namespace ReplySchema.Cli

theorem Ending.eq_done_of_exitCode {e : Ending} (h : e.exitCode = 0) : e = .done := by
  cases e with
  | done => rfl
  | refused | misused | crashed => cases h

theorem Ending.crashed_ne_done (c : Crash) : Ending.crashed c ≠ .done := Ending.noConfusion

section Endings

variable {α β : Type} {x : Action α} {f : α → Action β} {p q : Printed}
  {P : α → Printed → Prop} {Q : β → Printed → Prop}

/-- The action fails without saying that it is done, or it succeeds with what `P` says. -/
def Ends (x : Action α) (p : Printed) (P : α → Printed → Prop) : Prop :=
  (∃ e q, x.run p = (.error e, q) ∧ e ≠ .done) ∨ ∃ a q, x.run p = (.ok a, q) ∧ P a q

theorem run_bind (x : Action α) (f : α → Action β) (p : Printed) :
    (x >>= f).run p =
      match x.run p with
      | (.ok a, q) => (f a).run q
      | (.error e, q) => (.error e, q) := by
  rw [ExceptT.run_bind]
  change StateT.bind x.run _ p = _
  unfold StateT.bind
  obtain ⟨r, q⟩ := x.run p
  cases r <;> rfl

theorem Ends.pure {a : α} (h : P a p) : Ends (pure a) p P := .inr ⟨a, p, rfl, h⟩

theorem Ends.throw {e : Ending} (h : e ≠ .done) : Ends (throw e : Action α) p P :=
  .inl ⟨e, p, rfl, h⟩

theorem Ends.crash (className message : Text) : Ends (crash className message : Action α) p P :=
  .throw (Ending.crashed_ne_done _)

theorem Ends.modify {g : Printed → Printed} {R : Unit → Printed → Prop} (h : R () (g p)) :
    Ends (modify g) p R := .inr ⟨(), g p, rfl, h⟩

theorem Ends.bind (hx : Ends x p P) (hf : ∀ a q, P a q → Ends (f a) q Q) :
    Ends (x >>= f) p Q := by
  rcases hx with ⟨e, q, hx, he⟩ | ⟨a, q, hx, ha⟩
  · exact .inl ⟨e, q, by rw [run_bind, hx], he⟩
  · have hrun : (x >>= f).run p = (f a).run q := by rw [run_bind, hx]
    unfold Ends
    rw [hrun]
    exact hf a q ha

theorem Ends.mono {P' : α → Printed → Prop} (hx : Ends x p P) (h : ∀ a q, P a q → P' a q) :
    Ends x p P' :=
  hx.imp_right fun ⟨a, q, hrun, ha⟩ => ⟨a, q, hrun, h a q ha⟩

end Endings

section Parts

variable {host : Host} {p : Printed}

theorem ends_complainIn (markup : Text) :
    Ends (complainIn markup) p fun _ q => q.output = p.output := by
  unfold complainIn
  split
  · exact .modify rfl
  · exact .crash _ _

theorem ends_echo (t : Text) : Ends (echo t) p fun _ q =>
    unencodable? (t ++ "\n") = none ∧ q.output = p.output ++ t ++ "\n" := by
  unfold echo
  split
  · exact .crash _ _
  · rename_i hnone
    exact .modify ⟨hnone, rfl⟩

/-- Warnings are no output. -/
theorem ends_warnings (ws : List Reply.Warning) :
    Ends (forIn ws PUnit.unit fun w _ => do
      complainIn ("[yellow]warning[/] " ++ w.text)
      pure (ForInStep.yield PUnit.unit)) p fun _ q => q.output = p.output := by
  induction ws generalizing p with
  | nil => exact .pure rfl
  | cons w ws ih =>
    rw [List.forIn_cons, bind_assoc]
    refine (ends_complainIn _).bind fun _ q hq => ?_
    rw [pure_bind]
    have hrest := ih (p := q)
    rw [hq] at hrest
    exact hrest

/-- What is printed when the answer to a document is a value. -/
theorem ends_answer (limit : Nat) (level : Text) (parsed : Reply.Parsed) :
    Ends (answer limit level parsed) p fun _ q => ∃ v ws t, parsed.result = .ok (v, ws) ∧
      Json.encodeIndented limit 0 v = .ok t ∧
      unencodable? (t ++ "\n") = none ∧ q.output = p.output ++ t ++ "\n" := by
  unfold answer
  have hcalls : Ends (modify fun p => { p with calls := p.calls ++ parsed.calls }) p
      fun _ q => q.output = p.output := .modify rfl
  have hlog (q : Printed) : Ends (log level parsed.records) q
      fun _ q' => q'.output = q.output := .modify rfl
  refine hcalls.bind fun _ q hq => (hlog q).bind fun _ q' hq' => ?_
  cases parsed.result with
  | error e =>
    cases e with
    | fault f => exact .crash _ _
    | failure f => exact (ends_complainIn _).bind fun _ _ _ => .throw nofun
  | ok r =>
    obtain ⟨v, ws⟩ := r
    refine (ends_warnings ws).bind fun _ q'' hq'' => ?_
    cases ht : Json.encodeIndented limit 0 v with
    | error e => exact .crash _ _
    | ok t =>
      refine (ends_echo t).mono fun _ r ⟨hnone, houtput⟩ => ?_
      rw [hq'', hq', hq] at houtput
      exact ⟨v, ws, t, rfl, ht, hnone, houtput⟩

theorem leveled_cases (s : Settings) :
    leveled s = pure s ∨ ∃ name message, leveled s = crash name message := by
  unfold leveled
  split
  · exact .inl rfl
  · exact .inr ⟨_, _, rfl⟩

/-- Settings are there, or the command ends before it prints anything. -/
theorem settings_cases (host : Host) (config : Option Text) :
    (∃ s, settings host config = pure s) ∨ ∃ e, settings host config = throw e ∧ e ≠ .done := by
  have hleveled : ∀ s, (∃ s', leveled s = pure s') ∨ ∃ e, leveled s = throw e ∧ e ≠ .done := by
    intro s
    rcases leveled_cases s with hs | ⟨name, message, hs⟩
    · exact .inl ⟨s, hs⟩
    · exact .inr ⟨_, hs, Ending.crashed_ne_done _⟩
  cases config with
  | none => exact hleveled _
  | some path =>
    cases hfind : host.find path with
    | file content =>
      cases hload : Settings.load host.nesting host.environment path content with
      | ok s =>
        rw [settings_some hfind hload]
        exact hleveled s
      | error e =>
        simp only [settings, hfind, hload]
        cases e with
        | malformedYaml => exact .inr ⟨_, rfl, Ending.crashed_ne_done _⟩
        | fault f => exact .inr ⟨_, rfl, Ending.crashed_ne_done _⟩
    | directory | nothing =>
      simp only [settings, hfind]
      exact .inr ⟨.misused, rfl, Ending.noConfusion⟩

theorem ends_schema (host : Host) (target : Text) : Ends (schema host target) p fun s q =>
    q = p ∧ host.catalog.schema target = .ok s := by
  unfold schema
  cases host.catalog.schema target with
  | ok s => exact .pure ⟨rfl, rfl⟩
  | error e => cases e <;> first | exact .crash _ _ | exact .throw nofun

theorem ends_read (host : Host) (path : Text) : Ends (host.read path) p fun t q =>
    q = p ∧ host.read path = pure t := by
  rcases host.read_cases path with ⟨t, ht⟩ | ⟨name, message, hcrash⟩
  · rw [ht]
    exact .pure ⟨rfl, rfl⟩
  · rw [hcrash]
    exact .crash _ _

end Parts

section Runs

variable {host host' : Host} {args : List Text} {target document path t : Text}
  {repair : Option Bool} {config : Option Text}

/-- The document that the path names is the text: as a file, or as what is read for a dash. -/
def Host.Offers (host : Host) (path t : Text) : Prop :=
  if Settings.pathText path = "-" then host.input = t else host.find path = .file t

theorem Host.Offers.read (h : host.Offers path t) (ht : ('\r' : CodePoint) ∉ t) :
    host.read path = pure t := by
  unfold Host.Offers at h
  rw [Host.read]
  split at h
  · rename_i hdash
    rw [if_pos hdash, h, Text.normalizeLines_eq_self ht]
  · rename_i hdash
    rw [if_neg hdash, h]
    dsimp only
    rw [Text.normalizeLines_eq_self ht]

/-- What a check has found and printed when it is done. -/
structure Passed (host : Host) (document : Text) (repair : Bool) (s : Schema) (v : Value)
    (o : Text) : Prop where
  parsed : ∃ t ws, host.read document = pure t ∧
    (Reply.parse ⟨host.environment.allowsNan, host.nesting⟩ repair s (.text t)).result = .ok (v, ws)
  printed : ∃ u, Json.encodeIndented host.nesting 0 v = .ok u ∧ o = u ++ "\n"
  encodable : unencodable? o = none

theorem ends_runCheck (host : Host) (chosen : Settings) (target document : Text)
    (repair : Option Bool) {p : Printed} (hp : p.output = []) :
    Ends (runCheck host chosen target document repair) p fun _ q =>
      ∃ s v, host.catalog.schema target = .ok s ∧
        Passed host document (repair.getD (chosen.repairs host.environment)) s v q.output := by
  refine (ends_schema host target).bind fun s q ⟨hq, hs⟩ => ?_
  subst hq
  refine (ends_read host document).bind fun t q ⟨hq, ht⟩ => ?_
  subst hq
  refine (ends_answer _ _ _).mono fun _ q ⟨v, ws, u, hparsed, hu, hnone, houtput⟩ => ?_
  rw [hp, List.nil_append] at houtput
  exact ⟨s, v, hs, ⟨t, ws, ht, hparsed⟩, ⟨u, hu, houtput⟩, houtput ▸ hnone⟩

/-- A check that is done had its files and its settings, and the document passed. -/
theorem passed_of_done (hargs : parse args = some ⟨.check document repair, target, config⟩)
    (hdone : (run host args).ending = .done) :
    config.toList.all host.hasFile ∧ ∃ chosen s v, settings host config = pure chosen ∧
      host.catalog.schema target = .ok s ∧
      Passed host document (repair.getD (chosen.repairs host.environment)) s v
        (run host args).output := by
  have hends : Ends (runCommand host ⟨.check document repair, target, config⟩) ⟨[], [], []⟩
      fun _ q => config.toList.all host.hasFile ∧ ∃ chosen s v, settings host config = pure chosen ∧
        host.catalog.schema target = .ok s ∧
        Passed host document (repair.getD (chosen.repairs host.environment)) s v q.output := by
    by_cases hfiles : config.toList.all host.hasFile
    · rw [runCommand_check hfiles]
      rcases settings_cases host config with ⟨chosen, hset⟩ | ⟨e, hset, he⟩
      · rw [hset, pure_bind]
        refine (ends_runCheck host chosen target document repair rfl).mono ?_
        rintro _ q ⟨s, v, hs, hpassed⟩
        exact ⟨hfiles, chosen, s, v, rfl, hs, hpassed⟩
      · rw [hset]
        exact Ends.bind (.throw he) (P := fun _ _ => False) fun _ _ h => h.elim
    · simp only [runCommand, Invocation.requiredFiles, List.append_nil, hfiles]
      exact Ends.bind (.throw Ending.noConfusion) (P := fun _ _ => False) fun _ _ h => h.elim
  rw [run, hargs] at hdone ⊢
  dsimp only at hdone ⊢
  rcases hends with ⟨e, q, hrun, he⟩ | ⟨_, q, hrun, hpassed⟩
  · rw [hrun] at hdone
    exact absurd hdone he
  · rw [hrun]
    exact hpassed

theorem settings_congr (hn : host'.nesting = host.nesting)
    (he : host'.environment = host.environment)
    (hc : ∀ path ∈ config, host'.find path = host.find path) :
    settings host' config = settings host config := by
  cases config with
  | none => simp only [settings, he]
  | some path => simp only [settings, hn, he, hc path rfl]

theorem hasFile_congr (hc : ∀ path ∈ config, host'.find path = host.find path)
    (h : config.toList.all host.hasFile) : config.toList.all host'.hasFile := by
  cases config with
  | none => rfl
  | some path => simpa [Host.hasFile, hc path rfl] using h

/-- What a check has printed decodes to the value that passed, which passes again. -/
theorem Passed.again {repair : Bool} {s : Schema} {v : Value} {o : Text} (hs : s.DistinctFields)
    (h : Passed host document repair s v o) :
    Json.decode ⟨host.environment.allowsNan, host.nesting⟩ (.text o) = .ok v ∧
      ('\r' : CodePoint) ∉ o ∧
      ∀ repair', (Reply.parse ⟨host.environment.allowsNan, host.nesting⟩ repair' s
        (.text o)).result = .ok (v, []) := by
  obtain ⟨⟨t, ws, -, hparsed⟩, ⟨u, hu, rfl⟩, -⟩ := h
  obtain ⟨source, hsource⟩ : ∃ source,
      (s.parse ⟨host.environment.allowsNan, host.nesting⟩ source).result = .ok v := by
    rcases Reply.parse_ok_cases hparsed with ⟨-, hr⟩ | ⟨b, -, -, hr⟩
    · exact ⟨_, hr⟩
    · exact ⟨_, hr⟩
  obtain ⟨w, hw, hcheck⟩ := Schema.parse_ok hsource
  have hagain := Schema.check_of_ok hs hcheck
  have hproject := hcheck
  rw [Schema.check_result, outcome_eq_ok_iff] at hproject
  obtain ⟨-, rfl⟩ := hproject
  have hdecoded := Schema.decoded_project hs (Json.decoded_of_decode hw)
  obtain ⟨hdecode, hreturn⟩ := Json.decode_indented hdecoded hu
  refine ⟨hdecode, hreturn, fun repair' => Reply.parse_of_ok ?_⟩
  rw [Reply.parse_document hdecode, hagain, hcheck]

/--
When a check exits well, what it printed decodes to the value that passed, and this passes under the
same schema without repair or warning. A check of the printed text, read from a file or from the
input, exits well, prints the same text again and complains about nothing: there is nothing beside it
but the record of a parse without repair, if the log keeps that.
-/
theorem check_of_output (hargs : parse args = some ⟨.check document repair, target, config⟩)
    (hfields : ∀ s, host.catalog.schema target = .ok s → s.DistinctFields)
    (hexit : (run host args).ending.exitCode = 0) :
    ∃ chosen s v, settings host config = pure chosen ∧ host.catalog.schema target = .ok s ∧
      Passed host document (repair.getD (chosen.repairs host.environment)) s v
        (run host args).output ∧
      Json.decode ⟨host.environment.allowsNan, host.nesting⟩ (.text (run host args).output) =
        .ok v ∧
      (∀ repair', (Reply.parse ⟨host.environment.allowsNan, host.nesting⟩ repair' s
        (.text (run host args).output)).result = .ok (v, [])) ∧
      ∀ (host' : Host) (args' : List Text) (document' : Text) (repair' : Option Bool),
        host'.nesting = host.nesting → host'.environment = host.environment →
        host'.catalog = host.catalog → (∀ path ∈ config, host'.find path = host.find path) →
        host'.Offers document' (run host args).output →
        parse args' = some ⟨.check document' repair', target, config⟩ →
          (run host' args').ending.exitCode = 0 ∧
            (run host' args').output = (run host args).output ∧
            (run host' args').errors =
              ((Reply.stageRecord s false none).filter (keeps chosen.logLevel)).map .logged := by
  have hdone := Ending.eq_done_of_exitCode hexit
  obtain ⟨hfiles, chosen, s, v, hset, hs, hpassed⟩ := passed_of_done hargs hdone
  obtain ⟨hdecode, hreturn, hparse⟩ := hpassed.again (hfields s hs)
  refine ⟨chosen, s, v, hset, hs, hpassed, hdecode, hparse, ?_⟩
  intro host' args' document' repair' hnesting henvironment hcatalog hconfig hoffers hargs'
  obtain ⟨u, hu, houtput⟩ := hpassed.printed
  have hset' : settings host' config = pure chosen :=
    (settings_congr hnesting henvironment hconfig).trans hset
  have hs' : schema host' target = pure s := by
    rw [schema, hcatalog, hs]
  have hparse' := hparse (repair'.getD (chosen.repairs host'.environment))
  rw [← henvironment, ← hnesting] at hparse'
  rw [← hnesting] at hu
  have hprints := run_check_prints hargs' (hasFile_congr hconfig hfiles) hset' hs'
    (hoffers.read hreturn) hparse' hu (houtput ▸ hpassed.encodable)
  exact ⟨congrArg Ending.exitCode hprints.1, hprints.2.1.trans houtput.symm, hprints.2.2⟩

end Runs

def stringDesk (document : Text) : Host :=
  ⟨1000, ⟨none, none, none⟩, [("d.json", document)], [],
    [.ofPaths "demo" [("S", .schema Reply.strings)]]⟩

def hollowOutput : Text := "[\n  \"xz\"\n]\n"

/-- A tag at the front opens or closes a style, and what is behind it is rendered. -/
theorem renderFrom_tag {place n : Nat} {opened opened' : List Text} {t tag rest : Text}
    (hplain : t.takeWhile Markup.isBackslash = []) (htag : Markup.tag? t = some (tag, rest))
    (hlt : rest.length < t.length) (hn : place + (t.length - rest.length) = n)
    (hopen : Markup.change place tag opened = .ok opened') :
    Markup.renderFrom place [] opened t = Markup.renderFrom n [] opened' rest := by
  cases t with
  | nil => cases htag
  | cons c r =>
    have hshown : Markup.plainText [] = [] := by
      rw [Markup.plainText, Markup.withoutBracketSlashes, Markup.withEmoji]
    rw [Markup.renderFrom]
    simp only [hplain, List.length_nil, List.drop_zero, htag, hlt, hn, hopen, hshown,
      List.reverse_nil, Nat.add_zero, dif_pos]
    rw [if_neg (by decide)]
    exact bind_pure (Markup.renderFrom n [] opened' rest)

set_option maxRecDepth 20000 in
theorem render_repaired : Markup.render ("[yellow]warning[/] " ++ Reply.Warning.repaired.text) =
    .ok "warning json_repaired_simple" := by
  have htag : Markup.tag? ("[yellow]warning[/] " ++ Reply.Warning.repaired.text) =
      some (("yellow" : Text), "warning[/] " ++ Reply.Warning.repaired.text) := rfl
  have hopen : Markup.change 0 "yellow" [] = .ok ["yellow"] := rfl
  have hrest : Markup.renderFrom 8 [] ["yellow"] ("warning[/] " ++ Reply.Warning.repaired.text) =
      .ok "warning json_repaired_simple" := by cbv
  rw [Markup.render, renderFrom_tag (n := 8) rfl htag (by decide) rfl hopen, hrest]
  rfl

theorem offers_stringDesk (document : Text) : (stringDesk document).Offers "d.json" document := by
  rw [Host.Offers, if_neg (by decide)]
  rfl

/-- The reply is repaired before it passes. -/
theorem run_hollowReply :
    (run (stringDesk Reply.hollowReply) ["check", "demo:S", "d.json"]).ending.exitCode = 0 ∧
      (run (stringDesk Reply.hollowReply) ["check", "demo:S", "d.json"]).output = hollowOutput := by
  have hargs : parse ["check", "demo:S", "d.json"] =
      some ⟨.check "d.json" none, "demo:S", none⟩ := rfl
  have hs : schema (stringDesk Reply.hollowReply) "demo:S" = pure Reply.strings := rfl
  have ht := (offers_stringDesk Reply.hollowReply).read (by decide)
  have hwarn : complainIn ("[yellow]warning[/] " ++ Reply.Warning.repaired.text) =
      complain "warning json_repaired_simple" := by
    rw [complainIn, render_repaired]
  have hstrict : (stringDesk Reply.hollowReply).environment.allowsNan = false := rfl
  have hnesting : (stringDesk Reply.hollowReply).nesting = 1000 := rfl
  have hrepair : ((none : Option Bool).getD
      (stringDesk Reply.hollowReply).environment.repairsReplies) = true := rfl
  rw [run_check hargs rfl hs ht, hstrict, hnesting, hrepair, answer, Reply.parse_hollowReply]
  simp only [List.forIn_cons, hwarn]
  generalize (Reply.parse ⟨false, 1000⟩ true Reply.strings (.text Reply.hollowReply)).calls = calls
  exact ⟨rfl, rfl⟩

/-- What was printed for the repaired reply is checked again, now from the input. -/
theorem check_hollowOutput :
    parse ["check", "demo:S", "d.json"] = some ⟨.check "d.json" none, "demo:S", none⟩ ∧
      (∀ s, (stringDesk Reply.hollowReply).catalog.schema "demo:S" = .ok s → s.DistinctFields) ∧
      (run (stringDesk Reply.hollowReply) ["check", "demo:S", "d.json"]).ending.exitCode = 0 ∧
      (run { stringDesk [] with input := hollowOutput }
        ["check", "demo:S", "-", "--no-repair"]).ending.exitCode = 0 ∧
      (run { stringDesk [] with input := hollowOutput }
        ["check", "demo:S", "-", "--no-repair"]).output = hollowOutput := by
  have hargs : parse ["check", "demo:S", "d.json"] =
      some ⟨.check "d.json" none, "demo:S", none⟩ := rfl
  have hargs' : parse ["check", "demo:S", "-", "--no-repair"] =
      some ⟨.check "-" (some false), "demo:S", none⟩ := rfl
  have hfields : ∀ s, (stringDesk Reply.hollowReply).catalog.schema "demo:S" = .ok s →
      s.DistinctFields := by
    intro s hs
    have hstrings : (stringDesk Reply.hollowReply).catalog.schema "demo:S" = .ok Reply.strings := rfl
    obtain rfl := Except.ok.inj (hstrings.symm.trans hs)
    exact Schema.distinctFields_array_iff.2 (Schema.distinctFields_primitive _ _)
  obtain ⟨hexit, houtput⟩ := run_hollowReply
  obtain ⟨chosen, s, -, -, -, -, -, -, hagain⟩ := check_of_output hargs hfields hexit
  rw [houtput] at hagain
  have hoffers : ({ stringDesk [] with input := hollowOutput } : Host).Offers "-" hollowOutput := by
    rw [Host.Offers, if_pos (by decide)]
  obtain ⟨hexit', houtput', -⟩ := hagain { stringDesk [] with input := hollowOutput }
    ["check", "demo:S", "-", "--no-repair"] "-" (some false) rfl rfl rfl nofun hoffers hargs'
  exact ⟨hargs, hfields, hexit, hexit', houtput'⟩

end ReplySchema.Cli
