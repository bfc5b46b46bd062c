import ReplySchema.Cli.Run
import ReplySchema.Proofs.Reply.Prose
import ReplySchema.Proofs.Settings.Overlay

/-!
Documents checked with the settings of a file. A file governs the check like an environment in which
its settings are made, but for the switch that allows values that are no numbers: the decoder asks the
environment alone.
-/

namespace ReplySchema

namespace Reply

/-- A text and its block decode alike, be the decoder strict or lax. -/
structure ReadsAlike (limit : Nat) (t : Text) : Prop where
  text : ∀ lax lax', Json.decode ⟨lax, limit⟩ (.text t) = Json.decode ⟨lax', limit⟩ (.text t)
  block : ∀ b, block t = .ok b → ∀ lax lax',
    Json.decode ⟨lax, limit⟩ (.text b) = Json.decode ⟨lax', limit⟩ (.text b)

variable {limit : Nat} {lax lax' : Bool} {t : Text}

theorem parseSchema_congr (s : Schema) {source : Json.Source}
    (h : Json.decode ⟨lax, limit⟩ source = Json.decode ⟨lax', limit⟩ source) :
    s.parse ⟨lax, limit⟩ source = s.parse ⟨lax', limit⟩ source := by
  rw [Schema.parse, Schema.parse, h]

theorem parseBlock_congr (s : Schema) {b : Text} (reply : Text) (calls : List Call)
    (h : Json.decode ⟨lax, limit⟩ (.text b) = Json.decode ⟨lax', limit⟩ (.text b)) :
    parseBlock ⟨lax, limit⟩ s reply b calls = parseBlock ⟨lax', limit⟩ s reply b calls := by
  rw [parseBlock, parseBlock, parseSchema_congr s h]

theorem ReadsAlike.recover_eq (h : ReadsAlike limit t) (lax lax' repair : Bool) (s : Schema)
    (detail : Text) (calls : List Call) :
    recover ⟨lax, limit⟩ repair s (.text t) detail calls =
      recover ⟨lax', limit⟩ repair s (.text t) detail calls := by
  cases repair with
  | false => rfl
  | true =>
    rw [recover, recover]
    split
    next b hb => exact parseBlock_congr s t calls (h.block b hb lax lax')
    next => rfl

theorem ReadsAlike.parse_eq (h : ReadsAlike limit t) (lax lax' repair : Bool) (s : Schema) :
    parse ⟨lax, limit⟩ repair s (.text t) = parse ⟨lax', limit⟩ repair s (.text t) := by
  rw [parse, parse, parseSchema_congr s (h.text lax lax')]
  split
  · rfl
  · exact h.recover_eq lax lax' repair s _ _
  · rfl

theorem readsAlike_emptyList (hn : 0 < limit) : ReadsAlike limit "[]" := by
  have ht : Json.encode 1 (.array []) = .ok "[]" := rfl
  have hdecode : ∀ lax, Json.decode ⟨lax, limit⟩ (.text "[]") = .ok (.array []) :=
    fun lax => Json.decode_strings hn [] ht
  have halike := fun lax lax' => (hdecode lax).trans (hdecode lax').symm
  have hblock : block "[]" = .ok "[]" :=
    block_of_brackets (p := []) (m := []) (q := []) .list (by simp) (by simp) (by simp) rfl
      (no_fence_of_not_mem (by decide)) (not_holdsSection (by decide))
  refine ⟨halike, fun b hb => ?_⟩
  obtain rfl := Except.ok.inj (hblock.symm.trans hb)
  exact halike

end Reply

namespace Cli

def Host.under (host : Host) (e : Environment) : Host := { host with environment := e }

variable {host : Host} {e : Environment} {words : Environment.Words} {xs : List Setting}
  {path content target document : Text} {repair : Option Bool}

theorem Host.read_cases (host : Host) (path : Text) :
    (∃ t, host.read path = pure t) ∨ ∃ name message, host.read path = crash name message := by
  rw [Host.read]
  split
  · exact .inl ⟨_, rfl⟩
  · split
    · exact .inl ⟨_, rfl⟩
    · exact .inr ⟨_, _, rfl⟩
    · exact .inr ⟨_, _, rfl⟩

theorem Host.find_nil (host : Host) : host.find [] = .directory := by
  rw [Host.find, show Settings.pathNames [] = [] from rfl]
  split <;> rfl

theorem Host.hasFile_of_find (h : host.find path = .file content) : host.hasFile path := by
  have hpath : path ≠ [] := by
    rintro rfl
    rw [host.find_nil] at h
    cases h
  simp [Host.hasFile, h, hpath]

def leveled (s : Settings) : Action Settings :=
  if levelNames.contains s.logLevel then return s
  else crash "ValueError" ("Unknown level: " ++ Quoted.encode s.logLevel)

theorem settings_none (host : Host) :
    settings host none = leveled (.ofEnvironment host.environment) := rfl

theorem settings_some {s : Settings} (hfind : host.find path = .file content)
    (hload : Settings.load host.nesting host.environment path content = .ok s) :
    settings host (some path) = leveled s := by
  simp only [settings, hfind, hload]
  rfl

/-- Of settings that exist or not alike, the continuation counts. -/
theorem leveled_bind_congr {s s' : Settings} {f f' : Settings → Action Unit}
    (hlevel : s.logLevel = s'.logLevel) (hf : f s = f' s') :
    leveled s >>= f = leveled s' >>= f' := by
  rw [leveled, leveled, hlevel]
  split
  · rw [pure_bind, pure_bind, hf]
  · rfl

theorem runCommand_check {config : Option Text} (hfiles : config.toList.all host.hasFile) :
    runCommand host ⟨.check document repair, target, config⟩ =
      settings host config >>= fun s => runCheck host s target document repair := by
  simp [runCommand, Invocation.requiredFiles, hfiles]

/-- Whether the texts that the document can be read as are parsed alike in both environments. -/
def ParsedAlike (host : Host) (document : Text) (e : Environment) : Prop :=
  ∀ t, host.read document = pure t → ∀ repair s,
    Reply.parse ⟨host.environment.allowsNan, host.nesting⟩ repair s (.text t) =
      Reply.parse ⟨e.allowsNan, host.nesting⟩ repair s (.text t)

theorem runCheck_under {s s' : Settings} (hs : s.repairs host.environment = s'.repairs e)
    (hlevel : s.logLevel = s'.logLevel) (hparse : ParsedAlike host document e) :
    runCheck host s target document repair = runCheck (host.under e) s' target document repair := by
  have hread : (host.under e).read document = host.read document := rfl
  have hschema : schema (host.under e) target = schema host target := rfl
  have henvironment : (host.under e).environment = e := rfl
  have hnesting : (host.under e).nesting = host.nesting := rfl
  rw [runCheck, runCheck, hread, hschema, henvironment, hnesting, hs, hlevel]
  rcases host.read_cases document with ⟨t, ht⟩ | ⟨name, message, hcrash⟩
  · simp only [ht, pure_bind, hparse t ht]
  · rw [hcrash]
    rfl

/-- A check with settings from a file is one without, where the environment says the same. -/
theorem run_check_under {args args' : List Text} (words : Environment.Words)
    (hargs : parse args = some ⟨.check document repair, target, some path⟩)
    (hargs' : parse args' = some ⟨.check document repair, target, none⟩)
    (hfind : host.find path = .file content) (hholds : Settings.Holds host.nesting path content xs)
    (hlevel : e.level = (host.environment.overlay words xs).level)
    (hrepairs : e.repairsReplies = (host.environment.overlay words xs).repairsReplies)
    (hparse : ParsedAlike host document e) : run host args = run (host.under e) args' := by
  have hfiles : (some path).toList.all host.hasFile := by simp [Host.hasFile_of_find hfind]
  have hload := Settings.load_eq_overlay hholds host.environment words
  have hcheck : runCheck host (.ofEnvironment (host.environment.overlay words xs)) target document
      repair = runCheck (host.under e) (.ofEnvironment e) target document repair :=
    runCheck_under (by rw [Settings.repairs_ofEnvironment, Settings.repairs_ofEnvironment, hrepairs])
      hlevel.symm hparse
  have hcommand : runCommand host ⟨.check document repair, target, some path⟩ =
      runCommand (host.under e) ⟨.check document repair, target, none⟩ := by
    rw [runCommand_check hfiles, runCommand_check rfl, settings_some hfind hload, settings_none]
    exact leveled_bind_congr hlevel.symm hcheck
  rw [run, run, hargs, hargs']
  dsimp only
  rw [hcommand]

def answer (limit : Nat) (level : Text) (parsed : Reply.Parsed) : Action Unit := do
  modify fun p => { p with calls := p.calls ++ parsed.calls }
  log level parsed.records
  match parsed.result with
  | .error (.fault f) => crashWith f
  | .error (.failure f) =>
    complainIn ("[bold red]invalid[/] at " ++ Markup.escape (pathText f.path) ++ ": "
      ++ Markup.escape f.message)
    throw .refused
  | .ok (v, warnings) =>
    for w in warnings do
      complainIn ("[yellow]warning[/] " ++ w.text)
    match Json.encodeIndented limit 0 v with
    | .ok t => echo t
    | .error e => crashWith e.toFault

section Alone

variable {t u : Text} {s : Schema} {v : Value} {f : Failure} {args : List Text}
  {config : Option Text} {chosen : Settings}

/-- A check with settings that are there, of a document that is there under a schema that is. -/
theorem run_check_answer (hargs : parse args = some ⟨.check document repair, target, config⟩)
    (hfiles : config.toList.all host.hasFile) (hset : settings host config = pure chosen)
    (hs : schema host target = pure s) (ht : host.read document = pure t) :
    run host args =
      match (answer host.nesting chosen.logLevel
        (Reply.parse ⟨host.environment.allowsNan, host.nesting⟩
          (repair.getD (chosen.repairs host.environment)) s (.text t))).run ⟨[], [], []⟩ with
      | (.ok (), p) => ⟨p.output, p.errors, p.calls, .done⟩
      | (.error ending, p) => ⟨p.output, p.errors, p.calls, ending⟩ := by
  rw [run, hargs]
  dsimp only
  rw [runCommand_check hfiles, hset, pure_bind, runCheck, hs, pure_bind, ht, pure_bind]
  rfl

/-- A document that passes is printed, and besides it there are only records of the log. -/
theorem run_check_prints (hargs : parse args = some ⟨.check document repair, target, config⟩)
    (hfiles : config.toList.all host.hasFile) (hset : settings host config = pure chosen)
    (hs : schema host target = pure s) (ht : host.read document = pure t)
    (hp : (Reply.parse ⟨host.environment.allowsNan, host.nesting⟩
      (repair.getD (chosen.repairs host.environment)) s (.text t)).result = .ok (v, []))
    (hv : Json.encodeIndented host.nesting 0 v = .ok u) (hu : unencodable? (u ++ "\n") = none) :
    (run host args).ending = .done ∧ (run host args).output = u ++ "\n" ∧
      (run host args).errors =
        ((Reply.stageRecord s false none).filter (keeps chosen.logLevel)).map .logged := by
  rw [run_check_answer hargs hfiles hset hs ht, answer, Reply.records_of_ok hp, hp]
  dsimp only [List.forIn_nil]
  rw [hv]
  dsimp only
  rw [echo, hu]
  exact ⟨rfl, rfl, rfl⟩

theorem settings_of_level (hlevel : levelNames.contains host.environment.level) :
    settings host none = pure (.ofEnvironment host.environment) := by
  have hlevel' : levelNames.contains (Settings.ofEnvironment host.environment).logLevel := hlevel
  rw [settings_none, leveled, if_pos hlevel']

/-- A check with the settings of the environment, whose level exists. -/
theorem run_check (hargs : parse args = some ⟨.check document repair, target, none⟩)
    (hlevel : levelNames.contains host.environment.level) (hs : schema host target = pure s)
    (ht : host.read document = pure t) :
    run host args =
      match (answer host.nesting host.environment.level
        (Reply.parse ⟨host.environment.allowsNan, host.nesting⟩
          (repair.getD host.environment.repairsReplies) s (.text t))).run ⟨[], [], []⟩ with
      | (.ok (), p) => ⟨p.output, p.errors, p.calls, .done⟩
      | (.error ending, p) => ⟨p.output, p.errors, p.calls, ending⟩ := by
  rw [run_check_answer hargs rfl (settings_of_level hlevel) hs ht, Settings.repairs_ofEnvironment]
  rfl

/-- A document that fails is complained about, and nothing is printed. -/
theorem run_check_refused (hargs : parse args = some ⟨.check document repair, target, none⟩)
    (hlevel : levelNames.contains host.environment.level) (hs : schema host target = pure s)
    (ht : host.read document = pure t)
    (hp : (Reply.parse ⟨host.environment.allowsNan, host.nesting⟩
      (repair.getD host.environment.repairsReplies) s (.text t)).result = .error (.failure f)) :
    (run host args).ending.exitCode = 1 ∧ (run host args).output = [] := by
  rw [run_check hargs hlevel hs ht, answer, hp]
  dsimp only
  rw [complainIn]
  generalize Markup.render _ = rendered
  cases rendered with
  | ok shown => exact ⟨rfl, rfl⟩
  | error e => exact ⟨rfl, rfl⟩

theorem run_check_done (hargs : parse args = some ⟨.check document repair, target, none⟩)
    (hlevel : levelNames.contains host.environment.level) (hs : schema host target = pure s)
    (ht : host.read document = pure t)
    (hp : (Reply.parse ⟨host.environment.allowsNan, host.nesting⟩
      (repair.getD host.environment.repairsReplies) s (.text t)).result = .ok (v, []))
    (hv : Json.encodeIndented host.nesting 0 v = .ok u) (hu : unencodable? (u ++ "\n") = none) :
    (run host args).ending = .done ∧ (run host args).output = u ++ "\n" := by
  rw [← Settings.repairs_ofEnvironment] at hp
  obtain ⟨hdone, houtput, -⟩ :=
    run_check_prints hargs rfl (settings_of_level hlevel) hs ht hp hv hu
  exact ⟨hdone, houtput⟩

end Alone

/--
Checking with a settings file ends like checking in the environment in which the settings of the file
are made, but for the switch that allows values that are no numbers, which stays. That one makes no
difference if the environment says the same about it, or if the document and its block decode alike.
-/
theorem run_check_with_file {args args' : List Text} (words : Environment.Words)
    (hargs : parse args = some ⟨.check document repair, target, some path⟩)
    (hargs' : parse args' = some ⟨.check document repair, target, none⟩)
    (hfind : host.find path = .file content)
    (hholds : Settings.Holds host.nesting path content xs) :
    run host args =
        run (host.under { host.environment.overlay words xs with
          allowNan := host.environment.allowNan }) args' ∧
      ((host.environment.overlay words xs).allowsNan = host.environment.allowsNan ∨
          (∀ t, host.read document = pure t → Reply.ReadsAlike host.nesting t) →
        run host args = run (host.under (host.environment.overlay words xs)) args') := by
  refine ⟨?_, fun h => ?_⟩
  · exact run_check_under words hargs hargs' hfind hholds rfl rfl fun t _ repair s => rfl
  · refine run_check_under words hargs hargs' hfind hholds rfl rfl fun t ht repair s => ?_
    rcases h with hsame | halike
    · rw [hsame]
    · exact (halike t ht).parse_eq _ _ repair s

def numbers : Schema := .primitive .plain .number

def numberDesk (files : List (Text × Text)) : Host :=
  ⟨1000, ⟨none, none, none⟩, files, [], [.ofPaths "demo" [("N", .schema numbers)]]⟩

/-- A settings file that makes every setting, and a document that it makes no difference to. -/
def settingsFiles : List (Text × Text) :=
  [("s.json", "\x7b\"allow_nan\":true,\"repair_replies\":false,\"log_level\":\"debug\"\x7d"),
    ("d.json", "[]")]

theorem pure_action_inj {α : Type} {a b : α} (h : (pure a : Action α) = pure b) : a = b := by
  have hrun := congrFun (congrArg (fun x : Action α => x.run) h) ⟨[], [], []⟩
  exact Except.ok.inj (Prod.ext_iff.1 hrun).1

theorem run_check_settingsFiles :
    parse ["check", "demo:N", "d.json", "--config", "s.json"] =
        some ⟨.check "d.json" none, "demo:N", some "s.json"⟩ ∧
      (∀ t, (numberDesk settingsFiles).read "d.json" = pure t → Reply.ReadsAlike 1000 t) ∧
      run (numberDesk settingsFiles) ["check", "demo:N", "d.json", "--config", "s.json"] =
        run ((numberDesk settingsFiles).under ⟨some "1", some "0", some "debug"⟩)
          ["check", "demo:N", "d.json"] := by
  have hcontent : Json.encode 1000 (.object
      ([.allowNan true, .repairReplies false, .logLevel "debug"].map Setting.named)) = .ok
      "\x7b\"allow_nan\":true,\"repair_replies\":false,\"log_level\":\"debug\"\x7d" := rfl
  have hholds : Settings.Holds 1000 "s.json"
      "\x7b\"allow_nan\":true,\"repair_replies\":false,\"log_level\":\"debug\"\x7d"
      [.allowNan true, .repairReplies false, .logLevel "debug"] :=
    Settings.holds_of_encode (by decide) (by decide) hcontent (by decide)
  have halike : ∀ t, (numberDesk settingsFiles).read "d.json" = pure t →
      Reply.ReadsAlike 1000 t := by
    intro t ht
    have hread : (numberDesk settingsFiles).read "d.json" = pure "[]" := rfl
    rw [pure_action_inj (ht.symm.trans hread)]
    exact Reply.readsAlike_emptyList (by decide)
  have hargs : parse ["check", "demo:N", "d.json", "--config", "s.json"] =
      some ⟨.check "d.json" none, "demo:N", some "s.json"⟩ := rfl
  have hargs' : parse ["check", "demo:N", "d.json"] =
      some ⟨.check "d.json" none, "demo:N", none⟩ := rfl
  have hfind : (numberDesk settingsFiles).find "s.json" =
      .file "\x7b\"allow_nan\":true,\"repair_replies\":false,\"log_level\":\"debug\"\x7d" := rfl
  exact ⟨rfl, halike, (run_check_with_file .digits hargs hargs' hfind hholds).2 (.inr halike)⟩

def nanFiles : List (Text × Text) := [("s.json", "\x7b\"allow_nan\":true\x7d"), ("d.json", "NaN")]

theorem decode_nan (st : Json.Strictness) : Json.decode st (.text "NaN") =
    match st.refuse (some "NaN") with
    | some name => .error (.constant name)
    | none => .ok (.float .nan) := by
  have hdecoded : Json.Decoded ⟨true, st.nesting⟩ st.nesting (.float .nan) :=
    .leaf (by simp [Value.parts]) (by simp [Value.depth]) nofun
  have ht : Json.encode st.nesting (.float .nan) = .ok "NaN" := rfl
  exact Json.decode_of_encode st hdecoded.writable ht

theorem parse_nan_strict : (Reply.parse ⟨false, 1000⟩ true numbers (.text "NaN")).result =
    .error (.failure (.invalidJson "NaN is not valid JSON")) := by
  have hdecode : Json.decode ⟨false, 1000⟩ (.text "NaN") = .error (.constant "NaN") := decode_nan _
  have hblock : Reply.block "NaN" = .error .noBlock :=
    Reply.block_eq_bracketed (by decide) (Reply.not_holdsFence (by decide))
      (Reply.not_holdsSection (by decide))
  rw [Reply.parse_of_invalidJson (by rw [Schema.parse, hdecode]; rfl), Reply.retried?, hblock]
  rfl

theorem parse_nan_lax :
    (Reply.parse ⟨true, 1000⟩ true numbers (.text "NaN")).result = .ok (.float .nan, []) := by
  have hdecode : Json.decode ⟨true, 1000⟩ (.text "NaN") = .ok (.float .nan) := decode_nan _
  exact Reply.parse_of_ok (Reply.parse_document hdecode numbers)

/-- Made in the environment the setting makes the document pass; in the file it does not. -/
theorem allow_nan_of_file_ignored :
    ¬ ∀ (host : Host) (words : Environment.Words) (xs : List Setting)
        (path content target document : Text) (repair : Option Bool) (args args' : List Text),
      parse args = some ⟨.check document repair, target, some path⟩ →
      parse args' = some ⟨.check document repair, target, none⟩ →
      host.find path = .file content → Settings.Holds host.nesting path content xs →
        (run host args).ending.exitCode =
          (run (host.under (host.environment.overlay words xs)) args').ending.exitCode := by
  intro h
  have hargs : parse ["check", "demo:N", "d.json", "--config", "s.json"] =
      some ⟨.check "d.json" none, "demo:N", some "s.json"⟩ := rfl
  have hargs' : parse ["check", "demo:N", "d.json"] =
      some ⟨.check "d.json" none, "demo:N", none⟩ := rfl
  have hfind : (numberDesk nanFiles).find "s.json" = .file "\x7b\"allow_nan\":true\x7d" := rfl
  have hcontent : Json.encode 1000 (.object ([.allowNan true].map Setting.named)) =
      .ok "\x7b\"allow_nan\":true\x7d" := rfl
  have hholds : Settings.Holds 1000 "s.json" "\x7b\"allow_nan\":true\x7d" [.allowNan true] :=
    Settings.holds_of_encode (by decide) (by decide) hcontent (by decide)
  have hsame := h _ .digits _ _ _ _ _ _ _ _ hargs hargs' hfind hholds
  have hfile : run (numberDesk nanFiles) ["check", "demo:N", "d.json", "--config", "s.json"] =
      run (numberDesk nanFiles) ["check", "demo:N", "d.json"] :=
    run_check_under .digits hargs hargs' hfind hholds rfl rfl fun t _ repair s => rfl
  have hs : schema (numberDesk nanFiles) "demo:N" = pure numbers := rfl
  have ht : (numberDesk nanFiles).read "d.json" = pure "NaN" := rfl
  obtain ⟨hrefused, -⟩ := run_check_refused hargs' rfl hs ht parse_nan_strict
  have hs' : schema ((numberDesk nanFiles).under ⟨some "1", none, none⟩) "demo:N" = pure numbers := hs
  have ht' : ((numberDesk nanFiles).under ⟨some "1", none, none⟩).read "d.json" = pure "NaN" := ht
  obtain ⟨hdone, -⟩ := run_check_done hargs' rfl hs' ht' parse_nan_lax rfl rfl
  rw [hfile, hrefused] at hsame
  exact absurd (hsame.trans (congrArg Ending.exitCode hdone)) (by decide)

end Cli

end ReplySchema
