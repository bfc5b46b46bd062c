import ReplySchema.Cli.Arguments
import ReplySchema.Cli.Markup
import ReplySchema.Prompt.Build
import ReplySchema.Reply.Parse
import ReplySchema.Settings.File
import ReplySchema.Target.Catalog

/-!
The commands: describe a schema, check a document against it, and compose a prompt. A command is a
function from what it finds around it to what it prints and how it exits.
-/

namespace ReplySchema.Cli

/-- What a command finds around it. -/
structure Host where
  /-- Containers nested deeper than this are neither read nor written. -/
  nesting : Nat
  environment : Environment
  files : List (Text × Text)
  input : Text
  catalog : Catalog

/-- An exception that a command does not handle. -/
structure Crash where
  className : Text
  message : Text

inductive Ending
  | done
  /-- The command reports that something is wrong with what it was given. -/
  | refused
  /-- The command is used wrongly; what is printed about that is left to the console. -/
  | misused
  | crashed (c : Crash)

/-- What the error stream gets: a line, or a log record, whose layout is left to the console. -/
inductive Notice
  | line (t : Text)
  | logged (r : Record)

structure Outcome where
  output : Text
  errors : List Notice
  calls : List Call
  ending : Ending

def Ending.exitCode : Ending → Nat
  | done => 0
  | refused | crashed _ => 1
  | misused => 2

/-- What has been printed so far, and the questions put to rules. -/
structure Printed where
  output : Text
  errors : List Notice
  calls : List Call

/-- A command under way: it prints and may end early. -/
abbrev Action := ExceptT Ending (StateM Printed)

def crash {α : Type} (className message : Text) : Action α := throw (.crashed ⟨className, message⟩)

def crashWith {α : Type} (f : Fault) : Action α := crash f.fault.name f.message

/-- Surrogates have no bytes, so text that holds one cannot be put out. -/
def unencodable? (t : Text) : Option Text :=
  match t.dropWhile fun c => !c.isSurrogate with
  | [] => none
  | c :: r =>
    let first := t.length - (c :: r).length
    let count := ((c :: r).takeWhile CodePoint.isSurrogate).length
    let which : Text :=
      if count = 1 then
        "character '\\u" ++ Numeral.hex 4 c.val ++ "' in position " ++ Numeral.ofNat first
      else "characters in position " ++ Numeral.ofNat first ++ "-" ++ Numeral.ofNat (first + count - 1)
    some ("'utf-8' codec can't encode " ++ which ++ ": surrogates not allowed")

/-- Prints a line. -/
def echo (t : Text) : Action Unit := do
  match unencodable? (t ++ "\n") with
  | some message => crash "UnicodeEncodeError" message
  | none => modify fun p => { p with output := p.output ++ t ++ "\n" }

def surrogateEscape (c : CodePoint) : Text :=
  if c.isSurrogate then "\\u" ++ Numeral.hex 4 c.val else [c]

/-- Prints a line about what is wrong; surrogates are written as escapes there. -/
def complain (t : Text) : Action Unit :=
  modify fun p => { p with errors := p.errors ++ [.line (t.flatMap surrogateEscape ++ "\n")] }

/-- Prints a line of markup. -/
def complainIn (markup : Text) : Action Unit :=
  match Markup.render markup with
  | .ok t => complain t
  | .error e => crash "MarkupError" e.message

/-! ### Files -/

/-- What stands at a path. -/
inductive Found
  | file (content : Text)
  | directory
  | nothing

namespace Host

def find (host : Host) (path : Text) : Found :=
  let names := Settings.pathNames path
  match host.files.find? fun f => Settings.pathNames f.1 = names with
  | some (_, content) => if names.isEmpty then .directory else .file content
  | none =>
    if names.all (· = "..") || host.files.any fun f => names.isPrefixOf (Settings.pathNames f.1) then
      .directory
    else .nothing

/-- The text of a file, or of the standard input for a dash. -/
def read (host : Host) (path : Text) : Action Text :=
  let shown := Settings.pathText path
  if shown = "-" then return host.input.normalizeLines
  else
    match host.find path with
    | .file content => return content.normalizeLines
    | .directory =>
      crash "IsADirectoryError" ("[Errno 21] Is a directory: " ++ Quoted.encode shown)
    | .nothing =>
      crash "FileNotFoundError" ("[Errno 2] No such file or directory: " ++ Quoted.encode shown)

/-- Whether an option may name a path: there has to be a file. -/
def hasFile (host : Host) (path : Text) : Bool :=
  match host.find path with
  | .file _ => !path.isEmpty
  | _ => false

end Host

/-! ### Commands -/

/-- The levels that a log can have, with their ranks. -/
def levels : List (Text × Nat) :=
  [("CRITICAL", 50), ("FATAL", 50), ("ERROR", 40), ("WARN", 30), ("WARNING", 30), ("INFO", 20),
    ("DEBUG", 10), ("NOTSET", 0)]

def levelNames : List Text := levels.map Prod.fst

def rank : Level → Nat
  | .debug => 10
  | .info => 20

/-- Whether a log of the given level keeps the record. -/
def keeps (level : Text) (r : Record) : Bool :=
  match find? level levels with
  | some n => n ≤ rank r.level
  | none => false

/-- Puts records into the log. -/
def log (level : Text) (records : List Record) : Action Unit :=
  modify fun p => { p with errors := p.errors ++ (records.filter (keeps level)).map .logged }

/-- The settings for a command, whose log level has to exist. -/
def settings (host : Host) (config : Option Text) : Action Settings := do
  let s ←
    match config with
    | none => pure (Settings.ofEnvironment host.environment)
    | some path =>
      match host.find path with
      | .file content =>
        match Settings.load host.nesting host.environment path content with
        | .ok s => pure s
        | .error .malformedYaml => crash "YAMLError" []
        | .error (.fault f) => crashWith f
      | _ => throw .misused
  if levelNames.contains s.logLevel then return s
  else crash "ValueError" ("Unknown level: " ++ Quoted.encode s.logLevel)

def schema (host : Host) (target : Text) : Action Schema :=
  match host.catalog.schema target with
  | .ok s => return s
  | .error (.relative name) => crash "TypeError" (TargetError.relative name).message
  | .error _ => throw .misused

def stepText : Step → Text
  | .key k => "." ++ k
  | .index i => "[" ++ Numeral.ofInt i ++ "]"

/-- The way to a failing value: keys behind points and indices in brackets. -/
def pathText (path : Path) : Text :=
  if path.isEmpty then "<root>" else path.flatMap stepText

def runDescribe (host : Host) (target : Text) (plain : Bool) : Action Unit := do
  let s ← schema host target
  echo (if plain then s.plain else s.hinted)

def runCheck (host : Host) (settings : Settings) (target document : Text) (repair : Option Bool) :
    Action Unit := do
  let s ← schema host target
  let text ← host.read document
  let repair := repair.getD (settings.repairs host.environment)
  let parsed := Reply.parse ⟨host.environment.allowsNan, host.nesting⟩ repair s (.text text)
  modify fun p => { p with calls := p.calls ++ parsed.calls }
  log settings.logLevel parsed.records
  match parsed.result with
  | .error (.fault f) => crashWith f
  | .error (.failure f) =>
    complainIn ("[bold red]invalid[/] at " ++ Markup.escape (pathText f.path) ++ ": "
      ++ Markup.escape f.message)
    throw .refused
  | .ok (v, warnings) =>
    for w in warnings do
      complainIn ("[yellow]warning[/] " ++ w.text)
    match Json.encodeIndented host.nesting 0 v with
    | .ok t => echo t
    | .error e => crashWith e.toFault

def runPrompt (host : Host) (target : Text) (text input task : Option Text) (hints : Bool) :
    Action Unit := do
  if text.isSome = input.isSome then
    complain "ERROR: pass exactly one of --text or --input"
    throw .refused
  let s ← schema host target
  let text ←
    match text, input with
    | some t, _ => pure t
    | none, some path => host.read path
    | none, none => pure []
  let p := Prompt.build hints task s text
  echo p.system
  echo []
  echo p.user
  match estimateTokens p.length with
  | .ok n =>
    complainIn ("~" ++ Numeral.ofNat n ++ " prompt tokens (" ++ Numeral.ofNat p.length ++ " chars)")
  | .error f => crashWith f

/-- The files that have to be there for a command to start. -/
def Invocation.requiredFiles (i : Invocation) : List Text :=
  i.config.toList ++
    match i.command with
    | .prompt _ input _ _ => input.toList
    | _ => []

/-- All files that a command names. -/
def Invocation.paths (i : Invocation) : List Text :=
  i.requiredFiles ++
    match i.command with
    | .check document _ => [document]
    | _ => []

def runCommand (host : Host) (i : Invocation) : Action Unit := do
  if !i.requiredFiles.all host.hasFile then throw .misused
  let s ← settings host i.config
  match i.command with
  | .describe plain => runDescribe host i.target plain
  | .check document repair => runCheck host s i.target document repair
  | .prompt text input task hints => runPrompt host i.target text input task hints

/-- Runs the command line with its arguments. -/
def run (host : Host) (args : List Text) : Outcome :=
  match parse args with
  | none => ⟨[], [], [], .misused⟩
  | some i =>
    match (runCommand host i).run ⟨[], [], []⟩ with
    | (.ok (), p) => ⟨p.output, p.errors, p.calls, .done⟩
    | (.error ending, p) => ⟨p.output, p.errors, p.calls, ending⟩

end ReplySchema.Cli
