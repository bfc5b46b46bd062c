import ReplySchema.Json.Decode
import ReplySchema.Settings.Environment
import ReplySchema.Yaml.Build

/-!
Settings, and files that override those of the environment. A file holds a mapping of known names, in
YAML or in JSON as its name tells; it may set a switch to any datum, and none is checked here.
-/

namespace ReplySchema

structure Settings where
  allowNan : Datum
  repairReplies : Datum
  logLevel : Text

inductive SettingsError
  | malformedYaml
  | fault (f : Fault)

namespace Settings

def ofEnvironment (e : Environment) : Settings :=
  ⟨.bool e.allowsNan, .bool e.repairsReplies, e.level⟩

/-- The names in a path; empty ones and dots do not count. -/
def pathNames (path : Text) : List Text :=
  (Text.splitOn '/' path).filter fun n => n ≠ [] && n ≠ "."

/-- A path as it shows in messages. -/
def pathText (path : Text) : Text :=
  let names := Text.join "/" (pathNames path)
  if path.startsWith "/" then "/" ++ names else if names.isEmpty then "." else names

/-- The ending of a file's name from its last point on, unless the name begins or ends with that. -/
def suffix (path : Text) : Text :=
  let name := (pathNames path).getLastD []
  let ending := (name.reverse.takeWhile fun c : CodePoint => c ≠ '.').reverse
  if ending.isEmpty || name.length < ending.length + 2 then [] else "." ++ ending

def yamlSuffixes : List Text := [".yaml", ".yml"]

def ofDecodeError (e : Json.DecodeError) : SettingsError :=
  match e with
  | .longInteger _ => .fault ⟨.value, e.message⟩
  | .tooDeep =>
    .fault ⟨.recursion,
      "maximum recursion depth exceeded while decoding a JSON array from a unicode string"⟩
  | _ => .fault ⟨.jsonSyntax, e.message⟩

def ofLoadError : Yaml.LoadError → SettingsError
  | .malformed => .malformedYaml
  | .fault f => .fault f

/-- What a file holds: the members of a mapping, each read when it is asked for, or something else. -/
inductive Held
  | mapping (members : List (Datum × Thunk Datum))
  | other

/-- Nothing and what counts as false are taken for an empty mapping. -/
def Held.ofDatum : Datum → Held
  | .mapping members => .mapping (members.map fun (k, d) => (k, .pure d))
  | d => if d.truth then .other else .mapping []

def Held.ofDocument (d : Yaml.Document) : Held :=
  match d.members? with
  | some members => .mapping (members.map fun (k, p) => (k, ⟨fun _ => d.datum p⟩))
  | none => if d.truth then .other else .mapping []

/-- What a file of the given name holds. -/
def parse (limit : Nat) (path content : Text) : Except SettingsError Held :=
  let text := content.normalizeLines
  if yamlSuffixes.contains (suffix path) then
    ((Yaml.load text).map fun d => (d.map Held.ofDocument).getD (.mapping [])).mapError ofLoadError
  else
    ((Json.decode ⟨true, limit⟩ (.text text)).map fun v => .ofDatum (.ofValue v)).mapError
      ofDecodeError

def knownNames : List Text := ["allow_nan", "repair_replies", "log_level"]

def isKnown : Datum → Bool
  | .string t => knownNames.contains t
  | _ => false

def string? : Datum → Option Text
  | .string t => some t
  | _ => none

/-- Inserts a name in front of the first one that it does not follow. -/
def insertName (t : Text) : List Text → List Text
  | [] => [t]
  | u :: us => if u.precedes t then u :: insertName t us else t :: u :: us

def sortNames (ts : List Text) : List Text := ts.foldr insertName []

/-- The least of some numbers. -/
def least (d : Datum) (ds : List Datum) : Datum :=
  ds.foldl (fun least e =>
    match least.number?, e.number? with
    | some v, some w => if w.compare? v = some .lt then e else least
    | _, _ => least) d

/-- Why two data cannot be put in order, if so. -/
def clash? (d e : Datum) : Option Text :=
  match d, e with
  | .moment m, .moment n =>
    if m.zone.isSome = n.zone.isSome then none
    else some "can't compare offset-naive and offset-aware datetimes"
  | .moment _, .date _ | .date _, .moment _ => some "can't compare datetime.datetime to datetime.date"
  | d, e =>
    if (d.number?.isSome && e.number?.isSome) || d.className = e.className then none
    else some ("'<' not supported between instances of '" ++ e.qualifiedName ++ "' and '"
      ++ d.qualifiedName ++ "'")

/-- What is wrong with keys that are no known names; keys that are no strings cannot even be listed. -/
def unknownKeys (path : Text) (d : Datum) (ds : List Datum) : Fault :=
  match (d :: ds).mapM string? with
  | some names =>
    ⟨.value, "Unknown settings in " ++ pathText path ++ ": " ++ Text.join ", " (sortNames names)⟩
  | none =>
    match ds.findSome? (clash? d) with
    | some message => ⟨.type, message⟩
    | none =>
      ⟨.type, "sequence item 0: expected str instance, " ++ (least d ds).qualifiedName ++ " found"⟩

/-- The settings with one from a file, and what the log level shows as, whose letter case waits. -/
def override (s : Settings) (key : Datum) (value : Thunk Datum) : Except Fault Settings :=
  if string? key = some ("allow_nan" : Text) then .ok { s with allowNan := value.get }
  else if string? key = some ("repair_replies" : Text) then .ok { s with repairReplies := value.get }
  else value.get.shown.map fun t => { s with logLevel := t }

def apply (s : Settings) (members : List (Datum × Thunk Datum)) : Except Fault Settings := do
  let s ← members.foldlM (fun s m => s.override m.1 m.2) s
  return { s with logLevel := s.logLevel.upper }

/-- The settings of the environment, overridden by what a file says. -/
def load (limit : Nat) (e : Environment) (path content : Text) : Except SettingsError Settings := do
  match ← parse limit path content with
  | .mapping members =>
    match (members.map Prod.fst).filter fun k => !isKnown k with
    | [] => ((ofEnvironment e).apply members).mapError .fault
    | k :: ks => .error (.fault (unknownKeys path k ks))
  | .other => .error (.fault ⟨.value, "Settings file must contain a mapping: " ++ pathText path⟩)

/-- Whether replies are repaired; where a file leaves it open the environment decides. -/
def repairs (e : Environment) (s : Settings) : Bool :=
  match s.repairReplies with
  | .null => e.repairsReplies
  | d => d.truth

end Settings

end ReplySchema
