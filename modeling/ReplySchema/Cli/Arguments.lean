import ReplySchema.Value

/-!
The arguments of the command line. Options and positional arguments may be mixed behind the name of
the command; of an option given twice the last one counts.
-/

namespace ReplySchema.Cli

inductive Command
  | describe (plain : Bool)
  | check (document : Text) (repair : Option Bool)
  | prompt (text input task : Option Text) (hints : Bool)

structure Invocation where
  command : Command
  target : Text
  config : Option Text

/-- The options that a command knows. -/
structure Options where
  /-- Switches, each with the name of what it turns on or off. -/
  flags : List (Text × Text × Bool)
  /-- Options with a value. -/
  values : List Text

/-- The arguments sorted by what they are. -/
structure Given where
  positional : List Text
  flags : List (Text × Bool)
  values : List (Text × Text)

def Given.empty : Given := ⟨[], [], []⟩

namespace Given

def addPositional (arg : Text) (g : Given) : Given := { g with positional := g.positional ++ [arg] }

def addFlag (name : Text) (on : Bool) (g : Given) : Given := { g with flags := assign name on g.flags }

def addValue (name value : Text) (g : Given) : Given :=
  { g with values := assign name value g.values }

end Given

/-- Whether an argument is an option; a dash alone is none. -/
def isOption : Text → Bool
  | c :: _ :: _ => c = '-'
  | _ => false

/-- Sorts arguments; nothing when an option is unknown, lacks its value, or has one too many. -/
def Options.sort (options : Options) (g : Given) : List Text → Option Given
  | [] => some g
  | arg :: rest =>
    if arg = "--" then some { g with positional := g.positional ++ rest }
    else if isOption arg then
      match Text.splitAt? "=" arg with
      | some (name, value) =>
        if options.values.contains name then options.sort (g.addValue name value) rest else none
      | none =>
        match find? arg options.flags with
        | some (name, on) => options.sort (g.addFlag name on) rest
        | none =>
          if options.values.contains arg then
            match rest with
            | value :: rest => options.sort (g.addValue arg value) rest
            | [] => none
          else none
    else options.sort (g.addPositional arg) rest

def switch (name : Text) : List (Text × Text × Bool) :=
  [("--" ++ name, name, true), ("--no-" ++ name, name, false)]

def describeOptions : Options := ⟨switch "plain", ["--config"]⟩

def checkOptions : Options := ⟨switch "repair", ["--config"]⟩

def promptOptions : Options := ⟨switch "hints", ["--text", "--input", "--task", "--config"]⟩

def describe (args : List Text) : Option Invocation := do
  let g ← describeOptions.sort .empty args
  match g.positional with
  | [target] =>
    return ⟨.describe ((find? "plain" g.flags).getD false), target, find? "--config" g.values⟩
  | _ => none

def check (args : List Text) : Option Invocation := do
  let g ← checkOptions.sort .empty args
  match g.positional with
  | [target, document] =>
    return ⟨.check document (find? "repair" g.flags), target, find? "--config" g.values⟩
  | _ => none

def prompt (args : List Text) : Option Invocation := do
  let g ← promptOptions.sort .empty args
  match g.positional with
  | [target] =>
    return ⟨.prompt (find? "--text" g.values) (find? "--input" g.values) (find? "--task" g.values)
        ((find? "hints" g.flags).getD true), target, find? "--config" g.values⟩
  | _ => none

/-- The command that the arguments ask for, if they ask for one properly. -/
def parse (args : List Text) : Option Invocation :=
  let args := if args.head? = some ("--" : Text) then args.drop 1 else args
  match args with
  | [] => none
  | name :: rest =>
    if name = "describe" then describe rest
    else if name = "check" then check rest
    else if name = "prompt" then prompt rest
    else none

end ReplySchema.Cli
