import ReplySchema.Cli.Run
import ReplySchema.Target.Samples

/-!
The program: the command line over the real environment, files and streams.
-/

namespace ReplySchema.Cli

/-- The text as it goes to a stream, which has no surrogates to take. -/
def streamText (t : Text) : String := String.ofList (t.map fun c => Char.ofNat c.val)

def Notice.text : Notice → Text
  | line t => t
  | logged r => r.level.name ++ " " ++ r.message ++ "\n"

def environmentText? (name : String) : IO (Option Text) := do
  return (← IO.getEnv name).map Text.ofString

/-- The contents of those files that can be read. -/
def readFiles (paths : List Text) : IO (List (Text × Text)) :=
  paths.filterMapM fun path => do
    try return some (path, Text.ofString (← IO.FS.readFile (streamText path)))
    catch _ => return none

def hostFor (args : List Text) : IO Host := do
  let paths := ((parse args).map Invocation.paths).getD []
  let input ← if paths.contains "-" then (← IO.getStdin).readToEnd else pure ""
  return {
    nesting := 1000
    environment :=
      ⟨← environmentText? "STRUCTLM_ALLOW_NAN", ← environmentText? "STRUCTLM_REPAIR_REPLIES",
        ← environmentText? "STRUCTLM_LOG_LEVEL"⟩
    files := ← readFiles (paths.filter (· ≠ ("-" : Text)))
    input := Text.ofString input
    catalog := Samples.catalog }

def usage : String :=
  "usage: describe [--plain] TARGET | check [--no-repair] TARGET DOCUMENT | " ++
    "prompt (--text TEXT | --input FILE) [--task TASK] [--no-hints] TARGET"

end ReplySchema.Cli

def main (args : List String) : IO UInt32 := do
  let args := args.map ReplySchema.Text.ofString
  let o := ReplySchema.Cli.run (← ReplySchema.Cli.hostFor args) args
  IO.print (ReplySchema.Cli.streamText o.output)
  IO.eprint (ReplySchema.Cli.streamText (o.errors.flatMap ReplySchema.Cli.Notice.text))
  match o.ending with
  | .crashed c =>
    IO.eprintln (ReplySchema.Cli.streamText (c.className ++ ": " ++ c.message))
  | .misused => IO.eprintln ReplySchema.Cli.usage
  | _ => pure ()
  return UInt32.ofNat o.ending.exitCode
