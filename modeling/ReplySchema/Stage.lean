import ReplySchema.Failure
import ReplySchema.Value.Shown

/-!
Stages of work and the log records about them. A stage ends with one record that names its outcome;
the details gathered on the way go with the record.
-/

namespace ReplySchema

inductive Level
  | debug
  | info
deriving DecidableEq

def Level.name : Level → Text
  | .debug => "DEBUG"
  | .info => "INFO"

structure Record where
  level : Level
  message : Text
  /-- The details of a stage, sorted by key; plain records have none. -/
  details : Option (List (Text × Value))

namespace Record

def plain (level : Level) (message : Text) : Record := ⟨level, message, none⟩

/-- The names under which a log record keeps data of its own, so that no detail may have them. -/
def reservedNames : List Text :=
  ["name", "msg", "args", "levelname", "levelno", "pathname", "filename", "module", "exc_info",
    "exc_text", "stack_info", "lineno", "funcName", "created", "msecs", "relativeCreated", "thread",
    "threadName", "processName", "process", "message", "asctime"]

end Record

/-- Inserts a pair in front of the first one whose key does not precede its own. -/
def insertByKey {α : Type} (p : Text × α) : List (Text × α) → List (Text × α)
  | [] => [p]
  | q :: rest => if q.1.precedes p.1 then q :: insertByKey p rest else p :: q :: rest

def sortByKey {α : Type} (ps : List (Text × α)) : List (Text × α) := ps.foldr insertByKey []

namespace Stage

/-- The details with which a stage begins; the caller's own may replace the name. -/
def begin (stage : Text) (context : List (Text × Value)) : List (Text × Value) :=
  context.foldl (fun ds d => assign d.1 d.2 ds) [("stage", .string stage)]

/-- The details at the end: an exception decides the outcome, success does not overrule a given one. -/
def finish (details : List (Text × Value)) (raised : Option Text) : List (Text × Value) :=
  match raised with
  | some name => assign "outcome" (.string name) details
  | none =>
    match find? "outcome" details with
    | some _ => details
    | none => assign "outcome" (.string "ok") details

/-- The record of a finished stage; the elapsed time is not told. -/
def record (stage : Text) (details : List (Text × Value)) : Except Fault Record :=
  match details.find? fun d => Record.reservedNames.contains d.1 with
  | some (name, _) => .error ⟨.key, "Attempt to overwrite " ++ Quoted.encode name ++ " in LogRecord"⟩
  | none =>
    let outcome := ((find? "outcome" details).getD .null).shown
    .ok ⟨.debug, stage ++ " finished in <ms>ms (" ++ outcome ++ ")",
      some (sortByKey (details.filter fun d => d.1 ≠ "ms"))⟩

end Stage

end ReplySchema
