import ReplySchema.Reply.Block
import ReplySchema.Schema.Check
import ReplySchema.Stage

/-!
Parsing a model's reply. The reply is parsed as it stands; only when it is no JSON, and repair is
wanted, is its JSON block parsed instead, with a warning. Everything that happens is logged.
-/

namespace ReplySchema.Reply

inductive Warning
  | repaired
deriving DecidableEq

def Warning.text : Warning → Text
  | .repaired => "json_repaired_simple"

/-- The answer to a reply, with the records made on the way and the questions put to rules. -/
structure Parsed where
  result : Except Raised (Value × List Warning)
  /-- Why no block was found, when that is why the first error stands. -/
  blockError : Option BlockError
  records : List Record
  calls : List Call

def stageName : Text := "parse_reply"

/-- The record of the whole stage; its details are all free of reserved names. -/
def stageRecord (s : Schema) (repaired : Bool) (raised : Option Text) : List Record :=
  let details := Stage.begin stageName [("schema", .string s.className)]
  let details := if repaired then assign "repaired" (.bool true) details else details
  match Stage.record stageName (Stage.finish details raised) with
  | .ok r => [r]
  | .error _ => []

def failed (s : Schema) (e : Raised) (records : List Record) (blockError : Option BlockError)
    (calls : List Call) : Parsed :=
  ⟨.error e, blockError, records ++ stageRecord s false (some e.name), calls⟩

/-- Parses the block found in `reply` after the reply itself turned out to be no JSON. -/
def parseBlock (strictness : Json.Strictness) (s : Schema) (reply block : Text) (calls : List Call) :
    Parsed :=
  let run := s.parse strictness (.text block)
  match run.result with
  | .ok v =>
    let message := "repaired model reply before parsing (" ++ Numeral.ofNat reply.length ++ " -> "
      ++ Numeral.ofNat block.length ++ " chars)"
    ⟨.ok (v, [.repaired]), none, Record.plain .info message :: stageRecord s true none,
      calls ++ run.calls⟩
  | .error e => failed s e [] none (calls ++ run.calls)

/-- What is done about a reply that is no JSON for the reason `detail`. -/
def recover (strictness : Json.Strictness) (repair : Bool) (s : Schema) (source : Json.Source)
    (detail : Text) (calls : List Call) : Parsed :=
  let e := Raised.failure (.invalidJson detail)
  match repair, source with
  | true, .text reply =>
    match block reply with
    | .ok block => parseBlock strictness s reply block calls
    | .error b =>
      failed s e [.plain .debug ("no JSON block found in reply: " ++ b.message)] (some b) calls
  | _, _ => failed s e [.plain .debug ("reply is not valid JSON: " ++ detail)] none calls

def parse (strictness : Json.Strictness) (repair : Bool) (s : Schema) (source : Json.Source) :
    Parsed :=
  let run := s.parse strictness source
  match run.result with
  | .ok v => ⟨.ok (v, []), none, stageRecord s false none, run.calls⟩
  | .error (.failure (.invalidJson detail)) => recover strictness repair s source detail run.calls
  | .error e => failed s e [] none run.calls

end ReplySchema.Reply
