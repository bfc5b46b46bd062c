import ReplySchema.Text.Upper

/-!
What the environment says about the settings: two switches and a log level, each of which may be
unset.
-/

namespace ReplySchema

structure Environment where
  allowNan : Option Text
  repairReplies : Option Text
  logLevel : Option Text

namespace Environment

/-- The spellings of a switch that is on. -/
def onWords : List Text := ["1", "true", "yes", "on"]

/-- Blanks around the word and its letter case do not matter; any other word means off. -/
def switch (t : Text) : Bool := onWords.contains t.trim.asciiLower

/-- Values that are not numbers are refused unless the environment allows them. -/
def allowsNan (e : Environment) : Bool := (e.allowNan.map switch).getD false

/-- Replies are repaired unless the environment forbids it. -/
def repairsReplies (e : Environment) : Bool := (e.repairReplies.map switch).getD true

def level (e : Environment) : Text := (e.logLevel.getD "WARNING").upper

end Environment

end ReplySchema
