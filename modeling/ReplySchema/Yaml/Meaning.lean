import ReplySchema.Yaml.Number
import ReplySchema.Yaml.Timestamp

/-!
What a scalar means by its looks. One that looks like nothing else is a string.
-/

namespace ReplySchema.Yaml

/-- The tag in full of a type that every text knows. -/
def standard (name : Text) : Text := "tag:yaml.org,2002:" ++ name

/-- Words for truth values, with the values. -/
def truthWords : List (Text × Bool) :=
  [("yes", true), ("no", false), ("true", true), ("false", false), ("on", true), ("off", false)]

/-- Whether the letters are all small, all capital, or small behind a capital first one. -/
def hasPlainCase (t : Text) : Bool :=
  t.all (fun c => !c.isAsciiUpper) || t.all (fun c => !c.isAsciiLower) ||
    (t.drop 1).all (fun c => !c.isAsciiUpper)

def truthWord? (t : Text) : Option Bool := find? t.asciiLower truthWords

def looksNull (t : Text) : Bool :=
  t.isEmpty || t = "~" || (t.asciiLower = "null" && hasPlainCase t)

/-- Dates alone have months and days of two digits. -/
def looksTimestamp (t : Text) : Bool :=
  match timestamp? t with
  | some s => s.moment.isSome || t.length = 10
  | none => false

/-- The text without one line feed at its end. -/
def withoutLineFeed (t : Text) : Text := if t.endsWith "\n" then t.dropLast else t

/-- Signs that stand for nothing a text can be loaded as. -/
def reservedWords : List Text := ["!", "&", "*"]

/-- The name of the type that a scalar of one line looks like. -/
def lineTag (t : Text) : Text :=
  if (truthWord? t).isSome && hasPlainCase t then "bool"
  else if looksFloat t then "float"
  else if looksInt t then "int"
  else if t = "<<" then "merge"
  else if looksNull t then "null"
  else if looksTimestamp t then "timestamp"
  else if t = "=" then "value"
  else if reservedWords.contains t then "yaml"
  else "str"

/-- The name of the type that a scalar looks like; a line feed at the end of its line does not count. -/
def plainTag (t : Text) : Text := if t = "\n" then "str" else lineTag (withoutLineFeed t)

end ReplySchema.Yaml
