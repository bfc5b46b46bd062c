import ReplySchema.Double.Shortest
import ReplySchema.Text.Printable
import ReplySchema.Value

/-!
Values as they show in messages: a string alone stands for itself, a string inside a collection is
quoted.
-/

namespace ReplySchema

/-- Doubles in messages are laid out as in documents, but for the values that are no numbers. -/
def shownLayout : DecimalLayout where
  lowest := -4
  highest := 16
  exponentWidth := 2
  nan := "nan"
  infinity := "inf"

namespace Foreign

def quoted : Foreign → Text
  | .set => "set()"
  | .bytes => "b''"
  | .byteArray => "bytearray(b'')"
  | .complex => "1j"
  | .plainObject => "<object>"
  | .decimal => "Decimal('1')"

def shown : Foreign → Text
  | .decimal => "1"
  | f => f.quoted

end Foreign

namespace Value

mutual

def quoted : Value → Text
  | .null => "None"
  | .bool b => if b then "True" else "False"
  | .int n => Numeral.ofInt n
  | .float x => shownLayout.double x
  | .string t => Quoted.encode t
  | .array items => "[" ++ Text.join ", " (quotedItems items) ++ "]"
  | .object members => "\x7b" ++ Text.join ", " (quotedMembers members) ++ "\x7d"
  | .mapping entries => "\x7b" ++ Text.join ", " (quotedEntries entries) ++ "\x7d"
  | .tuple [v] => "(" ++ quoted v ++ ",)"
  | .tuple items => "(" ++ Text.join ", " (quotedItems items) ++ ")"
  | .foreign f => f.quoted

def quotedItems : List Value → List Text
  | [] => []
  | v :: vs => quoted v :: quotedItems vs

def quotedMembers : List (Text × Value) → List Text
  | [] => []
  | (k, v) :: ms => (Quoted.encode k ++ ": " ++ quoted v) :: quotedMembers ms

def quotedEntries : List (Value × Value) → List Text
  | [] => []
  | (k, v) :: es => (quoted k ++ ": " ++ quoted v) :: quotedEntries es

end

def shown : Value → Text
  | .string t => t
  | .foreign f => f.shown
  | v => v.quoted

end Value

end ReplySchema
