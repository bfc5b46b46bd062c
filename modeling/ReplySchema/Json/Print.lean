import ReplySchema.Double.Shortest
import ReplySchema.Json.Scan

/-!
Values as JSON text: compact on one line, or indented with one element a line. Strings escape what
JSON demands and leave all else as it is. Containers nest no deeper than they may in a document, and
the compact form reads back as the value it was made from.
-/

namespace ReplySchema.Json

inductive EncodeError
  | notSerializable (className : Text)
  | badKey (className : Text)
  | longInteger
  | tooDeep
deriving DecidableEq

def EncodeError.message : EncodeError → Text
  | .notSerializable className => "Object of type " ++ className ++ " is not JSON serializable"
  | .badKey className => "keys must be str, int, float, bool or None, not " ++ className
  | .longInteger =>
    "Exceeds the limit (" ++ Numeral.ofNat maxIntegerDigits
      ++ " digits) for integer string conversion; use sys.set_int_max_str_digits() to increase the limit"
  | .tooDeep => "maximum recursion depth exceeded while encoding a JSON object"

def escape (c : CodePoint) : Text :=
  if c = '"' then "\\\""
  else if c = '\\' then "\\\\"
  else if c = '\n' then "\\n"
  else if c = '\r' then "\\r"
  else if c = '\t' then "\\t"
  else if c = '\x0c' then "\\f"
  else if c = '\x08' then "\\b"
  else if c.val < 0x20 then "\\u" ++ Numeral.hex 4 c.val
  else [c]

def printString (t : Text) : Text := "\"" ++ t.flatMap escape ++ "\""

/-- Doubles of an exponent from -4 to 15 are positional; an exponent has at least two digits. -/
def doubleLayout : DecimalLayout where
  lowest := -4
  highest := 16
  exponentWidth := 2
  nan := "NaN"
  infinity := "Infinity"

def printInt (n : Int) : Except EncodeError Text :=
  let text := Numeral.ofInt n
  if maxIntegerDigits < (Numeral.ofNat n.natAbs).length then .error .longInteger else .ok text

/-- The text of a key that may be no string; classes that no document knows are named by `className`. -/
def keyText (className : Value → Text) : Value → Except EncodeError Text
  | .string t => .ok t
  | .null => .ok "null"
  | .bool b => .ok (if b then "true" else "false")
  | .int n => printInt n
  | .float x => .ok (doubleLayout.double x)
  | v => .error (.badKey (className v))

/-- The elements of a container as `elements` gives them, where one more level may be opened. -/
def inside (limit : Nat) (elements : Nat → Except EncodeError (List Text)) :
    Except EncodeError (List Text) :=
  match limit with
  | 0 => .error .tooDeep
  | d + 1 => elements d

mutual

/--
Compact text: no spaces, and a comma or a colon between what it separates. Containers nest at most
`limit` deep.
-/
def encode (limit : Nat) : Value → Except EncodeError Text
  | .null => .ok "null"
  | .bool b => .ok (if b then "true" else "false")
  | .int n => printInt n
  | .float x => .ok (doubleLayout.double x)
  | .string t => .ok (printString t)
  | .array items | .tuple items => do
    return "[" ++ Text.join "," (← inside limit fun d => encodeItems d items) ++ "]"
  | .object members => do
    return "\x7b" ++ Text.join "," (← inside limit fun d => encodeMembers d members) ++ "\x7d"
  | .mapping entries => do
    return "\x7b" ++ Text.join "," (← inside limit fun d => encodeEntries d entries) ++ "\x7d"
  | .foreign f => .error (.notSerializable f.className)

def encodeItems (limit : Nat) : List Value → Except EncodeError (List Text)
  | [] => .ok []
  | v :: vs => do
    let t ← encode limit v
    return t :: (← encodeItems limit vs)

def encodeMembers (limit : Nat) : List (Text × Value) → Except EncodeError (List Text)
  | [] => .ok []
  | (k, v) :: ms => do
    let t ← encode limit v
    return (printString k ++ ":" ++ t) :: (← encodeMembers limit ms)

def encodeEntries (limit : Nat) : List (Value × Value) → Except EncodeError (List Text)
  | [] => .ok []
  | (k, v) :: es => do
    let key ← keyText Value.qualifiedName k
    let t ← encode limit v
    return (printString key ++ ":" ++ t) :: (← encodeEntries limit es)

end

/-- A line feed and the spaces of a nesting depth. -/
def newline (depth : Nat) : Text := '\n' :: List.replicate (2 * depth) ' '

/-- Elements on lines of their own between two brackets, or the bare brackets. -/
def block (left right : Text) (depth : Nat) : List Text → Text
  | [] => left ++ right
  | elements =>
    left ++ newline (depth + 1) ++ Text.join ("," ++ newline (depth + 1)) elements ++ newline depth
      ++ right

mutual

/--
Indented text: two spaces a level, one element a line, and a space behind each colon. Containers
nest at most `limit` deep below the depth at which the text begins.
-/
def encodeIndented (limit depth : Nat) : Value → Except EncodeError Text
  | .null => .ok "null"
  | .bool b => .ok (if b then "true" else "false")
  | .int n => printInt n
  | .float x => .ok (doubleLayout.double x)
  | .string t => .ok (printString t)
  | .array items | .tuple items => do
    return block "[" "]" depth (← inside limit fun d => indentItems d (depth + 1) items)
  | .object members => do
    return block "\x7b" "\x7d" depth (← inside limit fun d => indentMembers d (depth + 1) members)
  | .mapping entries => do
    return block "\x7b" "\x7d" depth (← inside limit fun d => indentEntries d (depth + 1) entries)
  | .foreign f => .error (.notSerializable f.className)

def indentItems (limit depth : Nat) : List Value → Except EncodeError (List Text)
  | [] => .ok []
  | v :: vs => do
    let t ← encodeIndented limit depth v
    return t :: (← indentItems limit depth vs)

def indentMembers (limit depth : Nat) : List (Text × Value) → Except EncodeError (List Text)
  | [] => .ok []
  | (k, v) :: ms => do
    let t ← encodeIndented limit depth v
    return (printString k ++ ": " ++ t) :: (← indentMembers limit depth ms)

/-- Classes of keys are named without their modules here. -/
def indentEntries (limit depth : Nat) : List (Value × Value) → Except EncodeError (List Text)
  | [] => .ok []
  | (k, v) :: es => do
    let key ← keyText Value.className k
    let t ← encodeIndented limit depth v
    return (printString key ++ ": " ++ t) :: (← indentEntries limit depth es)

end

end ReplySchema.Json
