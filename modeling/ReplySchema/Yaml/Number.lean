import ReplySchema.Double.Arithmetic
import ReplySchema.Json.Decode
import ReplySchema.Text.Lower
import ReplySchema.Text.Numeral
import ReplySchema.Value.Shown
import ReplySchema.Yaml.Scalar

/-!
Numbers of YAML: integers in base two, eight, ten, sixteen and sixty, and doubles in base ten and
sixty. Underscores between digits do not count.
-/

namespace ReplySchema.Yaml

def bareNumber (t : Text) : Text := t.filter fun c : CodePoint => c ≠ '_'

/-- Whether there is a minus sign, and the text behind the sign. -/
def splitSign : Text → Bool × Text
  | [] => (false, [])
  | c :: t => if c = '-' then (true, t) else if c = '+' then (false, t) else (false, c :: t)

/-! ### How numbers look -/

def isDigits : Text → Bool
  | [] => false
  | c :: t => c.isDigit && t.all fun d => d.isDigit || d = '_'

def isDecimal (t : Text) : Bool := !t.startsWith "0" && isDigits t

/-- A digit of base sixty. -/
def isSixtieth : Text → Bool
  | [c] => c.isDigit
  | [c, d] => c.isDigit && c.val < 54 && d.isDigit
  | _ => false

def isBased (lead : Text) (digit : CodePoint → Bool) (t : Text) : Bool :=
  match Text.dropLead? lead t with
  | some r => !r.isEmpty && r.all fun c => digit c || c = '_'
  | none => false

def isWhole (t : Text) : Bool :=
  isBased "0b" (fun c => c = '0' || c = '1') t || isBased "0x" (fun c => (Numeral.hexValue? c).isSome) t ||
    t = "0" || isBased "0" (fun c => c.isDigit && c.val < 56) t || isDecimal t

def looksInt (t : Text) : Bool :=
  match Text.splitOn ':' (splitSign t).2 with
  | [p] => isWhole p
  | p :: ps => isDecimal p && ps.all isSixtieth
  | [] => false

/-- An exponent with its sign, or nothing. -/
def isExponent : Text → Bool
  | [] => true
  | e :: sign :: c :: t =>
    (e = 'e' || e = 'E') && (sign = '-' || sign = '+') && (c :: t).all CodePoint.isDigit
  | _ => false

def isFraction (t : Text) : Bool := isExponent (t.dropWhile fun c => c.isDigit || c = '_')

def looksPointed (t : Text) : Bool :=
  let body := (splitSign t).2
  match Text.splitAt? "." body with
  | none => false
  | some (whole, fraction) =>
    match Text.splitOn ':' whole with
    | [p] =>
      if p.isEmpty then body = t && fraction.head?.any CodePoint.isDigit && isFraction fraction
      else isDigits p && isFraction fraction
    | p :: ps => isDigits p && ps.all isSixtieth && fraction.all fun c => c.isDigit || c = '_'
    | [] => false

def infinityWords : List Text := [".inf", ".Inf", ".INF"]

def nanWords : List Text := [".nan", ".NaN", ".NAN"]

def looksFloat (t : Text) : Bool :=
  looksPointed t || infinityWords.contains (splitSign t).2 || nanWords.contains t

/-! ### What numbers denote -/

/-- Digits of all scripts as those of ASCII, and blanks beyond ASCII as spaces. -/
def plainDigits (t : Text) : Text :=
  t.map fun c =>
    if c.val < 0x7F then c
    else if c.isBlank then ' '
    else match c.decimalDigit? with
      | some d => Numeral.digit d
      | none => c

/-- A number may have white space of ASCII around it. -/
def isNumberBlank (c : CodePoint) : Bool := c = ' ' || (0x09 ≤ c.val && c.val ≤ 0x0D)

def trimNumber (t : Text) : Text :=
  ((t.dropWhile isNumberBlank).reverse.dropWhile isNumberBlank).reverse

/-- Of the text no more than two hundred code points are shown, quotes counted. -/
def badInt (base : Nat) (t : Text) : LoadError :=
  .fault ⟨.value, "invalid literal for int() with base " ++ Numeral.ofNat base ++ ": "
    ++ (Quoted.encode t).take 200⟩

def digitIn? (base : Nat) (c : CodePoint) : Option Nat :=
  (Numeral.hexValue? c).filter (· < base)

/-- The mark that may stand in front of the digits of a base. -/
def baseMark (base : Nat) : Text :=
  if base = 2 then "0b" else if base = 8 then "0o" else if base = 16 then "0x" else []

/-- The value of a text of digits in a base; blanks around it, a sign and the mark of the base may be there. -/
def wholeIn (base : Nat) (t : Text) : Scan Int :=
  let (negative, body) := splitSign (trimNumber (plainDigits t))
  let digits := (Text.dropLead? (baseMark base) body.asciiLower).getD body
  let count := (digits.takeWhile CodePoint.isDigit).length
  if base = 10 && Json.maxIntegerDigits < count then
    .error (.fault ⟨.value, (Json.DecodeError.longInteger count).message⟩)
  else
    match digits.foldlM (fun n c => (digitIn? base c).map fun d => base * n + d) 0 with
    | some n =>
      if digits.isEmpty then .error (badInt base t)
      else return (if negative then -(n : Int) else n)
    | none => .error (badInt base t)

def inSixties (parts : List Int) : Int := parts.foldl (fun n d => 60 * n + d) 0

def noFirst : LoadError := .fault ⟨.index, "string index out of range"⟩

/-- The integer that a text tagged as one denotes. -/
def intOf (text : Text) : Scan Int := do
  let t := bareNumber text
  let (negative, body) := splitSign t
  if body.isEmpty then .error noFirst
  else
    let n ←
      match Text.dropLead? "0b" body, Text.dropLead? "0x" body with
      | some r, _ => wholeIn 2 r
      | none, some r => wholeIn 16 r
      | none, none =>
        if body = "0" then pure 0
        else if body.startsWith "0" then wholeIn 8 body
        else if (body.contains (":" : Text)) then inSixties <$> (Text.splitOn ':' body).mapM (wholeIn 10)
        else wholeIn 10 body
    return (if negative then -n else n)

/-- The double that digits with a point and an exponent denote, if they do. -/
def decimalDouble? (t : Text) : Option Double :=
  let (negative, body) := splitSign t
  let whole := body.takeWhile CodePoint.isDigit
  let r := body.dropWhile CodePoint.isDigit
  let (fraction, r) :=
    match Text.dropLead? "." r with
    | some r => (r.takeWhile CodePoint.isDigit, r.dropWhile CodePoint.isDigit)
    | none => ([], r)
  let value (exp : Int) : Option Double :=
    if whole.isEmpty && fraction.isEmpty then none
    else some (.ofDecimal negative (Numeral.toNat (whole ++ fraction)) (exp - fraction.length))
  match r with
  | [] => value 0
  | e :: r =>
    let (negativeExp, digits) := splitSign r
    if e = 'e' && !digits.isEmpty && digits.all CodePoint.isDigit then
      let exp : Int := Numeral.toNat digits
      value (if negativeExp then -exp else exp)
    else none

/-- The double that a text denotes outside YAML, with the words for what is no number. -/
def doubleIn (text : Text) : Scan Double :=
  let t := (trimNumber (plainDigits text)).asciiLower
  let (negative, body) := splitSign t
  if body = "inf" || body = "infinity" then return .infinity negative
  else if body = "nan" then return .nan
  else
    match decimalDouble? t with
    | some x => return x
    | none => .error (.fault ⟨.value, "could not convert string to float: " ++ Quoted.encode text⟩)

def tooLarge : LoadError := .fault ⟨.overflow, "int too large to convert to float"⟩

/-- The sum of the parts, each times its power of sixty, rounded after every step. -/
def sixtiesDouble (parts : List Double) : Scan Double := do
  let (sum, _) ← parts.reverse.foldlM
    (fun (sum, weight) x =>
      match Magnitude.ofRatio? weight 1 with
      | some w => Except.ok (sum.add (x.mul (.finite false w)), 60 * weight)
      | none => .error tooLarge)
    (Double.zero, 1)
  return sum

/-- The text that tells the value of a double: its sign apart, in lower case. -/
def splitDouble (text : Text) : Bool × Text := splitSign (bareNumber text).lower

/-- Whether the double is the one for what is no number that YAML has a word for. -/
def isNanWord (text : Text) : Bool := (splitDouble text).2 = ".nan"

/-- The double that a text tagged as one denotes. -/
def floatOf (text : Text) : Scan Double :=
  let (negative, body) := splitDouble text
  if (bareNumber text).isEmpty then .error noFirst
  else if body = ".inf" then return .infinity negative
  else if isNanWord text then return .nan
  else do
    let x ←
      if (body.contains (":" : Text)) then (Text.splitOn ':' body).mapM doubleIn >>= sixtiesDouble
      else doubleIn body
    return if negative then x.neg else x

end ReplySchema.Yaml
