import ReplySchema.Json.Decode
import ReplySchema.Proofs.Json.Literal

/-!
The grammar of documents. It says which texts are documents and what value each denotes, without a
word about the order in which a reader looks at anything: a text is put together from the texts of
its parts. Only the nesting is counted, because a document nested too deeply is none.
-/

namespace ReplySchema.Json

def Gap (t : Text) : Prop := ∀ c ∈ t, c = ' ' ∨ c = '\t' ∨ c = '\n' ∨ c = '\r'

/-- What a backslash may stand in front of, and what the two stand for together. -/
def shortEscapes : List (CodePoint × CodePoint) :=
  [('"', '"'), ('\\', '\\'), ('/', '/'), ('b', '\x08'), ('f', '\x0c'), ('n', '\n'), ('r', '\r'),
    ('t', '\t')]

/-- The escape of a code point by its number, four hexadecimal digits in either case. -/
inductive UnitEscape : Text → CodePoint → Prop
  | mk {digits : Text} {n : Nat} (hl : digits.length = 4) (hn : Numeral.hexToNat? digits = some n) :
      UnitEscape ('\\' :: 'u' :: digits) (.ofNat n)

def LowAhead (b : Text) : Prop := ∃ u low rest, UnitEscape u low ∧ low.isLowSurrogate ∧ b = u ++ rest

/--
What stands between two quotes, and the string it denotes. The escape of a high surrogate goes
together with that of a low one right behind it; any other surrogate stands for itself.
-/
inductive StringBody : Text → Text → Prop
  | nil : StringBody [] []
  | plain {c : CodePoint} {b t : Text} (hq : c ≠ '"') (hb : c ≠ '\\') (hc : 0x20 ≤ c.val)
      (h : StringBody b t) : StringBody (c :: b) (c :: t)
  | short {e c : CodePoint} {b t : Text} (he : (e, c) ∈ shortEscapes) (h : StringBody b t) :
      StringBody ('\\' :: e :: b) (c :: t)
  | unit {u b t : Text} {c : CodePoint} (hu : UnitEscape u c)
      (hc : c.isHighSurrogate → ¬ LowAhead b) (h : StringBody b t) : StringBody (u ++ b) (c :: t)
  | pair {u w b t : Text} {high low : CodePoint} (hu : UnitEscape u high)
      (hh : high.isHighSurrogate) (hw : UnitEscape w low) (hl : low.isLowSurrogate)
      (h : StringBody b t) : StringBody (u ++ (w ++ b)) (high.joinSurrogates low :: t)

inductive StringText : Text → Text → Prop
  | mk {b t : Text} (h : StringBody b t) : StringText ('"' :: (b ++ [('"' : CodePoint)])) t

/--
The texts that hold no other value. Integers are exact but have a limit to their digits; a number
with a fraction or an exponent is the double nearest to it, and the lax also take those beyond the
largest double, and three constants.
-/
inductive Scalar (st : Strictness) : Text → Value → Prop
  | null : Scalar st "null" .null
  | bool (b : Bool) : Scalar st (if b then "true" else "false" : Text) (.bool b)
  | integer {l : Literal} {t : Text} (h : l.Spells t) (hf : ¬ l.isFloat)
      (hs : l.whole.length ≤ maxIntegerDigits) : Scalar st t (.int l.toInt)
  | double {l : Literal} {t : Text} (h : l.Spells t) (hf : l.isFloat)
      (hx : l.toDouble.isFinite ∨ st.allowNan) : Scalar st t (.float l.toDouble)
  | string {s t : Text} (h : StringText s t) : Scalar st s (.string t)
  | constant {t : Text} {x : Double} (h : (t, x) ∈ constants) (hst : st.allowNan) :
      Scalar st t (.float x)

section Containers

variable {α : Type} (Elem : Text → α → Prop)

/-- Elements one after another, a comma between each two and space where it pleases. -/
inductive Series : Text → List α → Prop
  | last {t g : Text} {a : α} (h : Elem t a) (hg : Gap g) : Series (t ++ g) [a]
  | more {t g g' u : Text} {a : α} {as : List α} (h : Elem t a) (hg : Gap g) (hg' : Gap g')
      (rest : Series u as) : Series (t ++ (g ++ (',' : CodePoint) :: (g' ++ u))) (a :: as)

inductive Enclosed (left right : CodePoint) : Text → List α → Prop
  | empty {g : Text} (hg : Gap g) : Enclosed left right (left :: (g ++ [right])) []
  | filled {g u : Text} {as : List α} (hg : Gap g) (h : Series Elem u as) :
      Enclosed left right (left :: (g ++ (u ++ [right]))) as

end Containers

inductive Member (Elem : Text → Value → Prop) : Text → Text × Value → Prop
  | mk {n g g' t : Text} {k : Text} {v : Value} (hn : StringText n k) (hg : Gap g) (hg' : Gap g')
      (h : Elem t v) : Member Elem (n ++ (g ++ (':' : CodePoint) :: (g' ++ t))) (k, v)

/-- What an object keeps of its members: the names in the order in which they first stand, each
with the value that stands behind it last. -/
structure Keeps (members kept : List (Text × Value)) : Prop where
  names : kept.map Prod.fst = (members.map Prod.fst).eraseDups
  values : ∀ k, find? k kept = find? k members.reverse

inductive Container (Elem : Text → Value → Prop) : Text → Value → Prop
  | array {t : Text} {vs : List Value} (h : Enclosed Elem '[' ']' t vs) :
      Container Elem t (.array vs)
  | object {t : Text} {members kept : List (Text × Value)}
      (h : Enclosed (Member Elem) '{' '}' t members) (hk : Keeps members kept) :
      Container Elem t (.object kept)

/-- The text, with containers nested at most `depth` deep, denotes the value. -/
def Denotes (st : Strictness) : (depth : Nat) → Text → Value → Prop
  | 0, t, v => Scalar st t v
  | d + 1, t, v => Scalar st t v ∨ Container (Denotes st d) t v

/-- One value with nothing but space around it. -/
inductive Document (st : Strictness) : Text → Value → Prop
  | mk {before t after : Text} {v : Value} (hb : Gap before) (h : Denotes st st.nesting t v)
      (ha : Gap after) : Document st (before ++ (t ++ after)) v

end ReplySchema.Json
