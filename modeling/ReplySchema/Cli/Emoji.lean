import ReplySchema.Cli.ShortNames
import ReplySchema.Text.Lower
import ReplySchema.Text.Numeral

/-!
Emoji by their short names, which stand between colons in console texts. The letter case of a name
does not matter; one that is not known stays as it is.
-/

namespace ReplySchema.Emoji

structure ShortName where
  name : Text
  emoji : Text
  /-- Whether the name with a skin tone behind it is a name too. -/
  toned : Bool

/-- The code points in base sixteen with hyphens between them. -/
def codePoints (t : Text) : Text :=
  (Text.splitOn '-' t).filterMap fun digits => (Numeral.hexToNat? digits).map CodePoint.ofNat

/-- The names in an entry of the table. -/
def entry (t : Text) : List ShortName :=
  match Text.splitOn ':' t with
  | [] => []
  | codes :: names =>
    let emoji := codePoints codes
    names.map fun n => if n.endsWith "~" then ⟨n.dropLast, emoji, true⟩ else ⟨n, emoji, false⟩

/-- The words of a text with spaces and line feeds between them. -/
def words (t : Text) : List Text :=
  ((Text.splitOn '\n' t).flatMap (Text.splitOn ' ')).filter fun w => !w.isEmpty

def table : List ShortName := groups.flatMap fun g => (words g).flatMap entry

/-- The endings that ask for a skin tone, with the code points that give it. -/
def tones : List (Text × Nat) :=
  [("_light_skin_tone", 0x1F3FB), ("_medium-light_skin_tone", 0x1F3FC),
    ("_medium_skin_tone", 0x1F3FD), ("_medium-dark_skin_tone", 0x1F3FE),
    ("_dark_skin_tone", 0x1F3FF)]

/-- The endings that ask for one of two looks, with the selectors of those. -/
def variants : List (Text × Nat) := [("-emoji", 0xFE0F), ("-text", 0xFE0E)]

/-- The name in front of the first ending that it has, and what the ending asks for. -/
def split? (endings : List (Text × Nat)) (name : Text) : Option (Text × CodePoint) :=
  (endings.find? fun e => name.endsWith e.1).map fun (ending, code) =>
    (name.take (name.length - ending.length), .ofNat code)

/-- The emoji with a skin tone behind its first code point, in the place of a selector there. -/
def withTone (tone : CodePoint) : Text → Text
  | [] => []
  | c :: t => c :: tone :: (if t.head?.any fun d : CodePoint => d.val = 0xFE0F then t.drop 1 else t)

/-- The emoji of a name in lower case. -/
def plain? (name : Text) : Option Text :=
  match table.find? fun s => s.name = name with
  | some s => some s.emoji
  | none => do
    let (base, tone) ← split? tones name
    let s ← table.find? fun s => s.name = base && s.toned
    return withTone tone s.emoji

/-- The emoji of a name, which may ask for a look. -/
def ofName? (name : Text) : Option Text :=
  match split? variants name with
  | some (base, selector) => (plain? base.lower).map (· ++ [selector])
  | none => plain? name.lower

end ReplySchema.Emoji
