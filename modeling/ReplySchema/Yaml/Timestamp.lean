import ReplySchema.Datum.Moment

/-!
Timestamps: a date, or a date with a time of day and perhaps a zone behind it.
-/

namespace ReplySchema.Yaml

structure Timestamp where
  date : Date
  /-- The time of day with its date; without one the timestamp is a date. -/
  moment : Option Moment

/-- A number of at least `least` and at most `most` digits. -/
def number? (least most : Nat) (t : Text) : Option (Nat × Text) :=
  let digits := (t.take most).takeWhile CodePoint.isDigit
  if digits.length < least then none else some (Numeral.toNat digits, t.drop digits.length)

def date? (t : Text) : Option (Date × Text) := do
  let (year, t) ← number? 4 4 t
  let t ← Text.dropLead? "-" t
  let (month, t) ← number? 1 2 t
  let t ← Text.dropLead? "-" t
  let (day, t) ← number? 1 2 t
  return (⟨year, month, day⟩, t)

/-- The letter or the blanks between a date and a time of day. -/
def timeMark? (t : Text) : Option Text :=
  match t with
  | c :: r =>
    if c = 'T' || c = 't' then some r
    else if c = ' ' || c = '\t' then some (t.dropWhile fun c => c = ' ' || c = '\t')
    else none
  | [] => none

/-- The fraction of a second in millionths; further digits do not count. -/
def fraction (t : Text) : Nat × Text :=
  match Text.dropLead? "." t with
  | none => (0, t)
  | some r =>
    let digits := (r.takeWhile CodePoint.isDigit).take 6
    (Numeral.toNat digits * Nat.pow 10 (6 - digits.length), r.dropWhile CodePoint.isDigit)

/-- The distance of the zone at the end of a timestamp from universal time, in minutes. -/
def zone? (t : Text) : Option Int := do
  if t = "Z" then return 0
  else
    let (negative, t) ←
      match t with
      | c :: r => if c = '-' then some (true, r) else if c = '+' then some (false, r) else none
      | [] => none
    let (hours, t) ← number? 1 2 t
    let (minutes, t) ←
      match Text.dropLead? ":" t with
      | some r => number? 2 2 r
      | none => some (0, t)
    let distance : Int := 60 * hours + minutes
    if t.isEmpty then some (if negative then -distance else distance) else none

def timestamp? (t : Text) : Option Timestamp := do
  let (date, t) ← date? t
  if t.isEmpty then return ⟨date, none⟩
  else
    let t ← timeMark? t
    let (hour, t) ← number? 1 2 t
    let t ← Text.dropLead? ":" t
    let (minute, t) ← number? 2 2 t
    let t ← Text.dropLead? ":" t
    let (second, t) ← number? 2 2 t
    let (micro, t) := fraction t
    let zone ←
      if t.isEmpty then some none
      else (zone? (t.dropWhile fun c => c = ' ' || c = '\t')).map some
    return ⟨date, some ⟨date, hour, minute, second, micro, zone⟩⟩

end ReplySchema.Yaml
