import ReplySchema.Fault

/-!
Dates and moments of the calendar, in the form in which settings hold them. A moment may have a time
zone, given as its distance from universal time in minutes.
-/

namespace ReplySchema

structure Date where
  year : Nat
  month : Nat
  day : Nat
deriving DecidableEq

structure Moment where
  date : Date
  hour : Nat
  minute : Nat
  second : Nat
  micro : Nat
  zone : Option Int
deriving DecidableEq

namespace Date

def isLeap (year : Nat) : Bool := year % 4 = 0 && (year % 100 ≠ 0 || year % 400 = 0)

def daysIn (year month : Nat) : Nat :=
  if month = 2 then (if isLeap year then 29 else 28)
  else if month = 4 ∨ month = 6 ∨ month = 9 ∨ month = 11 then 30
  else 31

/-- The number of the day, counted from the first day of year one. -/
def dayNumber (d : Date) : Nat :=
  let years := d.year - 1
  let before := (List.range (d.month - 1)).foldl (fun days m => days + daysIn d.year (m + 1)) d.day
  365 * years + years / 4 - years / 100 + years / 400 + before

def check (d : Date) : Except Fault Date :=
  if d.year = 0 then .error ⟨.value, "year 0 is out of range"⟩
  else if d.month = 0 ∨ 12 < d.month then .error ⟨.value, "month must be in 1..12"⟩
  else if d.day = 0 ∨ daysIn d.year d.month < d.day then
    .error ⟨.value, "day is out of range for month"⟩
  else .ok d

def text (d : Date) : Text :=
  Numeral.padded 4 d.year ++ "-" ++ Numeral.padded 2 d.month ++ "-" ++ Numeral.padded 2 d.day

/-- The numbers of a date, separated by commas. -/
def numbers (d : Date) : List Text :=
  [Numeral.ofNat d.year, Numeral.ofNat d.month, Numeral.ofNat d.day]

def quoted (d : Date) : Text := "datetime.date(" ++ Text.join ", " d.numbers ++ ")"

end Date

namespace Moment

def minutesPerDay : Nat := 1440

/-- A distance in time as whole days and the seconds beyond them. -/
def distanceText (minutes : Int) : Text :=
  let days := minutes.fdiv minutesPerDay
  let seconds := 60 * minutes.fmod minutesPerDay
  let parts : List Text :=
    (if days = 0 then [] else ["days=" ++ Numeral.ofInt days]) ++
      (if seconds = 0 then [] else ["seconds=" ++ Numeral.ofInt seconds])
  let inside : Text := if parts.isEmpty then "0" else Text.join ", " parts
  "datetime.timedelta(" ++ inside ++ ")"

def checkZone (minutes : Int) : Except Fault Unit :=
  if minutes.natAbs < minutesPerDay then .ok ()
  else
    .error ⟨.value, "offset must be a timedelta strictly between -timedelta(hours=24) and " ++
      ("timedelta(hours=24), not " : Text) ++ distanceText minutes ++ "."⟩

def check (m : Moment) : Except Fault Moment := do
  match m.zone with
  | some minutes => checkZone minutes
  | none => pure ()
  let _ ← m.date.check
  if 23 < m.hour then .error ⟨.value, "hour must be in 0..23"⟩
  else if 59 < m.minute then .error ⟨.value, "minute must be in 0..59"⟩
  else if 59 < m.second then .error ⟨.value, "second must be in 0..59"⟩
  else .ok m

/-- The millionths of a second since the first year began, in universal time if the zone is known. -/
def instant (m : Moment) : Int :=
  let minutes : Int := 60 * (24 * m.date.dayNumber + m.hour) + m.minute - m.zone.getD 0
  1000000 * (60 * minutes + m.second) + m.micro

/-- Whether two moments are one instant; one without a zone is never the same as one with a zone. -/
def isSame (m n : Moment) : Bool := m.zone.isSome = n.zone.isSome && m.instant = n.instant

def zoneText (minutes : Int) : Text :=
  (if minutes < 0 then "-" else "+") ++ Numeral.padded 2 (minutes.natAbs / 60) ++ ":"
    ++ Numeral.padded 2 (minutes.natAbs % 60)

def text (m : Moment) : Text :=
  let micro : Text := if m.micro = 0 then [] else "." ++ Numeral.padded 6 m.micro
  m.date.text ++ " " ++ Numeral.padded 2 m.hour ++ ":" ++ Numeral.padded 2 m.minute ++ ":"
    ++ Numeral.padded 2 m.second ++ micro ++ (m.zone.map zoneText).getD []

def zoneQuoted (minutes : Int) : Text :=
  if minutes = 0 then "tzinfo=datetime.timezone.utc"
  else "tzinfo=datetime.timezone(" ++ distanceText minutes ++ ")"

/-- Seconds and their fractions are left out as long as nothing but zeros is. -/
def quoted (m : Moment) : Text :=
  let fine :=
    if m.micro ≠ 0 then [Numeral.ofNat m.second, Numeral.ofNat m.micro]
    else if m.second ≠ 0 then [Numeral.ofNat m.second]
    else []
  let parts := m.date.numbers ++ [Numeral.ofNat m.hour, Numeral.ofNat m.minute] ++ fine ++
    (m.zone.map zoneQuoted).toList
  "datetime.datetime(" ++ Text.join ", " parts ++ ")"

end Moment

end ReplySchema
