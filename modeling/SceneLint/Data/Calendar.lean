/-!
# Dates and times of day

Dates of the Gregorian calendar, times of day and offsets from universal time, as configuration
files write them. `Date.check` and `Clock.check` name the part that is out of range. The texts are
those of the ISO standard; the call forms name every part for error messages.
-/

namespace SceneLint

/-- A `Date` is a day of the calendar. -/
structure Date where
  year : Nat
  month : Nat
  day : Nat
deriving DecidableEq

/-- A `Clock` is a time of day, to the microsecond. -/
structure Clock where
  hour : Nat
  minute : Nat
  second : Nat
  microsecond : Nat
deriving DecidableEq

/-- A `CalendarFault` names the part of a date or time that is out of range. -/
inductive CalendarFault where
  | year (n : Nat)
  | month
  | day
  | hour
  | minute
  | second
  | offset (seconds : Int)
deriving DecidableEq

namespace Calendar

/-- `isLeap y` says that the year has a day more. -/
def isLeap (y : Nat) : Bool :=
  y % 4 == 0 && (y % 100 != 0 || y % 400 == 0)

/-- `daysIn y m` is the number of days of a month. -/
def daysIn (y m : Nat) : Nat :=
  if m = 2 then (if isLeap y then 29 else 28)
  else if m = 4 || m = 6 || m = 9 || m = 11 then 30
  else 31

/-- `padded width n` writes `n` with at least `width` digits. -/
def padded (width n : Nat) : String :=
  let ds := Nat.toDigits 10 n
  String.ofList (List.replicate (width - ds.length) '0' ++ ds)

/-- `commaList ns` writes the numbers with a comma and a blank between them. -/
def commaList : List Nat → String
  | [] => ""
  | [n] => toString n
  | n :: ns => toString n ++ ", " ++ commaList ns

/-- `daySeconds` is the number of seconds of a day. -/
def daySeconds : Int := 86400

/-- `offsetText seconds` writes an offset with its sign, and the seconds only if there are any. -/
def offsetText (seconds : Int) : String :=
  let n := seconds.natAbs
  let clock := padded 2 (n / 3600) ++ ":" ++ padded 2 (n / 60 % 60)
  let tail := if n % 60 = 0 then "" else ":" ++ padded 2 (n % 60)
  (if seconds < 0 then "-" else "+") ++ clock ++ tail

/-- `spanCall seconds` is the call form of a span of time. -/
def spanCall (seconds : Int) : String :=
  let days := seconds.fdiv daySeconds
  let rest := seconds.fmod daySeconds
  let parts :=
    (if days = 0 then [] else ["days=" ++ toString days]) ++
      (if rest = 0 then [] else ["seconds=" ++ toString rest])
  match parts with
  | [] => "datetime.timedelta(0)"
  | [part] => "datetime.timedelta(" ++ part ++ ")"
  | part :: rest => "datetime.timedelta(" ++ rest.foldl (fun s p => s ++ ", " ++ p) part ++ ")"

/-- `offsetCall seconds` is the call form of an offset. -/
def offsetCall (seconds : Int) : String :=
  if seconds = 0 then "datetime.timezone.utc" else "datetime.timezone(" ++ spanCall seconds ++ ")"

end Calendar

open Calendar

/-- `CalendarFault.text` says which part is out of range. -/
def CalendarFault.text : CalendarFault → String
  | .year n => "year " ++ toString n ++ " is out of range"
  | .month => "month must be in 1..12"
  | .day => "day is out of range for month"
  | .hour => "hour must be in 0..23"
  | .minute => "minute must be in 0..59"
  | .second => "second must be in 0..59"
  | .offset seconds =>
      "offset must be a timedelta strictly between -timedelta(hours=24) and " ++
        "timedelta(hours=24), not " ++ spanCall seconds ++ "."

namespace Date

/-- `check d` is the first part of a date that is out of range. -/
def check (d : Date) : Option CalendarFault :=
  if d.year = 0 then some (.year d.year)
  else if d.month = 0 || 12 < d.month then some .month
  else if d.day = 0 || daysIn d.year d.month < d.day then some .day
  else none

/-- `text d` is the ISO form of a date. -/
def text (d : Date) : String :=
  padded 4 d.year ++ "-" ++ padded 2 d.month ++ "-" ++ padded 2 d.day

/-- `call d` is the call form of a date. -/
def call (d : Date) : String :=
  "datetime.date(" ++ commaList [d.year, d.month, d.day] ++ ")"

end Date

namespace Clock

/-- `check t` is the first part of a time that is out of range. -/
def check (t : Clock) : Option CalendarFault :=
  if 23 < t.hour then some .hour
  else if 59 < t.minute then some .minute
  else if 59 < t.second then some .second
  else none

/-- `text t` is the ISO form of a time, with a fraction only if there is one. -/
def text (t : Clock) : String :=
  let clock := padded 2 t.hour ++ ":" ++ padded 2 t.minute ++ ":" ++ padded 2 t.second
  if t.microsecond = 0 then clock else clock ++ "." ++ padded 6 t.microsecond

/-- `parts t` lists hour and minute, and the second and microsecond up to the last that counts. -/
def parts (t : Clock) : List Nat :=
  [t.hour, t.minute] ++
    (if t.microsecond ≠ 0 then [t.second, t.microsecond]
     else if t.second ≠ 0 then [t.second]
     else [])

/-- `call t` is the call form of a time. -/
def call (t : Clock) : String :=
  "datetime.time(" ++ commaList t.parts ++ ")"

end Clock

/-- A `Moment` is a date with a time and, when it is known, the offset from universal time. -/
structure Moment where
  date : Date
  clock : Clock
  offset : Option Int
deriving DecidableEq

namespace Moment

/-- `text m` is the ISO form of a moment with a blank between date and time. -/
def text (m : Moment) : String :=
  m.date.text ++ " " ++ m.clock.text ++
    (match m.offset with
     | none => ""
     | some seconds => offsetText seconds)

/-- `call m` is the call form of a moment. -/
def call (m : Moment) : String :=
  let zone :=
    match m.offset with
    | none => ""
    | some seconds => ", tzinfo=" ++ offsetCall seconds
  "datetime.datetime(" ++ commaList ([m.date.year, m.date.month, m.date.day] ++ m.clock.parts) ++
    zone ++ ")"

end Moment

end SceneLint
