/-! Dates and moments. A moment is a date with a time of day, and it may tell how far the
clock is ahead of universal time. Numbers that are in no calendar are refused, the
first of them that is wrong. -/

namespace DocSite

/-- A date with a time of day to the millionth of a second. The offset of the clock from
universal time is given in minutes. -/
structure Moment where
  year : Nat
  month : Nat
  day : Nat
  hour : Nat
  minute : Nat
  second : Nat
  millionths : Nat
  offset : Option Int
deriving DecidableEq, Repr

namespace Calendar

/-- What keeps numbers from being a date or a moment. -/
inductive Fault
  | year
  | month
  | day
  | hour
  | minute
  | second
  | offset (minutes : Int)
deriving DecidableEq, Repr

/-- A span of time as it is written in full: days, and seconds of a day. -/
def spanText (minutes : Int) : String :=
  let days := minutes / 1440
  let seconds := minutes % 1440 * 60
  let parts := (if days == 0 then [] else ["days=" ++ toString days]) ++
    (if seconds == 0 then [] else ["seconds=" ++ toString seconds])
  "datetime.timedelta(" ++ (if parts.isEmpty then "0" else ", ".intercalate parts) ++ ")"

def Fault.message : Fault → String
  | .year => "year 0 is out of range"
  | .month => "month must be in 1..12"
  | .day => "day is out of range for month"
  | .hour => "hour must be in 0..23"
  | .minute => "minute must be in 0..59"
  | .second => "second must be in 0..59"
  | .offset minutes =>
    "offset must be a timedelta strictly between -timedelta(hours=24) and timedelta(hours=24), " ++
      "not " ++ spanText minutes ++ "."

def daysIn (year month : Nat) : Nat :=
  if month == 2 then
    if year % 4 == 0 && (year % 100 != 0 || year % 400 == 0) then 29 else 28
  else if [4, 6, 9, 11].contains month then 30 else 31

def checkDate (year month day : Nat) : Except Fault Unit :=
  if year == 0 then .error .year
  else if month == 0 || 12 < month then .error .month
  else if day == 0 || daysIn year month < day then .error .day
  else .ok ()

/-- Refuses an offset of a day or more. -/
def checkOffset (offset : Option Int) : Except Fault Unit :=
  match offset with
  | some minutes => if 1440 ≤ minutes.natAbs then .error (.offset minutes) else .ok ()
  | none => .ok ()

/-- Refuses a moment that cannot be. -/
def check (m : Moment) : Except Fault Unit := do
  checkOffset m.offset
  checkDate m.year m.month m.day
  if 23 < m.hour then throw .hour
  if 59 < m.minute then throw .minute
  if 59 < m.second then throw .second

/-- A number in at least `width` digits. -/
def padded (width n : Nat) : String :=
  let digits := (Nat.repr n).toList
  .ofList (List.replicate (width - digits.length) '0' ++ digits)

def dateText (year month day : Nat) : String :=
  padded 4 year ++ "-" ++ padded 2 month ++ "-" ++ padded 2 day

end Calendar

namespace Moment

open Calendar

def offsetText (minutes : Int) : String :=
  (if minutes < 0 then "-" else "+") ++ padded 2 (minutes.natAbs / 60) ++ ":" ++
    padded 2 (minutes.natAbs % 60)

/-- A moment as text. Zero millionths are left out. -/
def text (m : Moment) : String :=
  dateText m.year m.month m.day ++ " " ++ padded 2 m.hour ++ ":" ++ padded 2 m.minute ++ ":" ++
    padded 2 m.second ++ (if m.millionths == 0 then "" else "." ++ padded 6 m.millionths) ++
    (m.offset.map offsetText).getD ""

def offsetInFull (minutes : Int) : String :=
  if minutes == 0 then "datetime.timezone.utc"
  else "datetime.timezone(" ++ spanText minutes ++ ")"

/-- A moment in full, as it stands inside a list or a mapping. Zero seconds and zero
millionths at the end are left out. -/
def inFull (m : Moment) : String :=
  let small := if m.millionths != 0 then [m.second, m.millionths]
    else if m.second != 0 then [m.second] else []
  let numbers := [m.year, m.month, m.day, m.hour, m.minute] ++ small
  let zone := (m.offset.map fun o => ["tzinfo=" ++ offsetInFull o]).getD []
  "datetime.datetime(" ++ ", ".intercalate (numbers.map toString ++ zone) ++ ")"

end Moment

end DocSite
