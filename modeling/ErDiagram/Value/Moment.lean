import ErDiagram.Text.Basic

set_option autoImplicit false

/-!
# Days and moments

A day is a year, a month and a day of the calendar that is in use, taken back to the year one.  A
moment is a time on a day, with a distance from universal time if it is known.  Moments whose distance
is known are the same if they happen at once.
-/

namespace ErDiagram

/-- A day of the calendar. -/
structure Day where
  year : Nat
  month : Nat
  day : Nat
  deriving DecidableEq, Repr, Inhabited

/-- A time on a day. -/
structure Moment where
  day : Day
  hour : Nat
  minute : Nat
  second : Nat
  micro : Nat
  /-- minutes that clocks there are ahead of universal time -/
  offset : Option Int
  deriving DecidableEq, Repr, Inhabited

/-- Why numbers make no day or no moment. -/
inductive CalendarFault where
  | year (n : Nat)
  | month
  | day
  | hour
  | minute
  | second
  /-- this many minutes are no distance between clocks -/
  | offset (minutes : Int)
  deriving DecidableEq, Repr, Inhabited

namespace Day

/-- The year has a day more. -/
def isLeap (year : Nat) : Bool := year % 4 == 0 && (year % 100 != 0 || year % 400 == 0)

/-- The days of a month. -/
def daysInMonth (year month : Nat) : Nat :=
  if month = 2 then (if isLeap year then 29 else 28)
  else if [4, 6, 9, 11].contains month then 30
  else 31

/-- The day of three numbers. -/
def make (year month day : Nat) : Except CalendarFault Day :=
  if year = 0 || 9999 < year then .error (.year year)
  else if month = 0 || 12 < month then .error .month
  else if day = 0 || daysInMonth year month < day then .error .day
  else .ok ⟨year, month, day⟩

/-- The days before this one since the year one began. -/
def number (d : Day) : Nat :=
  let y := d.year - 1
  let months := (List.range (d.month - 1)).map fun m => daysInMonth d.year (m + 1)
  365 * y + y / 4 - y / 100 + y / 400 + months.foldl (· + ·) 0 + (d.day - 1)

/-- Numbers with commas between them. -/
def showNumbers (numbers : List Nat) : Text := Text.join [',', ' '] (numbers.map Text.ofNat)

/-- A day as error texts show it. -/
def display (d : Day) : Text :=
  "datetime.date(".toList ++ showNumbers [d.year, d.month, d.day] ++ [')']

/-- A day as plain text. -/
def plain (d : Day) : Text :=
  Text.padded 10 4 d.year ++ '-' :: Text.padded 10 2 d.month ++ '-' :: Text.padded 10 2 d.day

end Day

namespace Moment

/-- The moment of a day and a time; distances from universal time are below a day. -/
def make (year month day hour minute second micro : Nat) (offset : Option Int) :
    Except CalendarFault Moment :=
  match offset.filter fun minutes => 1440 ≤ minutes.natAbs with
  | some minutes => .error (.offset minutes)
  | none =>
    match Day.make year month day with
    | .error fault => .error fault
    | .ok d =>
      if 23 < hour then .error .hour
      else if 59 < minute then .error .minute
      else if 59 < second then .error .second
      else .ok ⟨d, hour, minute, second, micro, offset⟩

/-- The microseconds since the year one began in universal time, or where the distance is not known, by
the clock that is meant. -/
def instant (m : Moment) : Int :=
  let seconds := 86400 * m.day.number + 3600 * m.hour + 60 * m.minute + m.second
  1000000 * ((seconds : Int) - 60 * m.offset.getD 0) + m.micro

/-- Two moments are the same. -/
def same (a b : Moment) : Bool := a.offset.isSome == b.offset.isSome && a.instant == b.instant

/-- A span of minutes as error texts show it. -/
def showSpan (minutes : Int) : Text :=
  let days := minutes.fdiv 1440
  let seconds := 60 * minutes.fmod 1440
  let parts :=
    (if days = 0 then [] else ["days=".toList ++ Text.ofInt days])
      ++ (if seconds = 0 then [] else ["seconds=".toList ++ Text.ofInt seconds])
  "datetime.timedelta(".toList ++ (if parts.isEmpty then ['0'] else Text.join [',', ' '] parts) ++ [')']

/-- A distance from universal time as error texts show it. -/
def showOffset (minutes : Int) : Text :=
  if minutes = 0 then "datetime.timezone.utc".toList
  else "datetime.timezone(".toList ++ showSpan minutes ++ [')']

/-- A moment as error texts show it. -/
def display (m : Moment) : Text :=
  let smallest :=
    if m.micro ≠ 0 then [m.second, m.micro] else if m.second ≠ 0 then [m.second] else []
  "datetime.datetime(".toList
    ++ Day.showNumbers ([m.day.year, m.day.month, m.day.day, m.hour, m.minute] ++ smallest)
    ++ m.offset.elim [] (fun minutes => ", tzinfo=".toList ++ showOffset minutes) ++ [')']

/-- A moment as plain text. -/
def plain (m : Moment) : Text :=
  let two := fun (n : Nat) => Text.padded 10 2 n
  m.day.plain ++ ' ' :: two m.hour ++ ':' :: two m.minute ++ ':' :: two m.second
    ++ (if m.micro = 0 then [] else '.' :: Text.padded 10 6 m.micro)
    ++ m.offset.elim [] fun minutes =>
      (if minutes < 0 then '-' else '+') :: two (minutes.natAbs / 60) ++ ':' :: two (minutes.natAbs % 60)

end Moment

/-- What is said about numbers that make no day or no moment. -/
def CalendarFault.message : CalendarFault → Text
  | .year n => "year ".toList ++ Text.ofNat n ++ " is out of range".toList
  | .month => "month must be in 1..12".toList
  | .day => "day is out of range for month".toList
  | .hour => "hour must be in 0..23".toList
  | .minute => "minute must be in 0..59".toList
  | .second => "second must be in 0..59".toList
  | .offset minutes =>
    "offset must be a timedelta strictly between -timedelta(hours=24) and timedelta(hours=24), not ".toList
      ++ Moment.showSpan minutes ++ ['.']

end ErDiagram
