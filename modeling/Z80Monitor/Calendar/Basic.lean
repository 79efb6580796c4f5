/-!
# Days and moments

Days and moments of the calendar, which of them exist, and which are the same. A moment may say
how far its clock is ahead of UTC; two moments that do are the same where they are the same
instant.
-/

namespace Z80Monitor.Calendar

/-- A day of the calendar. -/
structure Date where
  /-- The year. -/
  year : Nat
  /-- The month, counted from 1. -/
  month : Nat
  /-- The day of the month, counted from 1. -/
  day : Nat
  deriving DecidableEq, Repr

/-- A moment of a day. -/
structure Moment where
  /-- The day. -/
  date : Date
  /-- The hour. -/
  hour : Nat
  /-- The minute. -/
  minute : Nat
  /-- The second. -/
  second : Nat
  /-- The microsecond. -/
  microsecond : Nat
  /-- How many minutes the clock is ahead of UTC, where that is said. -/
  offset : Option Int
  deriving DecidableEq, Repr

/-- A day, or a moment of one. -/
inductive Timestamp where
  /-- A day. -/
  | day (date : Date)
  /-- A moment. -/
  | instant (moment : Moment)
  deriving DecidableEq, Repr

/-- Why a timestamp that is well formed does not exist. -/
inductive CalendarFault where
  /-- There is no such year. -/
  | noYear (year : Nat)
  /-- There is no such month. -/
  | noMonth
  /-- The month has no such day. -/
  | noDay
  /-- There is no such hour. -/
  | noHour
  /-- There is no such minute. -/
  | noMinute
  /-- There is no such second. -/
  | noSecond
  /-- A clock is never a day or more ahead of UTC or behind it. -/
  | noOffset (minutes : Int)
  deriving DecidableEq, Repr

/-- Whether a year has a 29th of February. -/
def isLeapYear (year : Nat) : Bool := year % 4 == 0 && (year % 100 != 0 || year % 400 == 0)

/-- The number of days of a month. -/
def daysOfMonth (year month : Nat) : Nat :=
  if month = 2 then (if isLeapYear year then 29 else 28)
  else if [4, 6, 9, 11].contains month then 30
  else 31

/-- Make sure that a day exists. -/
def Date.check (date : Date) : Except CalendarFault Unit :=
  if date.year = 0 then .error (.noYear date.year)
  else if date.month = 0 || 12 < date.month then .error .noMonth
  else if date.day = 0 || daysOfMonth date.year date.month < date.day then .error .noDay
  else .ok ()

/-- Make sure that a moment exists. -/
def Moment.check (moment : Moment) : Except CalendarFault Unit := do
  match moment.offset with
  | some minutes => if 24 * 60 ≤ minutes.natAbs then .error (.noOffset minutes) else .ok ()
  | none => .ok ()
  moment.date.check
  if 24 ≤ moment.hour then .error .noHour
  else if 60 ≤ moment.minute then .error .noMinute
  else if 60 ≤ moment.second then .error .noSecond
  else .ok ()

/-- Make sure that a timestamp exists. -/
def Timestamp.check : Timestamp → Except CalendarFault Unit
  | .day date => date.check
  | .instant moment => moment.check

/-- The number of a day, counted from the first day of the year 1. -/
def Date.ordinal (date : Date) : Nat :=
  let years := date.year - 1
  let earlier := (List.range (date.month - 1)).foldl
    (fun days month => days + daysOfMonth date.year (month + 1)) 0
  years * 365 + years / 4 - years / 100 + years / 400 + earlier + date.day

/-- The number of a minute on a clock that shows UTC. -/
def Moment.minuteNumber (moment : Moment) (offset : Int) : Int :=
  ((moment.date.ordinal * 24 + moment.hour) * 60 + moment.minute : Nat) - offset

/-- Whether two moments are the same. -/
def Moment.same (left right : Moment) : Bool :=
  match left.offset, right.offset with
  | some offset, some offset' =>
    left.minuteNumber offset == right.minuteNumber offset' &&
      left.second == right.second && left.microsecond == right.microsecond
  | _, _ => left == right

/-- Whether two timestamps are the same. -/
def Timestamp.same : Timestamp → Timestamp → Bool
  | .day left, .day right => left == right
  | .instant left, .instant right => left.same right
  | _, _ => false

end Z80Monitor.Calendar
