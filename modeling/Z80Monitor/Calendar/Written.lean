import Z80Monitor.Calendar.Basic
import Z80Monitor.Text.Hexadecimal
import Z80Monitor.Text.Pieces

/-!
# Days and moments as text

How days and moments are written in messages, by themselves and inside other values, and the
wording where one does not exist.
-/

namespace Z80Monitor.Calendar

/-- A number in base 10 with at least `width` digits. -/
def padded (width value : Nat) : List Char := Text.zeroFilled width [] (Nat.toDigits 10 value)

/-- A number in base 10. -/
def numeral (value : Nat) : List Char := Nat.toDigits 10 value

/-- A day by itself. -/
def Date.bare (date : Date) : List Char :=
  ['-'].intercalate [padded 4 date.year, padded 2 date.month, padded 2 date.day]

/-- The numbers of a day. -/
def Date.numbers (date : Date) : List Nat := [date.year, date.month, date.day]

/-- A day inside another value. -/
def Date.literal (date : Date) : List Char :=
  "datetime.date(".toList ++ Text.commaList (date.numbers.map numeral) ++ [')']

/-- A duration in whole minutes: days, and seconds of a day. -/
def durationLiteral (minutes : Int) : List Char :=
  let days := minutes / (24 * 60)
  let seconds := minutes % (24 * 60) * 60
  let parts :=
    (if days = 0 then [] else ["days=".toList ++ Text.decimal days]) ++
      (if seconds = 0 then [] else ["seconds=".toList ++ Text.decimal seconds])
  "datetime.timedelta(".toList ++ (if parts.isEmpty then ['0'] else Text.commaList parts) ++ [')']

/-- An offset behind the time of the day. -/
def offsetText (minutes : Int) : List Char :=
  [if minutes < 0 then '-' else '+'] ++ padded 2 (minutes.natAbs / 60) ++ [':'] ++
    padded 2 (minutes.natAbs % 60)

/-- An offset inside another value. -/
def offsetLiteral (minutes : Int) : List Char :=
  if minutes = 0 then "datetime.timezone.utc".toList
  else "datetime.timezone(".toList ++ durationLiteral minutes ++ [')']

/-- A moment by itself. -/
def Moment.bare (moment : Moment) : List Char :=
  moment.date.bare ++ [' '] ++
    [':'].intercalate [padded 2 moment.hour, padded 2 moment.minute, padded 2 moment.second] ++
    (if moment.microsecond = 0 then [] else '.' :: padded 6 moment.microsecond) ++
    (moment.offset.map offsetText).getD []

/-- The numbers of a moment, without zeros at the end for the second and what is below it. -/
def Moment.numbers (moment : Moment) : List Nat :=
  moment.date.numbers ++ [moment.hour, moment.minute] ++
    (if moment.microsecond = 0 then (if moment.second = 0 then [] else [moment.second])
      else [moment.second, moment.microsecond])

/-- A moment inside another value. -/
def Moment.literal (moment : Moment) : List Char :=
  "datetime.datetime(".toList ++
    Text.commaList (moment.numbers.map numeral ++
      (moment.offset.map fun minutes => "tzinfo=".toList ++ offsetLiteral minutes).toList) ++ [')']

/-- A timestamp by itself. -/
def Timestamp.bare : Timestamp → List Char
  | .day date => date.bare
  | .instant moment => moment.bare

/-- A timestamp inside another value. -/
def Timestamp.literal : Timestamp → List Char
  | .day date => date.literal
  | .instant moment => moment.literal

/-- The wording of a fault. -/
def CalendarFault.message : CalendarFault → List Char
  | .noYear year => "year ".toList ++ numeral year ++ " is out of range".toList
  | .noMonth => "month must be in 1..12".toList
  | .noDay => "day is out of range for month".toList
  | .noHour => "hour must be in 0..23".toList
  | .noMinute => "minute must be in 0..59".toList
  | .noSecond => "second must be in 0..59".toList
  | .noOffset minutes =>
    ("offset must be a timedelta strictly between -timedelta(hours=24) and " ++
      "timedelta(hours=24), not ").toList ++ durationLiteral minutes ++ ['.']

end Z80Monitor.Calendar
