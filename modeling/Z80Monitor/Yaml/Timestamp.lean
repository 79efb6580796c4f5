import Z80Monitor.Calendar.Basic

/-!
# Timestamps of YAML

How a day and a moment are written in YAML: a day with hyphens, and behind it a time of the day
with colons, a fraction of the second and an offset from UTC.
-/

namespace Z80Monitor.Yaml

open Calendar

/-- Take a number of at least `least` and at most `most` digits from the front of a text. -/
def takeNumber? (least most : Nat) (text : List Char) : Option (Nat × List Char) :=
  let digits := (text.take most).takeWhile Char.isDigit
  if digits.length < least then none
  else some (Nat.ofDigitChars 10 digits 0, text.drop digits.length)

/-- Take a character from the front of a text. -/
def takeMark? (mark : Char) : List Char → Option (List Char)
  | [] => none
  | char :: rest => if char = mark then some rest else none

/-- Whether a character is a space or a tab. -/
def isGap (char : Char) : Bool := char == ' ' || char == '\t'

/-- The day at the front of a text. -/
def takeDate? (text : List Char) : Option (Date × List Char) := do
  let (year, rest) ← takeNumber? 4 4 text
  let rest ← takeMark? '-' rest
  let (month, rest) ← takeNumber? 1 2 rest
  let rest ← takeMark? '-' rest
  let (day, rest) ← takeNumber? 1 2 rest
  return (⟨year, month, day⟩, rest)

/-- The text behind what separates a day from the time of the day. -/
def behindSeparator? : List Char → Option (List Char)
  | [] => none
  | mark :: rest =>
    if mark == 'T' || mark == 't' then some rest
    else if isGap mark then some (rest.dropWhile isGap)
    else none

/-- The offset that a text behind the time of the day states: none where the text is empty. -/
def readOffset? (text : List Char) : Option (Option Int) :=
  match text.dropWhile isGap with
  | [] => if text.isEmpty then some none else none
  | ['Z'] => some (some 0)
  | sign :: rest =>
    if sign == '+' || sign == '-' then do
      let (hours, rest) ← takeNumber? 1 2 rest
      let (minutes, rest) ← if rest.isEmpty then some (0, [])
        else (takeMark? ':' rest).bind (takeNumber? 2 2)
      let offset : Int := (hours * 60 + minutes : Nat)
      if rest.isEmpty then some (some (if sign == '-' then -offset else offset)) else none
    else none

/-- The microseconds that the digits behind a decimal point denote; further digits are cut. -/
def microsecondsOf (digits : List Char) : Nat :=
  Nat.ofDigitChars 10 (digits.take 6 ++ List.replicate (6 - digits.length) '0') 0

/-- The moment with a day and a text for the time of the day. -/
def readTime? (date : Date) (text : List Char) : Option Moment := do
  let (hour, rest) ← takeNumber? 1 2 text
  let rest ← takeMark? ':' rest
  let (minute, rest) ← takeNumber? 2 2 rest
  let rest ← takeMark? ':' rest
  let (second, rest) ← takeNumber? 2 2 rest
  let (digits, rest) := match rest with
    | '.' :: behind => (behind.takeWhile Char.isDigit, behind.dropWhile Char.isDigit)
    | rest => ([], rest)
  let offset ← readOffset? rest
  return { date, hour, minute, second, microsecond := microsecondsOf digits, offset }

/-- The timestamp that a text denotes. -/
def readTimestamp? (text : List Char) : Option Timestamp := do
  let (date, rest) ← takeDate? text
  if rest.isEmpty then return .day date
  else return .instant (← (behindSeparator? rest).bind (readTime? date))

/-- Whether a text is a timestamp by its form: a day by itself has ten characters. -/
def isTimestamp (text : List Char) : Bool :=
  match readTimestamp? text with
  | some (.day _) => text.length == 10
  | some (.instant _) => true
  | none => false

end Z80Monitor.Yaml
