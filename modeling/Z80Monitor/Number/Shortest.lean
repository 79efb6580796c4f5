import Z80Monitor.Number.Binary64
import Z80Monitor.Text.Hexadecimal

/-!
# Shortest decimal text

The decimal notation of a floating-point number with the fewest digits that read back as the
number, and of those the nearest to it. A grid of decimals with a fixed last place has a point
that reads back exactly when one of the two points next to the number does.
-/

namespace Z80Monitor

/-- A decimal number `0.digits * 10 ^ place`. -/
structure ShortDecimal where
  /-- The digits, the first of which is not zero. -/
  digits : Nat
  /-- Where the point stands, counted from the front of the digits. -/
  place : Int
  deriving DecidableEq, Repr

/-- The decimals that read back as a positive number, over a common denominator. -/
structure RoundingInterval where
  /-- The least numerator. -/
  low : Nat
  /-- The numerator of the number itself. -/
  value : Nat
  /-- The greatest numerator. -/
  high : Nat
  /-- The common denominator. -/
  denominator : Nat
  /-- Whether the ends belong to the interval. -/
  closed : Bool

namespace RoundingInterval

/-- The interval around `significand * 2 ^ exponent`. The lower end is nearer where the number
below has a lower exponent. -/
def around (significand : Nat) (exponent : Int) : RoundingInterval :=
  let (factor, divisor) := Binary64.scaled 1 exponent
  let below := if significand == Nat.pow 2 52 && Binary64.leastExponent < exponent then 1 else 2
  { low := (4 * significand - below) * factor
    value := 4 * significand * factor
    high := (4 * significand + 2) * factor
    denominator := 4 * divisor
    closed := significand % 2 == 0 }

/-- Whether the decimal `digits * 10 ^ unit` lies in an interval. -/
def contains (interval : RoundingInterval) (digits : Nat) (unit : Int) : Bool :=
  let numerator := digits * Nat.pow 10 unit.toNat * interval.denominator
  let scale := Nat.pow 10 (-unit).toNat
  if interval.closed then interval.low * scale ≤ numerator && numerator ≤ interval.high * scale
  else interval.low * scale < numerator && numerator < interval.high * scale

/-- The place of the first digit of the number: the least `place` with the number below
`10 ^ place`. -/
def placeOf (interval : RoundingInterval) : Int :=
  if interval.denominator ≤ interval.value then
    (Nat.toDigits 10 (interval.value / interval.denominator)).length
  else
    let shift := (List.range 400).find? fun shift =>
      interval.denominator ≤ interval.value * Nat.pow 10 shift
    1 - (shift.getD 0 : Int)

/-- The point of the grid with last place `unit` that reads back, the nearer of two, and of two
equally near ones the even one. -/
def pointOn? (interval : RoundingInterval) (unit : Int) : Option Nat :=
  let numerator := interval.value * Nat.pow 10 (-unit).toNat
  let denominator := interval.denominator * Nat.pow 10 unit.toNat
  let below := numerator / denominator
  let rest := 2 * (numerator % denominator)
  let nearBelow := rest < denominator || (rest == denominator && below % 2 == 0)
  match interval.contains below unit, interval.contains (below + 1) unit with
  | true, true => some (if nearBelow then below else below + 1)
  | true, false => some below
  | false, true => some (below + 1)
  | false, false => none

end RoundingInterval

namespace Binary64

/-- The decimal with the fewest digits that reads back as `significand * 2 ^ exponent`. -/
def shortest (significand : Nat) (exponent : Int) : ShortDecimal :=
  let interval := RoundingInterval.around significand exponent
  let place := interval.placeOf
  let found := ((List.range 17).map fun (count : Nat) => place - count - 1).findSome? fun unit =>
    (interval.pointOn? unit).map fun digits => (digits, unit)
  match found with
  | some (digits, unit) => ⟨digits, (Nat.toDigits 10 digits).length + unit⟩
  | none => ⟨0, 0⟩

/-- The digits of a positive decimal without zeros at the end. -/
def significantDigits (decimal : ShortDecimal) : List Char :=
  ((Nat.toDigits 10 decimal.digits).reverse.dropWhile (· == '0')).reverse

/-- The notation of a positive decimal: with a point and at least one digit on either side from
`10 ^ -4` up to below `10 ^ 16`, and with an exponent of at least two digits elsewhere. -/
def positional (decimal : ShortDecimal) : List Char :=
  let digits := significantDigits decimal
  let place := decimal.place
  if -4 < place && place ≤ 16 then
    if place ≤ 0 then ['0', '.'] ++ List.replicate (-place).toNat '0' ++ digits
    else
      let whole := digits.take place.toNat
      let part := digits.drop place.toNat
      whole ++ List.replicate (place.toNat - whole.length) '0' ++ ['.'] ++
        (if part.isEmpty then ['0'] else part)
  else
    let exponent := place - 1
    let size := Nat.toDigits 10 exponent.natAbs
    digits.take 1 ++ (if digits.length ≤ 1 then [] else '.' :: digits.drop 1) ++ ['e'] ++
      [if exponent < 0 then '-' else '+'] ++ List.replicate (2 - size.length) '0' ++ size

/-- The text of a number. -/
def text : Binary64 → List Char
  | .nan => "nan".toList
  | .infinite negative => (if negative then ['-'] else []) ++ "inf".toList
  | .finite negative significand exponent =>
    (if negative then ['-'] else []) ++
      if significand = 0 then "0.0".toList else positional (shortest significand exponent)

end Binary64

end Z80Monitor
