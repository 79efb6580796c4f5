/-!
# Floating-point numbers of 64 bits

Numbers of the format binary64 as a sign, a significand below `2 ^ 53` and a power of two, with
exact rounding from fractions and from decimal notation. Everything is computed with integers.
-/

namespace Z80Monitor

/-- A number of the format binary64. -/
inductive Binary64 where
  /-- Not a number. -/
  | nan
  /-- Infinity of either sign. -/
  | infinite (negative : Bool)
  /-- The number `significand * 2 ^ exponent`, negated where `negative` says so. The significand
  is below `2 ^ 53`, and at least `2 ^ 52` unless the exponent is the least one. -/
  | finite (negative : Bool) (significand : Nat) (exponent : Int)
  deriving DecidableEq, Repr

namespace Binary64

/-- The least exponent. -/
def leastExponent : Int := -1074

/-- The greatest exponent. -/
def greatestExponent : Int := 971

/-- The quotient rounded to the nearest integer, ties to the even one. -/
def roundDiv (numerator denominator : Nat) : Nat :=
  let quotient := numerator / denominator
  let rest := 2 * (numerator % denominator)
  if denominator < rest || (rest == denominator && quotient % 2 == 1) then quotient + 1
  else quotient

/-- A natural number times a power of two as a fraction. -/
def scaled (value : Nat) (exponent : Int) : Nat × Nat :=
  if 0 ≤ exponent then (value * Nat.pow 2 exponent.toNat, 1)
  else (value, Nat.pow 2 (-exponent).toNat)

/-- A fraction in units of a power of two. -/
def inUnits (numerator denominator : Nat) (exponent : Int) : Nat × Nat :=
  if 0 ≤ exponent then (numerator, denominator * Nat.pow 2 exponent.toNat)
  else (numerator * Nat.pow 2 (-exponent).toNat, denominator)

/-- The exponent for which a positive fraction has a significand of 53 bits before rounding, or
the least one. -/
def exponentFor (numerator denominator : Nat) : Int :=
  let guess : Int := (numerator.log2 : Int) - denominator.log2 - 52
  let (units, unit) := inUnits numerator denominator guess
  max leastExponent (if units / unit < Nat.pow 2 52 then guess - 1 else guess)

/-- The number nearest to a fraction, ties to the even significand. -/
def ofFraction (negative : Bool) (numerator denominator : Nat) : Binary64 :=
  if numerator = 0 then .finite negative 0 leastExponent
  else
    let exponent := exponentFor numerator denominator
    let (units, unit) := inUnits numerator denominator exponent
    let significand := roundDiv units unit
    let (significand, exponent) :=
      if significand < Nat.pow 2 53 then (significand, exponent) else (Nat.pow 2 52, exponent + 1)
    if greatestExponent < exponent then .infinite negative
    else .finite negative significand exponent

/-- The number nearest to `digits * 10 ^ exponent`. Beyond the range of the format the powers of
ten are not computed. -/
def ofDecimal (negative : Bool) (digits : Nat) (exponent : Int) : Binary64 :=
  let magnitude : Int := (Nat.toDigits 10 digits).length + exponent
  if digits = 0 || magnitude < -400 then .finite negative 0 leastExponent
  else if 400 < magnitude then .infinite negative
  else if 0 ≤ exponent then ofFraction negative (digits * Nat.pow 10 exponent.toNat) 1
  else ofFraction negative digits (Nat.pow 10 (-exponent).toNat)

/-- Whether a number is zero of either sign. -/
def isZero : Binary64 → Bool
  | .finite _ significand _ => significand == 0
  | _ => false

/-- The integer that a number equals. -/
def toInt? : Binary64 → Option Int
  | .finite negative significand exponent =>
    let (numerator, denominator) := scaled significand exponent
    if numerator % denominator = 0 then
      let magnitude : Int := (numerator / denominator : Nat)
      some (if negative then -magnitude else magnitude)
    else none
  | _ => none

/-- Equality of numbers: the zeros are equal, and what is not a number equals nothing. -/
def same : Binary64 → Binary64 → Bool
  | .nan, _ => false
  | _, .nan => false
  | left, right => (left.isZero && right.isZero) || left == right

/-- The number with the opposite sign. -/
def negate : Binary64 → Binary64
  | .nan => .nan
  | .infinite negative => .infinite !negative
  | .finite negative significand exponent => .finite (!negative) significand exponent

/-- Whether a number has a minus sign. -/
def isNegative : Binary64 → Bool
  | .nan => false
  | .infinite negative => negative
  | .finite negative _ _ => negative

/-- The number nearest to a natural number, if that is in the range of the format. -/
def ofNat? (value : Nat) : Option Binary64 :=
  match ofFraction false value 1 with
  | .finite negative significand exponent => some (.finite negative significand exponent)
  | _ => none

/-- The number nearest to `value * 2 ^ exponent`, where `negative` is the sign of a zero. -/
def ofScaled (negative : Bool) (value : Int) (exponent : Int) : Binary64 :=
  let (numerator, denominator) := scaled value.natAbs exponent
  ofFraction (if value = 0 then negative else value < 0) numerator denominator

/-- The significand with its sign. -/
def signedSignificand (negative : Bool) (significand : Nat) : Int :=
  if negative then -(significand : Int) else significand

/-- The rounded product. Infinity times zero is not a number. -/
def multiply (left right : Binary64) : Binary64 :=
  let negative := left.isNegative != right.isNegative
  match left, right with
  | .nan, _ | _, .nan => .nan
  | .finite _ value exponent, .finite _ value' exponent' =>
    ofScaled negative
      (signedSignificand negative (value * value')) (exponent + exponent')
  | left, right => if left.isZero || right.isZero then .nan else .infinite negative

/-- The rounded sum. Infinities of both signs have none, and a zero is negative only where both
numbers are. -/
def add (left right : Binary64) : Binary64 :=
  match left, right with
  | .nan, _ | _, .nan => .nan
  | .infinite negative, .infinite negative' =>
    if negative == negative' then .infinite negative else .nan
  | .infinite negative, _ | _, .infinite negative => .infinite negative
  | .finite negative value exponent, .finite negative' value' exponent' =>
    let least := min exponent exponent'
    let first := signedSignificand negative value * Nat.pow 2 (exponent - least).toNat
    let second := signedSignificand negative' value' * Nat.pow 2 (exponent' - least).toNat
    ofScaled (negative && negative') (first + second) least

/-- The sum of places, the least significant first, each times its power of the base. A power
beyond the range of the format has no product. -/
def sumOfPlaces? (base unit : Nat) (sum : Binary64) : List Binary64 → Option Binary64
  | [] => some sum
  | place :: rest =>
    match ofNat? unit with
    | some factor => sumOfPlaces? base (unit * base) (sum.add (place.multiply factor)) rest
    | none => none

/-- The number that places denote in a base, the most significant first, rounded after every
operation. -/
def ofPlaces? (base : Nat) (places : List Binary64) : Option Binary64 :=
  sumOfPlaces? base 1 (.finite false 0 leastExponent) places.reverse

end Binary64

end Z80Monitor
