/-
This file defines binary64 numbers by their exact values. Every operation computes the exact
result in integers and rounds it once.
-/

namespace CheckpointReport

/-- A finite number is the significand times two to the exponent, with a sign. The significand
has 53 bits, or fewer at the least exponent. What is no number has an origin, which tells it from
others of its kind. -/
inductive Binary64 where
  | nan (origin : List Nat)
  | infinite (negative : Bool)
  | finite (negative : Bool) (significand : Nat) (exponent : Int)
  deriving DecidableEq, Repr

namespace Binary64

/-- What is no number comes from a computation or a text unless another origin is given. -/
def invalid : Binary64 := .nan []

def isNan : Binary64 → Bool
  | .nan _ => true
  | _ => false

/-- Only what is no number can be told from its copies. -/
def renewed (origin : List Nat) : Binary64 → Binary64
  | .nan _ => .nan origin
  | number => number

def leastExponent : Int := -1074

def greatestExponent : Int := 971

/-- The hidden bit is the least significand of a number above the least exponent. -/
def hiddenBit : Nat := Nat.pow 2 52

def zero (negative : Bool) : Binary64 := .finite negative 0 leastExponent

/-- This function rounds a quotient to the nearest integer, and a half to the even integer. -/
def nearest (numerator denominator : Nat) : Nat :=
  let below := numerator / denominator
  let rest := 2 * (numerator % denominator)
  if rest < denominator ∨ (rest = denominator ∧ below % 2 = 0) then below else below + 1

/-- This pair is the quotient divided by two to the exponent. -/
def shifted (numerator denominator : Nat) (exponent : Int) : Nat × Nat :=
  (numerator * Nat.pow 2 (-exponent).toNat, denominator * Nat.pow 2 exponent.toNat)

/-- The exponent leaves 53 bits before the point, or is the least exponent. -/
def exponentOf (numerator denominator : Nat) : Int :=
  let low := max ((numerator.log2 : Int) - denominator.log2 - 53) leastExponent
  let pair := shifted numerator denominator low
  if pair.1 / pair.2 < 2 * hiddenBit then low else low + 1

/-- A significand that was rounded up to 54 bits moves to the next exponent. -/
def normalized (negative : Bool) (significand : Nat) (exponent : Int) : Binary64 :=
  let carried := if significand = 2 * hiddenBit then exponent + 1 else exponent
  let kept := if significand = 2 * hiddenBit then hiddenBit else significand
  if greatestExponent < carried then .infinite negative else .finite negative kept carried

/-- This function rounds an exact quotient to the nearest binary64 number. -/
def ofQuotient (negative : Bool) (numerator denominator : Nat) : Binary64 :=
  if numerator = 0 then zero negative
  else
    let exponent := exponentOf numerator denominator
    let pair := shifted numerator denominator exponent
    normalized negative (nearest pair.1 pair.2) exponent

/-- This function rounds an integer times a power of two. -/
def ofScaled (negative : Bool) (significand : Nat) (exponent : Int) : Binary64 :=
  ofQuotient negative (significand * Nat.pow 2 exponent.toNat) (Nat.pow 2 (-exponent).toNat)

/-- An integer whose nearest binary64 number would be infinite has none. -/
def ofInt? (number : Int) : Option Binary64 :=
  match ofQuotient (number < 0) number.natAbs 1 with
  | .infinite _ => none
  | nearest => some nearest

/-- The power is zero below the least exponent and infinite above the range. -/
def powerOfTwo (exponent : Int) : Binary64 :=
  if exponent < leastExponent then zero false
  else if 1023 < exponent then .infinite false
  else ofScaled false 1 exponent

/-- The product is exact before its one rounding. -/
def mul : Binary64 → Binary64 → Binary64
  | .nan _, _ => invalid
  | _, .nan _ => invalid
  | .infinite sign, .infinite other => .infinite (sign != other)
  | .infinite sign, .finite other significand _ =>
      if significand = 0 then invalid else .infinite (sign != other)
  | .finite sign significand _, .infinite other =>
      if significand = 0 then invalid else .infinite (sign != other)
  | .finite sign significand exponent, .finite other factor power =>
      ofScaled (sign != other) (significand * factor) (exponent + power)

/-- A finite number is the first integer times two to the second integer. -/
def scaled? : Binary64 → Option (Int × Int)
  | .finite negative significand exponent =>
      some (if negative then -(significand : Int) else significand, exponent)
  | _ => none

/-- The sum is exact before its one rounding. Two zeros keep a sign that they share. -/
def addScaled (negative : Bool) (first second : Int × Int) : Binary64 :=
  let low := min first.2 second.2
  let total := first.1 * Int.pow 2 (first.2 - low).toNat +
    second.1 * Int.pow 2 (second.2 - low).toNat
  if total = 0 then zero negative else ofScaled (total < 0) total.natAbs low

def add (first second : Binary64) : Binary64 :=
  match first, second with
  | .nan _, _ => invalid
  | _, .nan _ => invalid
  | .infinite sign, .infinite other => if sign = other then .infinite sign else invalid
  | .infinite sign, .finite _ _ _ => .infinite sign
  | .finite _ _ _, .infinite other => .infinite other
  | .finite sign significand exponent, .finite other factor power =>
      addScaled (sign && other)
        (if sign then -(significand : Int) else significand, exponent)
        (if other then -(factor : Int) else factor, power)

def neg : Binary64 → Binary64
  | .nan _ => invalid
  | .infinite negative => .infinite !negative
  | .finite negative significand exponent => .finite (!negative) significand exponent

def sub (first second : Binary64) : Binary64 := first.add second.neg

/-- A number with a part after the point is not whole. -/
def whole? (number : Binary64) : Option Int :=
  number.scaled?.bind fun (significand, exponent) =>
    if 0 ≤ exponent then some (significand * Int.pow 2 exponent.toNat)
    else if significand % Int.pow 2 (-exponent).toNat = 0 then
      some (significand / Int.pow 2 (-exponent).toNat)
    else none

/-- This function drops the part after the point. -/
def truncate? (number : Binary64) : Option Int :=
  number.scaled?.map fun (significand, exponent) =>
    if 0 ≤ exponent then significand * Int.pow 2 exponent.toNat
    else significand.tdiv (Int.pow 2 (-exponent).toNat)

/-- The interchange word holds the sign, the biased exponent and the significand. -/
def word : Binary64 → Nat
  | .nan _ => 2047 * hiddenBit + hiddenBit / 2
  | .infinite negative => (if negative then Nat.pow 2 63 else 0) + 2047 * hiddenBit
  | .finite negative significand exponent =>
      (if negative then Nat.pow 2 63 else 0) +
        (exponent - leastExponent).toNat * hiddenBit + significand

/-- This function reads a decimal with an exponent of ten. Powers that are far outside the
range of the format are not computed. -/
def ofDecimal (negative : Bool) (digits : Nat) (exponent : Int) : Binary64 :=
  if digits = 0 then zero negative
  else if 1100 < digits.log2 + 3 * exponent ∧ 0 ≤ exponent then .infinite negative
  else if digits.log2 + 3 * exponent < -1100 ∧ exponent < 0 then zero negative
  else ofQuotient negative (digits * Nat.pow 10 exponent.toNat) (Nat.pow 10 (-exponent).toNat)

end Binary64

end CheckpointReport
