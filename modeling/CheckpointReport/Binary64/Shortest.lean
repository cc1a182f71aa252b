/-
This file writes a binary64 number with the fewest decimal digits that read back as the same
number.
-/

import CheckpointReport.Binary64

namespace CheckpointReport.Binary64

/-- The sign of this comparison tells where a times ten to the power lies relative to b times
two to the power. -/
def compareScaled (decimal : Nat) (ten : Int) (binary : Nat) (two : Int) : Ordering :=
  compare (decimal * Nat.pow 10 ten.toNat * Nat.pow 2 (-two).toNat)
    (binary * Nat.pow 2 two.toNat * Nat.pow 10 (-ten).toNat)

/-- The midpoints to the two neighbours bound the reals that round to the number. All three are
counted in quarters of the last place. -/
structure Interval where
  low : Nat
  middle : Nat
  high : Nat
  exponent : Int
  closed : Bool

def interval (significand : Nat) (exponent : Int) : Interval where
  low :=
    if significand = hiddenBit ∧ leastExponent < exponent then 4 * significand - 1
    else 4 * significand - 2
  middle := 4 * significand
  high := 4 * significand + 2
  exponent := exponent - 2
  closed := significand % 2 = 0

/-- The ends belong to the interval when the significand is even. -/
def Interval.contains (range : Interval) (decimal : Nat) (ten : Int) : Bool :=
  let low := compareScaled decimal ten range.low range.exponent
  let high := compareScaled decimal ten range.high range.exponent
  (low == .gt || low == .eq && range.closed) && (high == .lt || high == .eq && range.closed)

/-- This is the greatest power of ten that is not above the number. -/
def Interval.magnitude (range : Interval) : Int :=
  let guess := (((range.middle.log2 : Int) + range.exponent) * 30103).fdiv 100000
  let reached (ten : Int) : Bool :=
    compareScaled 1 ten range.middle range.exponent != .gt
  if reached (guess + 1) then guess + 1 else if reached guess then guess else guess - 1

/-- The integer part of the number in units of a power of ten. -/
def Interval.floor (range : Interval) (ten : Int) : Nat :=
  (range.middle * Nat.pow 2 range.exponent.toNat * Nat.pow 10 (-ten).toNat) /
    (Nat.pow 10 ten.toNat * Nat.pow 2 (-range.exponent).toNat)

/-- The nearer neighbour on the grid is chosen, and the even one halfway. -/
def Interval.onGrid? (range : Interval) (ten : Int) : Option Nat :=
  let below := range.floor ten
  match range.contains below ten, range.contains (below + 1) ten with
  | false, false => none
  | true, false => some below
  | false, true => some (below + 1)
  | true, true =>
      match compareScaled (2 * below + 1) ten (2 * range.middle) range.exponent with
      | .gt => some below
      | .lt => some (below + 1)
      | .eq => some (if below % 2 = 0 then below else below + 1)

/-- The result is an integer and the power of ten that it counts. The first grid with a hit
wins, and seventeen digits always have one. -/
def shortest (significand : Nat) (exponent : Int) : Nat × Int :=
  let range := interval significand exponent
  let top := range.magnitude
  let found := (List.range 17).findSome? fun (extra : Nat) =>
    (range.onGrid? (top - extra)).map fun digits => (digits, top - (extra : Int))
  found.getD (range.floor (top - 16), top - 16)

/-- The layout fixes when a point is written without an exponent. -/
structure Layout where
  leastPoint : Int
  greatestPoint : Int
  exponentDigits : Nat
  wholeSuffix : String

/-- The point stands inside the digits, or at most three zeros before them, or up to the
sixteenth place. Exponents have a sign and at least two digits, and a whole number keeps one
digit after its point. -/
def Layout.standard : Layout := ⟨-3, 16, 2, ".0"⟩

def zeros (count : Nat) : List Char := List.replicate count '0'

/-- The exponent follows the letter e with its sign. -/
def Layout.exponentText (layout : Layout) (exponent : Int) : List Char :=
  let digits := Nat.toDigits 10 exponent.natAbs
  ['e', if exponent < 0 then '-' else '+'] ++
    zeros (layout.exponentDigits - digits.length) ++ digits

/-- The point is counted from the left end of the digits. -/
def Layout.place (layout : Layout) (digits : List Char) (point : Int) : List Char :=
  if layout.leastPoint ≤ point ∧ point ≤ layout.greatestPoint then
    if point ≤ 0 then '0' :: '.' :: zeros (-point).toNat ++ digits
    else if digits.length ≤ point.toNat then
      digits ++ zeros (point.toNat - digits.length) ++ layout.wholeSuffix.toList
    else digits.take point.toNat ++ '.' :: digits.drop point.toNat
  else
    match digits with
    | [] => []
    | first :: rest =>
        first :: (if rest.isEmpty then [] else '.' :: rest) ++ layout.exponentText (point - 1)

/-- Zeros at the right end of the digits carry no information. -/
def trimZeros (digits : List Char) : List Char :=
  (digits.reverse.dropWhile (· = '0')).reverse

/-- This function writes a number in the standard layout. -/
def text : Binary64 → String
  | .nan _ => "nan"
  | .infinite negative => if negative then "-inf" else "inf"
  | .finite negative significand exponent =>
      let body :=
        if significand = 0 then '0' :: Layout.standard.wholeSuffix.toList
        else
          let (digits, ten) := shortest significand exponent
          let written := Nat.toDigits 10 digits
          Layout.standard.place (trimZeros written) (written.length + ten)
      String.ofList (if negative then '-' :: body else body)

end CheckpointReport.Binary64
