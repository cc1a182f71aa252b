/-
This file defines numbers that are either integers or binary64 numbers. The kind of a number is
part of it, but comparisons look at the exact value only.
-/

import CheckpointReport.Binary64

namespace CheckpointReport

inductive Number where
  | int (number : Int)
  | float (number : Binary64)
  deriving DecidableEq, Repr

namespace Number

/-- A finite number is the first integer times two to the second integer. -/
def scaled? : Number → Option (Int × Int)
  | .int number => some (number, 0)
  | .float number => number.scaled?

/-- Two finite numbers are compared in units of the smaller power of two. -/
def compareScaled (first second : Int × Int) : Ordering :=
  let low := min first.2 second.2
  compare (first.1 * Int.pow 2 (first.2 - low).toNat)
    (second.1 * Int.pow 2 (second.2 - low).toNat)

/-- An infinite number lies beyond every finite number. -/
def infinitySign : Number → Int
  | .float (.infinite negative) => if negative then -1 else 1
  | _ => 0

def isNan : Number → Bool
  | .int _ => false
  | .float number => number.isNan

@[simp] theorem isNan_int (number : Int) : isNan (.int number) = false := rfl

/-- Nothing compares with a number that is no number. -/
def compare? (first second : Number) : Option Ordering :=
  if first.isNan || second.isNan then none
  else
    match first.scaled?, second.scaled? with
    | some one, some two => some (compareScaled one two)
    | _, _ => some (compare first.infinitySign second.infinitySign)

def less (first second : Number) : Bool := first.compare? second == some .lt

def atMost (first second : Number) : Bool :=
  first.compare? second == some .lt || first.compare? second == some .eq

/-- Equality ignores the kind and the sign of zero. -/
def same (first second : Number) : Bool := first.compare? second == some .eq

/-- An integer may have no binary64 number near it. -/
def rounded? : Number → Option Binary64
  | .int number => Binary64.ofInt? number
  | .float number => some number

/-- Integers are subtracted exactly, and other pairs in binary64. -/
def sub? (first second : Number) : Option Number :=
  match first, second with
  | .int one, .int two => some (.int (one - two))
  | _, _ =>
      match first.rounded?, second.rounded? with
      | some one, some two => some (.float (one.sub two))
      | _, _ => none

theorem compareScaled_zero (first second : Int) :
    compareScaled (first, 0) (second, 0) = compare first second := by
  simp [compareScaled, Int.pow]

@[simp] theorem less_int (first second : Int) :
    less (.int first) (.int second) = decide (first < second) := by
  simp only [less, compare?, scaled?, compareScaled_zero]
  rcases Int.lt_trichotomy first second with order | order | order
  · simp [Int.compare_eq_lt.mpr order, order]
  · simp [order]
  · simp [Int.compare_eq_gt.mpr order, Int.le_of_lt order]

@[simp] theorem same_int (first second : Int) :
    same (.int first) (.int second) = decide (first = second) := by
  simp only [same, compare?, scaled?, compareScaled_zero]
  rcases Int.lt_trichotomy first second with order | order | order
  · simp [Int.compare_eq_lt.mpr order, Int.ne_of_lt order]
  · simp [order]
  · simp [Int.compare_eq_gt.mpr order, Int.ne_of_gt order]

@[simp] theorem atMost_int (first second : Int) :
    atMost (.int first) (.int second) = decide (first ≤ second) := by
  have split : atMost (.int first) (.int second) =
      (less (.int first) (.int second) || same (.int first) (.int second)) := rfl
  rw [split, less_int, same_int, ← Bool.decide_or]
  exact decide_eq_decide.mpr (by omega)

@[simp] theorem sub?_int (first second : Int) :
    sub? (.int first) (.int second) = some (.int (first - second)) := rfl

end Number

end CheckpointReport
