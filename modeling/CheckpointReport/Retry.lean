/-
This file decides whether a failed request is repeated, and after which delay.
-/

import CheckpointReport.Config
import CheckpointReport.Value.Repetition

namespace CheckpointReport.Retry

/-- A request without an answer may always be repeated, and an answer only with a listed
status. -/
def covers (retry : Retry) : Option Int → Bool
  | none => true
  | some status => retry.statuses.any fun listed => listed.same (.int status)

/-- The attempts count from one, and the last one is not followed by another. -/
def allows (retry : Retry) (attempt : Int) (status : Option Int) : Except Misfit Bool := do
  let limit ← retry.maxAttempts.asNumber
  return !limit.atMost (.int attempt) && retry.covers status

/-- A power of two below one is computed in binary64, so its exponent must be in the range of
binary64. -/
def smallPower? (times : Int) : Option Binary64 :=
  (Binary64.ofInt? times).map fun _ => .powerOfTwo times

/-- A power of two that is an integer is exact, but it may be too large for binary64. -/
def largePower? (times : Int) : Option Binary64 :=
  if 1024 ≤ times then none else some (.powerOfTwo times)

/-- Integers stay exact while they are doubled. An integer is halved in binary64 only. -/
def doubled? (number : Number) (times : Int) : Option Number :=
  match number with
  | .int whole =>
      if 0 ≤ times then some (.int (whole * Int.pow 2 times.toNat))
      else
        match Binary64.ofInt? whole, smallPower? times with
        | some nearest, some power => some (.float (nearest.mul power))
        | _, _ => none
  | .float part =>
      let power := if 0 ≤ times then largePower? times else smallPower? times
      power.map fun power => .float (part.mul power)

/-- The greatest value is kept when the number is not below it. -/
def capped (greatest : Value) (number : Number) : Except Misfit Value := do
  let bound ← greatest.asNumber
  return if number.less bound then .ofNumber number else greatest

/-- A text or a list is doubled by repeating it, so it cannot be halved. -/
def repetition (initial : Value) (times : Int) : Except Misfit Repetition :=
  if times < 0 then .error .operand else Repetition.make initial (Nat.pow 2 times.toNat)

/-- The greatest value is also kept when the repetition is not below it. -/
def cappedRepetition (greatest : Value) (repetition : Repetition) : Except Misfit Value :=
  match repetition.below? greatest with
  | some true => .ok repetition.value
  | some false => .ok greatest
  | none => .error .operand

/-- A number is doubled or halved as often as the integer tells. -/
def doubled (initial : Value) (times : Int) : Except Misfit Number := do
  let number ← initial.asNumber
  match doubled? number times with
  | some number => return number
  | none => throw .range

/-- The delay doubles with each attempt before it is capped. The power of two is computed before
the initial delay is looked at. -/
def delay (retry : Retry) (attempt : Int) : Except Misfit Value := do
  let times := attempt - 1
  Misfit.range.unless (0 ≤ times || (smallPower? times).isSome)
  match retry.initialDelay.length? with
  | some _ =>
      let repetition ← repetition retry.initialDelay times
      cappedRepetition retry.maxDelay repetition
  | none =>
      let number ← doubled retry.initialDelay times
      capped retry.maxDelay number

end CheckpointReport.Retry
