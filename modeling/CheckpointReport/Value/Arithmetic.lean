/-
This file computes with values. A value that is no number does not fit, and an integer may be
too large for binary64.
-/

import CheckpointReport.Value.Order

namespace CheckpointReport

/-- A value does not fit where it is used. It is no operand there, it lacks what is asked of it,
or it is an index without an item. It may also lie beyond the range of binary64, count more than
an index can count, or give a text or a list that is too long. -/
inductive Misfit where
  | operand
  | missing
  | index
  | range
  | count
  | length
  | memory
  deriving DecidableEq, Repr

def Misfit.message : Misfit → String
  | .operand => "the value is no operand here"
  | .missing => "the value lacks an attribute"
  | .index => "the index lies outside of the list"
  | .range => "int too large to convert to float"
  | .count => "cannot fit 'int' into an index-sized integer"
  | .length => "repeated string is too long"
  | .memory => "the value is too large for the memory"

/-- A test that fails has this cause. -/
def Misfit.unless (cause : Misfit) (fits : Bool) : Except Misfit Unit :=
  if fits then .ok () else .error cause

/-- This is the greatest length that an index can count. -/
def greatestLength : Nat := Nat.pow 2 63 - 1

namespace Value

def asNumber (value : Value) : Except Misfit Number :=
  match value.number? with
  | some number => .ok number
  | none => .error .operand

def minus (first second : Value) : Except Misfit Number := do
  let one ← first.asNumber
  let two ← second.asNumber
  match one.sub? two with
  | some difference => .ok difference
  | none => .error .range

/-- The time between two moments is never negative. -/
def elapsed (start finish : Value) : Except Misfit Value := do
  let difference ← finish.minus start
  return if Number.less (.int 0) difference then .ofNumber difference else .int 0

/-- Only a value that can be hashed names an entry. -/
def asKey (value : Value) : Except Misfit Key :=
  match value.key? with
  | some key => .ok key
  | none => .error .operand

/-- Only an integer or a flag is an index. A negative index counts from the end. -/
def place (length : Nat) (value : Value) : Except Misfit (Fin length) :=
  match value.number? with
  | some (.int index) =>
      let start := if index < 0 then index + length else index
      if inside : 0 ≤ start ∧ start < length then .ok ⟨start.toNat, by omega⟩
      else .error .index
  | _ => .error .operand

/-- An index beyond these bounds is known to have no item before any item is looked at. -/
def countable (value : Value) : Bool :=
  match value.number? with
  | some (.int index) => -(greatestLength : Int) - 1 ≤ index && index ≤ greatestLength
  | _ => true

theorem elapsed_int (start finish : Int) :
    elapsed (.int start) (.int finish) = .ok (.int (max 0 (finish - start))) := by
  have known : elapsed (.int start) (.int finish) =
      .ok (if Number.less (.int 0) (.int (finish - start)) then
        .int (finish - start) else .int 0) := rfl
  rw [known, Number.less_int]
  by_cases order : start < finish
  · rw [Int.max_eq_right (by omega), if_pos (by simpa using order)]
  · rw [Int.max_eq_left (by omega), if_neg (by simpa using order)]

end Value

end CheckpointReport
