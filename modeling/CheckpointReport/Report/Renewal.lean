/-
This file gives a new origin to whatever is no number inside a value or a record. What was written
out and read back is the same as before but for these parts.
-/

import CheckpointReport.Report

namespace CheckpointReport

def Key.renewed (origin : List Nat) : Key → Key
  | .float number => .float (number.renewed origin)
  | key => key

namespace Value

mutual

/-- The place of a part inside the value belongs to its origin, so no two parts have the same. -/
def renewed (origin : List Nat) : Value → Value
  | .float number => .float (number.renewed origin)
  | .list items => .list (renewedItems origin 0 items)
  | .object members => .object (renewedMembers origin 0 members)
  | .view members => .view (renewedEntries origin 0 members)
  | value => value
termination_by structural value => value

def renewedItems (origin : List Nat) (place : Nat) : List Value → List Value
  | [] => []
  | item :: rest => item.renewed (place :: origin) :: renewedItems origin (place + 1) rest
termination_by structural items => items

def renewedMembers (origin : List Nat) (place : Nat) : List (Key × Value) → List (Key × Value)
  | [] => []
  | (key, value) :: rest =>
      (key.renewed (place :: origin), value.renewed (place :: origin)) ::
        renewedMembers origin (place + 1) rest
termination_by structural members => members

def renewedEntries (origin : List Nat) (place : Nat) :
    List (String × Value) → List (String × Value)
  | [] => []
  | (name, value) :: rest =>
      (name, value.renewed (place :: origin)) :: renewedEntries origin (place + 1) rest
termination_by structural members => members

end

/-- Integers have no origin. -/
theorem renewed_eq_int_iff (origin : List Nat) (value : Value) (number : Int) :
    value.renewed origin = .int number ↔ value = .int number := by
  cases value <;> simp [renewed]

end Value

namespace Counters

/-- The acknowledged subtasks are compared with the subtasks, so their origins differ. -/
def renewed (origin : List Nat) (counters : Counters Value) : Counters Value :=
  { counters.map (Value.renewed origin) with
    acknowledged := counters.acknowledged.renewed (0 :: origin) }

theorem Within.renewed {counters : Counters Value} (within : counters.Within)
    (origin : List Nat) : (counters.renewed origin).Within := by
  intro acknowledged subtasks first second
  exact within acknowledged subtasks ((Value.renewed_eq_int_iff _ _ _).mp first)
    ((Value.renewed_eq_int_iff _ _ _).mp second)

end Counters

def Sheet.renewed (origin : List Nat) (sheet : Sheet) : Sheet where
  id := sheet.id.renewed origin
  status := sheet.status
  isSavepoint := sheet.isSavepoint.renewed origin
  savepointFormat := sheet.savepointFormat.renewed origin
  trigger := sheet.trigger.renewed origin
  counters := sheet.counters.renewed origin
  type := sheet.type
  outcome := sheet.outcome.map (Value.renewed origin)
  within := sheet.within.renewed origin

end CheckpointReport
