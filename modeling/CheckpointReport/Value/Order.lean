/-
This file compares values. Numbers are compared across their kinds, and objects without regard
to the order of their members.
-/

import CheckpointReport.Value

namespace CheckpointReport

namespace Value

/-- The members of an object or a view under general keys. -/
def keyed? : Value → Option (List (Key × Value))
  | .object members => some members
  | .view members => some (members.map fun member => (.text member.1, member.2))
  | _ => none

mutual

/-- Two values are the same when a reader of numbers, texts and members cannot tell them apart. What
is no number is the same as what has its origin. -/
def same : Value → Value → Bool
  | .null, .null => true
  | .float (.nan one), .float (.nan two) => one == two
  | .text one, .text two => one == two
  | .list first, .list second => sameItems first second
  | .object first, second =>
      match second.keyed? with
      | some members => first.length == members.length && sameMembers first members
      | none => false
  | .view first, second =>
      match second.keyed? with
      | some members => first.length == members.length && sameEntries first members
      | none => false
  | first, second =>
      match first.number?, second.number? with
      | some one, some two => one.same two
      | _, _ => false
termination_by structural first => first

def sameItems : List Value → List Value → Bool
  | [], [] => true
  | one :: first, two :: second => one.same two && sameItems first second
  | _, _ => false
termination_by structural first => first

def sameMembers : List (Key × Value) → List (Key × Value) → Bool
  | [], _ => true
  | (key, one) :: rest, members =>
      (match findEntry key members with
        | some two => one.same two
        | none => false) && sameMembers rest members
termination_by structural first => first

def sameEntries : List (String × Value) → List (Key × Value) → Bool
  | [], _ => true
  | (name, one) :: rest, members =>
      (match findEntry (Key.text name) members with
        | some two => one.same two
        | none => false) && sameEntries rest members
termination_by structural first => first

end

mutual

/-- Numbers, texts and lists have an order. Other pairs have none. -/
def exceeds? : Value → Value → Option Bool
  | .text one, .text two => some (two < one)
  | .list first, .list second => exceedsItems? first second
  | first, second =>
      match first.number?, second.number? with
      | some one, some two => some (two.less one)
      | _, _ => none
termination_by structural first => first

/-- The first items that differ decide between two lists. -/
def exceedsItems? : List Value → List Value → Option Bool
  | [], _ => some false
  | _ :: _, [] => some true
  | one :: first, two :: second =>
      if one.same two then exceedsItems? first second else one.exceeds? two
termination_by structural first => first

end

/-- A value can be hashed when it can be a key. -/
def hashable (value : Value) : Bool := value.key?.isSome

/-- Values that are no numbers cannot be tested as numbers. -/
def numeric? (test : Number → Number → Bool) (first second : Value) : Option Bool :=
  match first.number?, second.number? with
  | some one, some two => some (test one two)
  | _, _ => none

/-- The parts of a value are its items, its characters or its names. -/
def parts? : Value → Option (List Value)
  | .list items => some items
  | .text content => some (content.toList.map fun c => .text (String.singleton c))
  | .object members => some ((members.filterMap textKey?).map fun member => .text member.1)
  | _ => none

/-- Equal parts are kept once, as they first came. Every part must be hashed. -/
def distinct? (value : Value) : Option (List Value) := do
  let parts ← value.parts?
  let entries ← parts.mapM fun part => part.key?.map fun key => (key, part)
  let kept := entries.foldl (fun kept entry =>
    if (findEntry entry.1 kept).isSome then kept else kept ++ [entry]) []
  return kept.map Prod.snd

/-- Only values that can all be compared with each other are sorted. -/
def ascending? (values : List Value) : Option (List Value) :=
  let comparable := values.all fun one => values.all fun two => (one.exceeds? two).isSome
  if values.length ≤ 1 || comparable then
    some (values.mergeSort fun one two => one.exceeds? two == some false)
  else none

@[simp] theorem exceeds?_int (first second : Int) :
    exceeds? (.int first) (.int second) = some (decide (second < first)) := by
  simp [exceeds?, number?]

end Value

end CheckpointReport
