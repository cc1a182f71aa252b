/-
This file defines the values that travel between the job manager and its clients. Members keep
their order, and integers stay apart from binary64 numbers.
-/

import CheckpointReport.Table

namespace CheckpointReport

/-- A view can be read by text keys like an object, but it is not an object. Kinds that are derived
from texts or integers and have a form of their own are left out. -/
inductive Value where
  | null
  | bool (flag : Bool)
  | int (number : Int)
  | float (number : Binary64)
  | text (content : String)
  | list (items : List Value)
  | object (members : List (Key × Value))
  | view (members : List (String × Value))
  deriving Repr

instance : Inhabited Value := ⟨.null⟩

/-- The members of an object with text keys only. -/
abbrev Members := List (String × Value)

namespace Value

def ofMembers (members : Members) : Value :=
  .object (members.map fun member => (.text member.1, member.2))

def ofText? : Option String → Value
  | none => .null
  | some content => .text content

def ofNumber : Number → Value
  | .int number => .int number
  | .float number => .float number

def textKey? : Key × Value → Option (String × Value)
  | (.text name, value) => some (name, value)
  | _ => none

/-- Only an object whose keys are all texts has members. -/
def members? : Value → Option Members
  | .object members => members.mapM textKey?
  | _ => none

/-- An object or a view is read by its text keys, and its other keys are passed over. -/
def readable? : Value → Option Members
  | .object members => some (members.filterMap textKey?)
  | .view members => some members
  | _ => none

theorem members?_ofMembers (members : Members) : (ofMembers members).members? = some members := by
  induction members with
  | nil => rfl
  | cons member rest ih =>
      simp only [ofMembers, members?, List.map_cons, List.mapM_cons, textKey?] at ih ⊢
      simp [ih]

theorem readable?_ofMembers (members : Members) :
    (ofMembers members).readable? = some members := by
  simp only [ofMembers, readable?, List.filterMap_map]
  congr 1
  induction members with
  | nil => rfl
  | cons member rest ih => simp [textKey?, ih]

/-- A missing member reads as null. -/
def read (members : Members) (name : String) : Value := (findEntry name members).getD .null

def text? : Value → Option String
  | .text content => some content
  | _ => none

/-- Null is read as an absent text. -/
def optionalText? : Value → Option (Option String)
  | .null => some none
  | .text content => some (some content)
  | _ => none

/-- A flag is never an integer. -/
def integer? : Value → Option Int
  | .int number => some number
  | _ => none

def flag? : Value → Option Bool
  | .bool flag => some flag
  | _ => none

def items? : Value → Option (List Value)
  | .list items => some items
  | _ => none

/-- A list and everything with members can be no key. -/
def key? : Value → Option Key
  | .null => some .null
  | .bool flag => some (.bool flag)
  | .int number => some (.int number)
  | .float number => some (.float number)
  | .text content => some (.text content)
  | _ => none

/-- A flag counts as one or zero where a number is computed with. -/
def number? : Value → Option Number
  | .bool flag => some (.int (if flag then 1 else 0))
  | .int number => some (.int number)
  | .float number => some (.float number)
  | _ => none

/-- Null, zero and everything empty count as false. -/
def truthy : Value → Bool
  | .null => false
  | .bool flag => flag
  | .int number => number != 0
  | .float number => !(Number.float number).same (.int 0)
  | .text content => content != ""
  | .list items => !items.isEmpty
  | .object members => !members.isEmpty
  | .view members => !members.isEmpty

end Value

end CheckpointReport
