/-
This file defines the keys of objects and tables. Two keys name the same entry when they are
equal as numbers or as texts, whatever their kinds.
-/

import CheckpointReport.Number

namespace CheckpointReport

/-- A key is a text in every record, but other objects may have other keys. -/
inductive Key where
  | null
  | bool (flag : Bool)
  | int (number : Int)
  | float (number : Binary64)
  | text (content : String)
  deriving DecidableEq, Repr

/-- A flag stands for one or zero, and a whole number for its integer. -/
def Key.identity : Key → Key
  | .bool flag => .int (if flag then 1 else 0)
  | .float number =>
      match number.whole? with
      | some whole => .int whole
      | none => .float number
  | key => key

/-- Two names with one identity name the same entry. -/
class Keyed (κ : Type) where
  identity : κ → Key

instance : Keyed String := ⟨Key.text⟩

instance : Keyed Key := ⟨Key.identity⟩

@[simp] theorem Keyed.identity_string (name : String) : Keyed.identity name = Key.text name := rfl

@[simp] theorem Keyed.identity_text (name : String) :
    Keyed.identity (Key.text name) = Key.text name := rfl

end CheckpointReport
