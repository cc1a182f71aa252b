/-
This file repeats texts and lists. A repetition is written out only when its size fits, and its
first parts tell how it compares with another value.
-/

import CheckpointReport.Value.Arithmetic

namespace CheckpointReport

namespace Value

/-- Only texts and lists have a length. -/
def length? : Value → Option Nat
  | .text content => some content.length
  | .list items => some items.length
  | _ => none

/-- Other values stay as they are. -/
def repeated (times : Nat) : Value → Value
  | .text content => .text (String.ofList (List.replicate times content.toList).flatten)
  | .list items => .list (List.replicate times items).flatten
  | value => value

end Value

/-- Nothing takes this many bytes. -/
def memoryLimit : Nat := Nat.pow 2 35

def characterSize (c : Char) : Nat :=
  if c.toNat < 256 then 1 else if c.toNat < 65536 then 2 else 4

/-- Every character of a text takes as many bytes as the widest one. -/
def textSize (content : String) : Nat :=
  content.length * (content.toList.map characterSize).foldl max 1

/-- Every item of a list takes eight bytes. -/
def listSize (items : List Value) : Nat := 8 * items.length

/-- A repetition is a text or a list and the number of times that it is written. -/
structure Repetition where
  part : Value
  times : Nat
  deriving Repr

namespace Repetition

/-- Nothing is repeated when the part is empty. -/
def make (part : Value) (count : Nat) : Except Misfit Repetition :=
  match part with
  | .text content => do
      Misfit.count.unless (count ≤ greatestLength)
      Misfit.length.unless (content.length * count ≤ greatestLength)
      Misfit.memory.unless (textSize content * count < memoryLimit)
      return ⟨part, if content.isEmpty then 0 else count⟩
  | .list items => do
      Misfit.count.unless (count ≤ greatestLength)
      Misfit.memory.unless (listSize items * count < memoryLimit)
      return ⟨part, if items.isEmpty then 0 else count⟩
  | _ => .error .operand

def value (repetition : Repetition) : Value := repetition.part.repeated repetition.times

/-- This part of a repetition is longer than the given length if the repetition is. -/
def start (repetition : Repetition) (length : Nat) : Value :=
  repetition.part.repeated (min repetition.times (length + 1))

/-- What comes after the length of the bound cannot change the order. -/
def below? (repetition : Repetition) (bound : Value) : Option Bool :=
  bound.exceeds? (repetition.start (bound.length?.getD 0))

end Repetition

end CheckpointReport
