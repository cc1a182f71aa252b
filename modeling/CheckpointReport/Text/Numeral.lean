/-
This file reads and writes integers as decimal numerals. Numerals of more than 4300 digits are
refused in both directions.
-/

import CheckpointReport.Text.Blank
import CheckpointReport.Text.Digit

namespace CheckpointReport.Text

/-- This is the greatest number of digits of a numeral. -/
def numeralLimit : Nat := 4300

/-- One underscore may stand between two digits. The flag tells that a digit came last. -/
def digitsAfter? : Bool → List Char → Option (List Nat)
  | true, [] => some []
  | false, [] => none
  | true, '_' :: rest => digitsAfter? false rest
  | _, c :: rest =>
      match digitValue? c with
      | some digit => (digitsAfter? true rest).map (digit :: ·)
      | none => none

def numeralDigits? (text : List Char) : Option (List Nat) := digitsAfter? false text

/-- The first digit counts most. -/
def numeralValue (digits : List Nat) : Nat :=
  digits.foldl (fun value digit => 10 * value + digit) 0

/-- Leading zeros count against the limit, and underscores do not. -/
def natural? (text : List Char) : Option Nat :=
  match numeralDigits? text with
  | some digits => if digits.length ≤ numeralLimit then some (numeralValue digits) else none
  | none => none

/-- One sign may stand directly before the first digit. -/
def signed? : List Char → Option Int
  | '-' :: digits => (natural? digits).map fun number => -(number : Int)
  | '+' :: digits => (natural? digits).map fun number => (number : Int)
  | digits => (natural? digits).map fun number => (number : Int)

/-- Blanks around a numeral are skipped. -/
def integer? (text : String) : Option Int :=
  signed? (trim isNumeralBlank text.toList)

def fitsNumeral (number : Int) : Bool := number.natAbs < Nat.pow 10 numeralLimit

/-- An integer within the limit is written with its canonical decimal digits. -/
def numeral? (number : Int) : Option String :=
  if fitsNumeral number then some (toString number) else none

end CheckpointReport.Text
