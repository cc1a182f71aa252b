/-
This file reads a configuration from the properties of a job manager.
-/

import CheckpointReport.Config

namespace CheckpointReport

/-- A property fails when it is no integer, no number at all, too large, or not a text. -/
inductive PropertyError where
  | notInteger (shown : String)
  | notNumber
  | infinite
  | notText
  deriving DecidableEq, Repr

def PropertyError.message : PropertyError → String
  | .notInteger shown => "rest.port must be an integer, got " ++ shown
  | .notNumber => "a number is required"
  | .infinite => "cannot convert float infinity to integer"
  | .notText => "a text is required"

/-- Texts are read as numerals, and other numbers lose the part after the point. -/
def readWhole : Value → Except PropertyError Int
  | .text content =>
      match Text.integer? content with
      | some number => .ok number
      | none => .error (.notInteger (Text.quoted content))
  | .bool flag => .ok (if flag then 1 else 0)
  | .int number => .ok number
  | .float number =>
      match number.truncate? with
      | some whole => .ok whole
      | none => .error (if number.isNan then .notInteger number.text else .infinite)
  | _ => .error .notNumber

/-- Blanks and case do not count. No other character than a Latin capital has one of the letters
of this word as its small form. -/
def readSwitch : Value → Except PropertyError Bool
  | .text content => .ok ((Text.trim Text.isBlank content.toList).map Char.toLower == "true".toList)
  | _ => .error .notText

def addressKey : String := "rest.address"

def restPortKey : String := "rest.port"

def encryptedKey : String := "security.ssl.rest.enabled"

/-- Properties that are missing have the values of the standard configuration, and other
properties are passed over. A caller may leave out the retry as well. -/
def Config.ofProperties (properties : Table String Value) (retry : Option Retry) :
    Except PropertyError Config := do
  let restPort ← readWhole ((properties.get? restPortKey).getD (.text "8081"))
  let encrypted ← readSwitch ((properties.get? encryptedKey).getD (.text "false"))
  return { Config.standard with
    address := (properties.get? addressKey).getD (.text "localhost")
    restPort := .int restPort
    encrypted := .bool encrypted
    retry := retry.getD .standard }

end CheckpointReport
