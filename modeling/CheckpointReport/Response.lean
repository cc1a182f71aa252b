/-
This file reads the payload of a response.
-/

import CheckpointReport.Failure
import CheckpointReport.Json.Reader

namespace CheckpointReport

/-- A body is either decoded already or a sequence of bytes. -/
inductive Body where
  | value (decoded : Value)
  | bytes (encoded : List UInt8)
  deriving Repr

def Body.json? : Body → Option Value
  | .value decoded => some decoded
  | .bytes encoded => Json.ofBytes? encoded

/-- The status decides how an unreadable body is reported. Without a failing status the body
itself is blamed. -/
def unreadableFailure : Option Int → Failure
  | none => .notJson none
  | some status =>
      if Failure.isSuccess status then .notJson (some status) else .ofStatus status []

/-- A payload is an object whose keys are all texts. Surrogates that stand alone were replaced when
the keys were decoded, so keys that differ in them only have become one. -/
def Body.payload (body : Body) (status : Option Int) : Except Failure Members :=
  match body.json? with
  | none => .error (unreadableFailure status)
  | some root =>
      match root with
      | .object _ =>
          match root.members? with
          | some members => .ok members
          | none => .error (.foreignKeys status)
      | _ => .error (.notObject status)

end CheckpointReport
