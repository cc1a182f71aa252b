/-
This file lists the failures of a request and sorts answers by their status.
-/

import CheckpointReport.Value.Display

namespace CheckpointReport

/-- A caller tells failures apart by their family. -/
inductive Family where
  | transport
  | server
  | notFound
  | invalid
  | protocol
  deriving DecidableEq, Repr

/-- Each failure knows its own cause. The messages come from the job manager. -/
inductive Failure where
  | closed
  | unreachable (detail : String)
  | missingStatus
  | notFound (messages : List String)
  | server (status : Int) (messages : List String)
  | refused (status : Int) (messages : List String)
  | unexpectedStatus (status : Int)
  | notJson (status : Option Int)
  | notObject (status : Option Int)
  | foreignKeys (status : Option Int)
  deriving DecidableEq, Repr

namespace Failure

def family : Failure → Family
  | .closed => .transport
  | .unreachable _ => .transport
  | .missingStatus => .protocol
  | .notFound _ => .notFound
  | .server _ _ => .server
  | .refused _ _ => .invalid
  | .unexpectedStatus _ => .protocol
  | .notJson _ => .protocol
  | .notObject _ => .protocol
  | .foreignKeys _ => .protocol

/-- A failure without messages has a wording of its own. -/
def joined (messages : List String) : String :=
  let message := "; ".intercalate messages
  if message = "" then "checkpoint statistics request failed" else message

def message : Failure → String
  | .closed => "transport is already closed"
  | .unreachable detail => "job manager unreachable: " ++ detail
  | .missingStatus => "Missing HTTP status"
  | .notFound messages => joined messages
  | .server _ messages => joined messages
  | .refused _ messages => joined messages
  | .unexpectedStatus _ => "Unexpected HTTP status"
  | .notJson _ => "response body is not valid JSON"
  | .notObject _ => "response JSON root must be an object"
  | .foreignKeys _ => "response JSON object keys must be strings"

/-- An unknown job or checkpoint has this status. -/
def notFoundStatus : Int := 404

def status? : Failure → Option Int
  | .closed => none
  | .unreachable _ => none
  | .missingStatus => none
  | .notFound _ => some notFoundStatus
  | .server status _ => some status
  | .refused status _ => some status
  | .unexpectedStatus status => some status
  | .notJson status => status
  | .notObject status => status
  | .foreignKeys status => status

/-- Only a lost connection and a failing server have a cause that a caller may wait out. -/
def cause? : Failure → Option String
  | .unreachable _ => some "network"
  | .server _ _ => some "server_transient"
  | _ => none

def isSuccess (status : Int) : Bool := 200 ≤ status && status < 300

/-- This failure belongs to a status that is no success. -/
def ofStatus (status : Int) (messages : List String) : Failure :=
  if status = notFoundStatus then .notFound messages
  else if 500 ≤ status then .server status messages
  else if 400 ≤ status then .refused status messages
  else .unexpectedStatus status

end Failure

def errorsKey : String := "errors"

/-- The items of a list of errors that are not null. -/
def errorItems (payload : Value) : List Value :=
  match payload.readable? with
  | some members =>
      match Value.read members errorsKey with
      | .list items => items.filter fun item => match item with | .null => false | _ => true
      | _ => []
  | none => []

/-- Each item is one message. There is no result when an item has no text. -/
def errorMessages? (payload : Value) : Option (List String) :=
  (errorItems payload).mapM Value.display?

/-- The sorting of an answer finds nothing for a success. It is lost when a message has no
text. -/
inductive Sorting where
  | success
  | failure (failure : Failure)
  | lost
  deriving DecidableEq, Repr

def sortAnswer (payload : Value) : Option Int → Sorting
  | none => .failure .missingStatus
  | some status =>
      if Failure.isSuccess status then .success
      else
        match errorMessages? payload with
        | some messages => .failure (.ofStatus status messages)
        | none => .lost

end CheckpointReport
