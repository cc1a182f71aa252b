/-
This file defines what the library writes to its journal. An entry is data, and its text is
written from it.
-/

import CheckpointReport.Value.Display
import CheckpointReport.Vocabulary

namespace CheckpointReport

inductive Level where
  | debug
  | warning
  | error
  deriving DecidableEq, Repr

def Level.name : Level → String
  | .debug => "DEBUG"
  | .warning => "WARNING"
  | .error => "ERROR"

/-- Each entry tells one event. A retry is told before its pause, and the end of a request after
it is known. -/
inductive Entry where
  | summarized (id : Value) (source : String) (type : CheckpointType) (tasks : Nat)
  | retriedUnreachable (path : String) (attempt : Nat)
  | retriedBusy (path : String) (attempt : Nat) (status : Int)
  | unreachable (path : String) (attempt : Nat) (detail : String)
  | unreadable (path : String) (status : Option Int)
  | refused (path : String) (status : Option Int) (message : String)
  | answered (path : String) (attempt : Nat)
  | history (job : String) (records : Nat)
  deriving Repr

namespace Entry

def level : Entry → Level
  | .summarized _ _ _ _ => .debug
  | .retriedUnreachable _ _ => .warning
  | .retriedBusy _ _ _ => .warning
  | .unreachable _ _ _ => .error
  | .unreadable _ _ => .error
  | .refused _ _ _ => .error
  | .answered _ _ => .debug
  | .history _ _ => .debug

/-- A missing status is written as a word. -/
def statusText : Option Int → String
  | some status => toString status
  | none => "None"

/-- A value without a text leaves a gap. -/
def shown (value : Value) : String := value.display?.getD ""

def text : Entry → String
  | .summarized id source type tasks =>
      "translate checkpoint_id=" ++ shown id ++ " kind=" ++ source ++ " checkpoint_type=" ++
        type.name ++ " tasks=" ++ toString tasks
  | .retriedUnreachable path attempt =>
      "GET " ++ path ++ " unreachable attempt=" ++ toString attempt ++ "; retrying"
  | .retriedBusy path attempt status =>
      "GET " ++ path ++ " job manager busy attempt=" ++ toString attempt ++ " http_status=" ++
        toString status ++ "; retrying"
  | .unreachable path attempt detail =>
      "GET " ++ path ++ " unreachable after attempt=" ++ toString attempt ++ ": " ++ detail
  | .unreadable path status =>
      "GET " ++ path ++ " unreadable body http_status=" ++ statusText status
  | .refused path status message =>
      "GET " ++ path ++ " failed http_status=" ++ statusText status ++ ": " ++ message
  | .answered path attempt => "GET " ++ path ++ " ok attempt=" ++ toString attempt
  | .history job records =>
      "checkpoint history job_id=" ++ job ++ " entries=" ++ toString records

end Entry

end CheckpointReport
