/-
This file writes records as values and reads them back. A reader reports the first broken rule
of a fixed order.
-/

import CheckpointReport.Report

namespace CheckpointReport

/-- These are the ways in which a value fails to be a record. -/
inductive Malformed where
  | record
  | field (name : String)
  | excess
  | kind
  deriving DecidableEq, Repr

def Malformed.message : Malformed → String
  | .record => "checkpoint statistics record is invalid"
  | .field name => name ++ " is invalid"
  | .excess => excessMessage
  | .kind => "checkpoint statistics kind mismatch"

/-- This member names the kind of a record. -/
def kindKey : String := "className"

def tasksKey : String := "tasks"

/-- Only the savepoint format has another name in a record than among the attributes. -/
def wireKey (name : String) : String :=
  if name = "savepoint_format" then "savepointFormat" else name

/-- These are the members of a record around the value of its tasks. -/
def Sheet.members (sheet : Sheet) (tasks : Value) : Members :=
  (kindKey, .text sheet.kind.name) ::
    sheet.common.map (fun member => (wireKey member.1, member.2)) ++
    (tasksKey, tasks) :: sheet.extra

def TaskReport.encode (task : TaskReport) : Value := .ofMembers task.members

def encodeTasks (tasks : Table Key TaskReport) : Value :=
  .object (tasks.entries.map fun entry => (entry.1, entry.2.encode))

namespace Report

def members (report : Report) : Members := report.sheet.members (encodeTasks report.tasks)

def encode (report : Report) : Value := .ofMembers report.members

end Report

/-- A reading that fails blames its field. -/
def require {α : Type} (name : String) : Option α → Except Malformed α
  | some value => .ok value
  | none => .error (.field name)

def readInteger (record : Members) (name : String) : Except Malformed Int :=
  require name (Value.read record name).integer?

def readFlag (record : Members) (name : String) : Except Malformed Bool :=
  require name (Value.read record name).flag?

def readOptionalText (record : Members) (name : String) : Except Malformed (Option String) :=
  require name (Value.read record name).optionalText?

/-- A word is read by its exact name. -/
def Value.word? (α : Type) [Named α] (value : Value) : Option α := value.text?.bind (named? α)

def readWord (α : Type) [Named α] (record : Members) (name : String) : Except Malformed α :=
  require name ((Value.read record name).word? α)

/-- The counters of a record that is read are integers. -/
def readCounters (record : Members) : Except Malformed (Counters Value) := do
  let counters ← Counters.keys.traverse (readInteger record)
  return counters.map Value.int

/-- Too many acknowledged subtasks are the last thing that a reader looks for. Integers always
have an order. -/
def requireWithin {α : Type} : Except Miscount α → Except Malformed α
  | .ok value => .ok value
  | .error _ => .error .excess

def decodeTask (value : Value) : Except Malformed TaskReport := do
  let record ← require tasksKey value.members?
  let counters ← readCounters record
  let id ← readInteger record "id"
  let status ← readWord Status record "status"
  requireWithin (TaskReport.make (.int id) status counters)

def decodeEntry (entry : String × Value) : Except Malformed (Key × TaskReport) := do
  let task ← decodeTask entry.2
  return (.text entry.1, task)

/-- The tasks of a record stand under texts. -/
def decodeTasks (value : Value) : Except Malformed (Table Key TaskReport) := do
  let entries ← require tasksKey value.members?
  let tasks ← entries.mapM decodeEntry
  return Table.ofList tasks

def decodeOutcome (record : Members) : Kind → Except Malformed Outcome
  | .inProgress => .ok .inProgress
  | .completed => do
      let externalPath ← readOptionalText record "external_path"
      let discarded ← readFlag record "discarded"
      return .completed (.ofText? externalPath) (.bool discarded)
  | .failed => do
      let failureTimestamp ← readInteger record "failure_timestamp"
      let failureMessage ← readOptionalText record "failure_message"
      return .failed (.int failureTimestamp) (.ofText? failureMessage)

/-- The kind of a record is known before any other field is read. -/
def resolveKind (record : Members) : Except Malformed Kind := readWord Kind record kindKey

namespace Report

def decodeMembers (record : Members) : Except Malformed Report := do
  let kind ← resolveKind record
  let id ← readInteger record "id"
  let status ← readWord Status record "status"
  let isSavepoint ← readFlag record "is_savepoint"
  let savepointFormat ← readOptionalText record "savepointFormat"
  let type ← readWord CheckpointType record "checkpoint_type"
  let tasks ← decodeTasks (Value.read record tasksKey)
  let trigger ← readInteger record "trigger_timestamp"
  let counters ← readCounters record
  let outcome ← decodeOutcome record kind
  let attributes : Attributes :=
    { id := .int id, status, isSavepoint := .bool isSavepoint,
      savepointFormat := .ofText? savepointFormat, trigger := .int trigger, counters, type,
      outcome }
  let sheet ← requireWithin attributes.check
  return ⟨sheet, tasks⟩

/-- An object or a view is read as a record, and members that no rule names are passed over. -/
def decode (value : Value) : Except Malformed Report :=
  match value.readable? with
  | some record => decodeMembers record
  | none => .error .record

/-- A record of another kind is refused after all its fields were read. -/
def decodeAs (kind : Kind) (value : Value) : Except Malformed Report :=
  match decode value with
  | .ok report => if report.kind = kind then .ok report else .error .kind
  | .error malformed => .error malformed

end Report

end CheckpointReport
