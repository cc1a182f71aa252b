/-
This file defines the snapshot that a coordinator keeps of one checkpoint. A snapshot may change
between two reads, and a reader never changes it. A coordinator may write any value to any
attribute, so a reader may find a value that does not fit.
-/

import CheckpointReport.Value.Arithmetic
import CheckpointReport.Vocabulary

namespace CheckpointReport

/-- A foreign savepoint comes from elsewhere. It tells neither its name nor its format, but it may
tell whether it is synchronous. A foreign type that is no savepoint reads like a checkpoint. -/
inductive SnapshotType where
  | checkpoint (name : Value)
  | savepoint (name : Value) (format : SavepointFormat) (synchronous : Value)
  | foreignSavepoint (synchronous : Option Value)
  deriving Repr

namespace SnapshotType

def plainCheckpoint : SnapshotType := .checkpoint (.text "CHECKPOINT")

def fullCheckpoint : SnapshotType := .checkpoint (.text "FULL_CHECKPOINT")

def plainSavepoint (format : SavepointFormat) : SnapshotType :=
  .savepoint (.text "Savepoint") format (.bool false)

/-- A job stops after a suspending or terminating savepoint, so both are synchronous. -/
def suspendSavepoint (format : SavepointFormat) : SnapshotType :=
  .savepoint (.text "Suspend Savepoint") format (.bool true)

def terminateSavepoint (format : SavepointFormat) : SnapshotType :=
  .savepoint (.text "Terminate Savepoint") format (.bool true)

def name? : SnapshotType → Option Value
  | .checkpoint name => some name
  | .savepoint name _ _ => some name
  | .foreignSavepoint _ => none

def isSavepoint : SnapshotType → Bool
  | .checkpoint _ => false
  | _ => true

def format? : SnapshotType → Option SavepointFormat
  | .savepoint _ format _ => some format
  | _ => none

def synchronous? : SnapshotType → Option Value
  | .checkpoint _ => none
  | .savepoint _ _ synchronous => some synchronous
  | .foreignSavepoint synchronous => synchronous

/-- A savepoint that does not tell counts as asynchronous. -/
def isSynchronous (type : SnapshotType) : Bool := (type.synchronous?.map Value.truthy).getD false

end SnapshotType

/-- This timestamp means that no task has acknowledged yet. -/
def noAck : Int := -1

/-- The duration is never negative once an acknowledgement is known. -/
def durationSince (trigger latestAck : Value) : Except Misfit Value :=
  if latestAck.same (.int noAck) then .ok (.int (-1)) else trigger.elapsed latestAck

/-- The progress sums up the subtasks of one job vertex. -/
structure Progress where
  vertex : Value
  subtasks : Value
  acknowledged : Value
  latestAck : Value
  checkpointedSize : Value
  stateSize : Value
  processedData : Value
  persistedData : Value
  deriving Repr

def Progress.duration (progress : Progress) (trigger : Value) : Except Misfit Value :=
  durationSince trigger progress.latestAck

/-- A foreign entry stands where a task should, but it has none of its attributes. -/
inductive TaskEntry where
  | known (progress : Progress)
  | foreign
  deriving Repr

def TaskEntry.read : TaskEntry → Except Misfit Progress
  | .known progress => .ok progress
  | .foreign => .error .missing

/-- The type of a thing stands under this name, and no value can be written there. -/
def typeAttribute : String := "__class__"

/-- Only a text is the name of an attribute. -/
def attributeName? : Value → Option String
  | .text name => if name = typeAttribute then none else some name
  | _ => none

/-- The tasks stand in a table, unless something foreign was put in its place. The entries of a
sequence have places, and so have the characters of a text. -/
inductive TaskSource where
  | table (entries : Table Key TaskEntry)
  | sequence (entries : List TaskEntry)
  | text (length : Nat)
  | foreign
  deriving Repr

/-- Only a table can be listed. -/
def TaskSource.list : TaskSource → Except Misfit (List TaskEntry)
  | .table entries => .ok entries.values
  | _ => .error .missing

/-- A foreign phase belongs to a kind of snapshot that has no record. -/
inductive Phase where
  | pending
  | completed (externalPath discarded : Value)
  | failed (failureTimestamp failureMessage : Value)
  | foreign (typeName : String) (status : Status)
  deriving Repr

def Phase.status : Phase → Status
  | .pending => .inProgress
  | .completed _ _ => .completed
  | .failed _ _ => .failed
  | .foreign _ status => status

/-- A snapshot has no type when something foreign was put in the place of its properties. -/
structure Snapshot where
  checkpointId : Value
  trigger : Value
  type : Option SnapshotType
  totalSubtasks : Value
  tasks : TaskSource
  acknowledged : Value
  latestAck : Value
  checkpointedSize : Value
  stateSize : Value
  processedData : Value
  persistedData : Value
  unaligned : Value
  phase : Phase
  deriving Repr

namespace Snapshot

def status (snapshot : Snapshot) : Status := snapshot.phase.status

/-- A failed checkpoint lasts until its failure, whatever was acknowledged. -/
def duration (snapshot : Snapshot) : Except Misfit Value :=
  match snapshot.phase with
  | .failed failureTimestamp _ => snapshot.trigger.elapsed failureTimestamp
  | _ => durationSince snapshot.trigger snapshot.latestAck

def readType (snapshot : Snapshot) : Except Misfit SnapshotType :=
  match snapshot.type with
  | some type => .ok type
  | none => .error .missing

end Snapshot

/-- A source is what a record is asked of. -/
inductive Source where
  | absent
  | snapshot (snapshot : Snapshot)
  | foreign (typeName : String)
  deriving Repr

end CheckpointReport
