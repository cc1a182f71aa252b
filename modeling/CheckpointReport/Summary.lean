/-
This file sums up snapshots in records. A summary either gives a record or names the first
reason against it, and it tells the journal once the type of the record is known.
-/

import CheckpointReport.Journal
import CheckpointReport.Report.Codec
import CheckpointReport.Snapshot

namespace CheckpointReport

/-- These are the reasons against a record. -/
inductive Refusal where
  | absent
  | unsupported (typeName : String)
  | excess
  | unalignedSavepoint
  | misfit (cause : Misfit)
  deriving DecidableEq, Repr

def Refusal.message : Refusal → String
  | .absent => "checkpoint stats must not be None"
  | .unsupported typeName =>
      "Given checkpoint stats object of type " ++ typeName ++ " cannot be converted."
  | .excess => excessMessage
  | .unalignedSavepoint => "Currently the savepoint doesn't support unaligned checkpoint."
  | .misfit cause => cause.message

/-- Counters without an order are no operands of a comparison. -/
def Miscount.refusal : Miscount → Refusal
  | .excess => .excess
  | .unordered => .misfit .operand

/-- A value that does not fit stops a summary. -/
def fitting {α : Type} : Except Misfit α → Except Refusal α := Except.mapError .misfit

def counted {α : Type} : Except Miscount α → Except Refusal α := Except.mapError Miscount.refusal

/-- Savepoints are always aligned, and only a savepoint can be synchronous. -/
def SnapshotType.tag (type : SnapshotType) (unaligned : Bool) : Except Refusal CheckpointType :=
  if type.isSavepoint then
    if unaligned then .error .unalignedSavepoint
    else .ok (if type.isSynchronous then .syncSavepoint else .savepoint)
  else .ok (if unaligned then .unalignedCheckpoint else .checkpoint)

/-- The journal names a snapshot by its phase. -/
def Phase.typeName : Phase → String
  | .pending => "PendingCheckpointStats"
  | .completed _ _ => "CompletedCheckpointStats"
  | .failed _ _ => "FailedCheckpointStats"
  | .foreign typeName _ => typeName

def Phase.outcome? : Phase → Option Outcome
  | .pending => some .inProgress
  | .completed externalPath discarded => some (.completed externalPath discarded)
  | .failed failureTimestamp failureMessage => some (.failed failureTimestamp failureMessage)
  | .foreign _ _ => none

/-- The result comes with its entries for the journal. -/
structure Summary where
  result : Except Refusal Report
  log : List Entry

namespace Snapshot

/-- Nothing is buffered for alignment in a snapshot. -/
def taskCounters (snapshot : Snapshot) (progress : Progress) :
    Except Misfit (Counters Value) := do
  let duration ← progress.duration snapshot.trigger
  return {
    latestAck := progress.latestAck
    checkpointedSize := progress.checkpointedSize
    stateSize := progress.stateSize
    duration := duration
    alignmentBuffered := .int 0
    processedData := progress.processedData
    persistedData := progress.persistedData
    subtasks := progress.subtasks
    acknowledged := progress.acknowledged }

def counters (snapshot : Snapshot) : Except Misfit (Counters Value) := do
  let duration ← snapshot.duration
  return {
    latestAck := snapshot.latestAck
    checkpointedSize := snapshot.checkpointedSize
    stateSize := snapshot.stateSize
    duration := duration
    alignmentBuffered := .int 0
    processedData := snapshot.processedData
    persistedData := snapshot.persistedData
    subtasks := snapshot.totalSubtasks
    acknowledged := snapshot.acknowledged }

def taskReport (snapshot : Snapshot) (entry : TaskEntry) :
    Except Refusal (Key × TaskReport) := do
  let progress ← fitting entry.read
  let counters ← fitting (snapshot.taskCounters progress)
  let task ← counted (TaskReport.make snapshot.checkpointId snapshot.status counters)
  let key ← fitting progress.vertex.asKey
  return (key, task)

/-- The tasks of a record stand under their vertices, whatever keys the snapshot uses. -/
def taskReports (snapshot : Snapshot) : Except Refusal (Table Key TaskReport) := do
  let entries ← fitting snapshot.tasks.list
  let tasks ← entries.mapM snapshot.taskReport
  return Table.ofList tasks

/-- Without detail the record has no tasks. -/
def detailedTasks (snapshot : Snapshot) (detail : Bool) :
    Except Refusal (Table Key TaskReport) :=
  if detail then snapshot.taskReports else .ok .empty

def report (snapshot : Snapshot) (outcome : Outcome) (tasks : Table Key TaskReport)
    (type : SnapshotType) (tag : CheckpointType) : Except Refusal Report := do
  let counters ← fitting snapshot.counters
  let attributes : Attributes :=
    { id := snapshot.checkpointId
      status := snapshot.status
      isSavepoint := .bool type.isSavepoint
      savepointFormat := .ofText? (type.format?.map SavepointFormat.name)
      trigger := snapshot.trigger
      counters := counters
      type := tag
      outcome := outcome }
  let sheet ← counted attributes.check
  return ⟨sheet, tasks⟩

def summarized (snapshot : Snapshot) (tasks : Table Key TaskReport) (tag : CheckpointType) :
    Entry :=
  .summarized snapshot.checkpointId snapshot.phase.typeName tag tasks.size

/-- The tasks come first, then the type, and then everything else. -/
def summarize (snapshot : Snapshot) (outcome : Outcome) (detail : Bool) : Summary :=
  match snapshot.detailedTasks detail with
  | .error refusal => ⟨.error refusal, []⟩
  | .ok tasks =>
      match fitting snapshot.readType with
      | .error refusal => ⟨.error refusal, []⟩
      | .ok type =>
          match type.tag snapshot.unaligned.truthy with
          | .error refusal => ⟨.error refusal, []⟩
          | .ok tag =>
              ⟨snapshot.report outcome tasks type tag, [snapshot.summarized tasks tag]⟩

end Snapshot

/-- Only the three phases of a checkpoint have records. -/
def Source.summarize (source : Source) (detail : Bool) : Summary :=
  match source with
  | .absent => ⟨.error .absent, []⟩
  | .foreign typeName => ⟨.error (.unsupported typeName), []⟩
  | .snapshot taken =>
      match taken.phase.outcome? with
      | none => ⟨.error (.unsupported taken.phase.typeName), []⟩
      | some outcome => taken.summarize outcome detail

end CheckpointReport
