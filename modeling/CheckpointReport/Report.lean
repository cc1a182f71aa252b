/-
This file defines the records of checkpoints. A record counts no more acknowledged subtasks than
subtasks, and so does each task in it. The other attributes may hold any values.
-/

import CheckpointReport.Value.Order
import CheckpointReport.Vocabulary

namespace CheckpointReport

/-- These nine counters stand in every record and in every task of a record. -/
structure Counters (α : Type) where
  latestAck : α
  checkpointedSize : α
  stateSize : α
  duration : α
  alignmentBuffered : α
  processedData : α
  persistedData : α
  subtasks : α
  acknowledged : α
  deriving DecidableEq, Repr

namespace Counters

/-- These are the names of the counters in a record. -/
def keys : Counters String where
  latestAck := "latest_ack_timestamp"
  checkpointedSize := "checkpointed_size"
  stateSize := "state_size"
  duration := "end_to_end_duration"
  alignmentBuffered := "alignment_buffered"
  processedData := "processed_data"
  persistedData := "persisted_data"
  subtasks := "num_subtasks"
  acknowledged := "num_acknowledged_subtasks"

def toList {α : Type} (counters : Counters α) : List α :=
  [counters.latestAck, counters.checkpointedSize, counters.stateSize, counters.duration,
    counters.alignmentBuffered, counters.processedData, counters.persistedData,
    counters.subtasks, counters.acknowledged]

/-- This function stops at the first counter that fails. -/
def traverse {α β ε : Type} (f : α → Except ε β) (counters : Counters α) :
    Except ε (Counters β) := do
  let latestAck ← f counters.latestAck
  let checkpointedSize ← f counters.checkpointedSize
  let stateSize ← f counters.stateSize
  let duration ← f counters.duration
  let alignmentBuffered ← f counters.alignmentBuffered
  let processedData ← f counters.processedData
  let persistedData ← f counters.persistedData
  let subtasks ← f counters.subtasks
  let acknowledged ← f counters.acknowledged
  return ⟨latestAck, checkpointedSize, stateSize, duration, alignmentBuffered, processedData,
    persistedData, subtasks, acknowledged⟩

def map {α β : Type} (f : α → β) (counters : Counters α) : Counters β where
  latestAck := f counters.latestAck
  checkpointedSize := f counters.checkpointedSize
  stateSize := f counters.stateSize
  duration := f counters.duration
  alignmentBuffered := f counters.alignmentBuffered
  processedData := f counters.processedData
  persistedData := f counters.persistedData
  subtasks := f counters.subtasks
  acknowledged := f counters.acknowledged

def members (counters : Counters Value) : Members := keys.toList.zip counters.toList

/-- This is the rule that every record and task obeys. It does not restrict counters that are no
integers. -/
def Within (counters : Counters Value) : Prop :=
  ∀ acknowledged subtasks : Int, counters.acknowledged = .int acknowledged →
    counters.subtasks = .int subtasks → acknowledged ≤ subtasks

theorem within_of_exceeds? (counters : Counters Value)
    (order : counters.acknowledged.exceeds? counters.subtasks = some false) :
    counters.Within := by
  intro acknowledged subtasks first second
  simpa [first, second] using order

theorem within_int (counters : Counters Int) :
    (counters.map Value.int).Within ↔ counters.acknowledged ≤ counters.subtasks := by
  simp [Within, map]

end Counters

/-- The two counters of subtasks break their rule, or they have no order at all. -/
inductive Miscount where
  | excess
  | unordered
  deriving DecidableEq, Repr

/-- The wording of the rule about subtasks is the same wherever it is broken. -/
def excessMessage : String := "num_acknowledged_subtasks must be <= num_subtasks"

/-- This function gives a proof of the rule to what it builds. -/
def Counters.checked {α : Type} (counters : Counters Value) (build : counters.Within → α) :
    Except Miscount α :=
  match order : counters.acknowledged.exceeds? counters.subtasks with
  | some false => .ok (build (counters.within_of_exceeds? order))
  | some true => .error .excess
  | none => .error .unordered

/-- Two lists of attributes are the same when their values are. -/
def sameAttributes (first second : Members) : Bool :=
  Value.sameItems (first.map Prod.snd) (second.map Prod.snd)

/-- The part of a record for one job vertex. -/
structure TaskReport where
  id : Value
  status : Status
  counters : Counters Value
  within : counters.Within
  deriving Repr

namespace TaskReport

/-- A task with too many acknowledged subtasks is not built. -/
def make (id : Value) (status : Status) (counters : Counters Value) : Except Miscount TaskReport :=
  counters.checked fun within => ⟨id, status, counters, within⟩

def members (task : TaskReport) : Members :=
  ("id", task.id) :: ("status", .text task.status.name) :: task.counters.members

def same (first second : TaskReport) : Bool := sameAttributes first.members second.members

end TaskReport

/-- The outcome holds the extra fields that belong to the kind of a record. -/
inductive Outcome where
  | inProgress
  | completed (externalPath discarded : Value)
  | failed (failureTimestamp failureMessage : Value)
  deriving Repr

namespace Outcome

/-- This function changes the values and keeps the kind. -/
def map (f : Value → Value) : Outcome → Outcome
  | .inProgress => .inProgress
  | .completed externalPath discarded => .completed (f externalPath) (f discarded)
  | .failed failureTimestamp failureMessage =>
      .failed (f failureTimestamp) (f failureMessage)

def kind : Outcome → Kind
  | .inProgress => .inProgress
  | .completed _ _ => .completed
  | .failed _ _ => .failed

def members : Outcome → Members
  | .inProgress => []
  | .completed externalPath discarded =>
      [("external_path", externalPath), ("discarded", discarded)]
  | .failed failureTimestamp failureMessage =>
      [("failure_timestamp", failureTimestamp), ("failure_message", failureMessage)]

end Outcome

/-- These are the attributes of a record apart from its tasks. -/
structure Attributes where
  id : Value
  status : Status
  isSavepoint : Value
  savepointFormat : Value
  trigger : Value
  counters : Counters Value
  type : CheckpointType
  outcome : Outcome
  deriving Repr

/-- The attributes stand on a sheet once their counters are known to obey the rule. -/
structure Sheet extends Attributes where
  within : counters.Within
  deriving Repr

def Attributes.check (attributes : Attributes) : Except Miscount Sheet :=
  attributes.counters.checked fun within => ⟨attributes, within⟩

namespace Sheet

def kind (sheet : Sheet) : Kind := sheet.outcome.kind

/-- These are the attributes in declared order up to the tasks. -/
def common (sheet : Sheet) : Members :=
  [("id", sheet.id), ("status", .text sheet.status.name), ("is_savepoint", sheet.isSavepoint),
    ("savepoint_format", sheet.savepointFormat), ("trigger_timestamp", sheet.trigger)] ++
  sheet.counters.members ++ [("checkpoint_type", .text sheet.type.name)]

def extra (sheet : Sheet) : Members := sheet.outcome.members

/-- The hash of a record is taken from these, so it leaves out the tasks and the kind. -/
def hashed (sheet : Sheet) : Members := sheet.common ++ sheet.extra

/-- Only records of one kind are compared by their attributes. -/
def sameCommon (first second : Sheet) : Bool :=
  first.kind == second.kind && sameAttributes first.common second.common

def sameExtra (first second : Sheet) : Bool := sameAttributes first.extra second.extra

def same (first second : Sheet) : Bool := first.sameCommon second && first.sameExtra second

end Sheet

/-- A record describes one checkpoint to the readers of the job manager. -/
structure Report where
  sheet : Sheet
  tasks : Table Key TaskReport
  deriving Repr

namespace Report

def kind (report : Report) : Kind := report.sheet.kind

/-- The order of the tasks does not count. -/
def same (first second : Report) : Bool :=
  first.sheet.same second.sheet && first.tasks.agree TaskReport.same second.tasks

end Report

end CheckpointReport
