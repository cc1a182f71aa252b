/-
This file runs programs over a snapshot that changes. The records taken from it stay as they
were.
-/

import CheckpointReport.Summary

namespace CheckpointReport

structure Watch where
  source : Source
  records : Table String Report

inductive WatchError where
  | unknownName
  | misfit (cause : Misfit)
  | refused (refusal : Refusal)
  deriving Repr

inductive WatchStep where
  | set (field value : Value)
  | setType (type : SnapshotType)
  | putTask (key : Value) (progress : Progress)
  | setTask (key field value : Value)
  | removeTask (key : Value)
  | view
  | summarize (target : String) (detail : Bool)
  | show (of : String)
  | compare (one two : String)
  deriving Repr

/-- A view shows what the snapshot derives from its attributes. -/
structure View where
  status : Status
  duration : Value
  isSavepoint : Bool
  tasks : List (Value × Value)
  deriving Repr

def Snapshot.viewTask (snapshot : Snapshot) (entry : TaskEntry) :
    Except Misfit (Value × Value) := do
  let progress ← entry.read
  let duration ← progress.duration snapshot.trigger
  return (progress.vertex, duration)

/-- The first part of a view that does not fit is reported. -/
def Snapshot.view (snapshot : Snapshot) : Except Misfit View := do
  let duration ← snapshot.duration
  let type ← snapshot.readType
  let entries ← snapshot.tasks.list
  let tasks ← entries.mapM snapshot.viewTask
  return ⟨snapshot.status, duration, type.isSavepoint, tasks⟩

inductive WatchReply where
  | done
  | view (view : View)
  | record (report : Report)
  | compared (same : Bool)
  deriving Repr

/-- Every attribute of a task can be written with any value. -/
def Progress.set? (progress : Progress) (field : String) (value : Value) : Option Progress :=
  match field with
  | "job_vertex_id" => some { progress with vertex := value }
  | "num_subtasks" => some { progress with subtasks := value }
  | "num_acknowledged_subtasks" => some { progress with acknowledged := value }
  | "latest_ack_timestamp" => some { progress with latestAck := value }
  | "checkpointed_size" => some { progress with checkpointedSize := value }
  | "state_size" => some { progress with stateSize := value }
  | "processed_data" => some { progress with processedData := value }
  | "persisted_data" => some { progress with persistedData := value }
  | _ => none

/-- A phase has only the attributes of its own kind. -/
def Phase.set? (phase : Phase) (field : String) (value : Value) : Option Phase :=
  match phase, field with
  | .completed _ discarded, "external_path" => some (.completed value discarded)
  | .completed path _, "discarded" => some (.completed path value)
  | .failed _ message, "failure_timestamp" => some (.failed value message)
  | .failed timestamp _, "failure_message" => some (.failed timestamp value)
  | _, _ => none

/-- An object serves as a table of tasks and a list as a sequence, but their values are no
tasks. -/
def TaskSource.ofValue : Value → TaskSource
  | .object members => .table (Table.ofList (members.map fun member => (member.1, .foreign)))
  | .list items => .sequence (items.map fun _ => .foreign)
  | .text content => .text content.length
  | _ => .foreign

/-- A snapshot loses its type with its properties. -/
def Snapshot.set? (snapshot : Snapshot) (field : String) (value : Value) : Option Snapshot :=
  match field with
  | "checkpoint_id" => some { snapshot with checkpointId := value }
  | "trigger_timestamp" => some { snapshot with trigger := value }
  | "properties" => some { snapshot with type := none }
  | "total_subtask_count" => some { snapshot with totalSubtasks := value }
  | "task_stats" => some { snapshot with tasks := .ofValue value }
  | "num_acknowledged_subtasks" => some { snapshot with acknowledged := value }
  | "latest_ack_timestamp" => some { snapshot with latestAck := value }
  | "checkpointed_size" => some { snapshot with checkpointedSize := value }
  | "state_size" => some { snapshot with stateSize := value }
  | "processed_data" => some { snapshot with processedData := value }
  | "persisted_data" => some { snapshot with persistedData := value }
  | "unaligned_checkpoint" => some { snapshot with unaligned := value }
  | _ => (snapshot.phase.set? field value).map fun phase => { snapshot with phase := phase }

namespace Watch

/-- A name that an object lacks is no attribute of it. -/
def present {α : Type} : Option α → Except WatchError α
  | some value => .ok value
  | none => .error (.misfit .missing)

def known {α : Type} : Option α → Except WatchError α
  | some value => .ok value
  | none => .error .unknownName

/-- Only a snapshot has attributes. -/
def snapshot (watch : Watch) : Except WatchError Snapshot :=
  match watch.source with
  | .snapshot taken => .ok taken
  | _ => .error (.misfit .missing)

def withSnapshot (watch : Watch) (snapshot : Snapshot) : Watch :=
  { watch with source := .snapshot snapshot }

def record (watch : Watch) (name : String) : Except WatchError Report :=
  known (watch.records.get? name)

def fitting {α : Type} : Except Misfit α → Except WatchError α := Except.mapError .misfit

def attributeName (field : Value) : Except WatchError String :=
  match attributeName? field with
  | some name => .ok name
  | none => .error (.misfit .operand)

/-- A key leads to the entry of a table, and an index to an entry of a sequence. -/
def taskAt (tasks : TaskSource) (key : Value) : Except WatchError TaskEntry :=
  match tasks with
  | .table entries => do
      let key ← fitting key.asKey
      known (entries.get? key)
  | .sequence entries => do
      let place ← fitting (key.place entries.length)
      return entries.get place
  | .text length => do
      let _ ← fitting (key.place length)
      return .foreign
  | .foreign => .error (.misfit .operand)

/-- A text cannot be changed, but its index is looked at first. -/
def unchangeable (key : Value) : WatchError :=
  .misfit (if key.countable then .operand else .index)

/-- An entry of a sequence can be replaced, but none can be added. -/
def withTask (tasks : TaskSource) (key : Value) (entry : TaskEntry) :
    Except WatchError TaskSource :=
  match tasks with
  | .table entries => do
      let key ← fitting key.asKey
      return .table (entries.put key entry)
  | .sequence entries => do
      let place ← fitting (key.place entries.length)
      return .sequence (entries.set place entry)
  | .text _ => .error (unchangeable key)
  | .foreign => .error (.misfit .operand)

/-- The entries behind a removed entry of a sequence move up. -/
def withoutTask (tasks : TaskSource) (key : Value) : Except WatchError TaskSource :=
  match tasks with
  | .table entries => do
      let key ← fitting key.asKey
      let _ ← known (entries.get? key)
      return .table (entries.remove key)
  | .sequence entries => do
      let place ← fitting (key.place entries.length)
      return .sequence (entries.eraseIdx place)
  | .text _ => .error (unchangeable key)
  | .foreign => .error (.misfit .operand)

def putTask (key : Value) (progress : Progress) (snapshot : Snapshot) :
    Except WatchError Snapshot := do
  let tasks ← withTask snapshot.tasks key (.known progress)
  return { snapshot with tasks := tasks }

/-- The task is looked up before the name of its attribute. -/
def setTask (key field value : Value) (snapshot : Snapshot) : Except WatchError Snapshot := do
  let entry ← taskAt snapshot.tasks key
  let name ← attributeName field
  let progress ← fitting entry.read
  let next ← present (progress.set? name value)
  putTask key next snapshot

def removeTask (key : Value) (snapshot : Snapshot) : Except WatchError Snapshot := do
  let tasks ← withoutTask snapshot.tasks key
  return { snapshot with tasks := tasks }

/-- A step that changes the snapshot leaves the records alone. -/
def change (watch : Watch) (f : Snapshot → Except WatchError Snapshot) :
    Except WatchError (Watch × WatchReply) := do
  let snapshot ← watch.snapshot
  let next ← f snapshot
  return (watch.withSnapshot next, .done)

/-- The name of the attribute is looked at before the snapshot. -/
def assign (watch : Watch) (field value : Value) : Except WatchError (Watch × WatchReply) := do
  let name ← attributeName field
  watch.change fun snapshot => present (snapshot.set? name value)

def look (watch : Watch) : Except WatchError (Watch × WatchReply) := do
  let snapshot ← watch.snapshot
  let view ← fitting snapshot.view
  return (watch, .view view)

def keep (watch : Watch) (target : String) : Except Refusal Report →
    Except WatchError (Watch × WatchReply)
  | .ok report => .ok ({ watch with records := watch.records.put target report }, .record report)
  | .error refusal => .error (.refused refusal)

/-- A step gives its result and its entries for the journal. -/
def step (watch : Watch) : WatchStep → Except WatchError (Watch × WatchReply) × List Entry
  | .set field value => (watch.assign field value, [])
  | .setType type => (watch.change fun snapshot => .ok { snapshot with type := some type }, [])
  | .putTask key progress => (watch.change (putTask key progress), [])
  | .setTask key field value => (watch.change (setTask key field value), [])
  | .removeTask key => (watch.change (removeTask key), [])
  | .view => (watch.look, [])
  | .summarize target detail =>
      let summary := watch.source.summarize detail
      (watch.keep target summary.result, summary.log)
  | .show of => ((watch.record of).map fun report => (watch, .record report), [])
  | .compare one two =>
      (do
        let first ← watch.record one
        let second ← watch.record two
        return (watch, .compared (first.same second)), [])

/-- A failed step leaves everything as it was. -/
def advance (watch : Watch) (step : WatchStep) : Watch :=
  match (watch.step step).1 with
  | .ok (next, _) => next
  | .error _ => watch

end Watch

end CheckpointReport
