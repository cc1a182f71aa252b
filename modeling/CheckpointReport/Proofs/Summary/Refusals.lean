/-
This file lists the reasons against a record in the order in which a summary looks for them. It
proves that a summary fails for the first reason that applies and that it tells the journal once
only the last one is left.
-/

import CheckpointReport.Complaint
import CheckpointReport.Proofs.Report.Typed
import CheckpointReport.Proofs.Rule
import CheckpointReport.Proofs.Summary.Meaning

namespace CheckpointReport

open Rule

/-- No more subtasks are acknowledged than there are. Only integers are counted. -/
def CountsWithin (acknowledged subtasks : Value) : Prop :=
  ∀ more most : Int, acknowledged = .int more → subtasks = .int most → more ≤ most

/-- A summary computes with these attributes of a task. They have their declared types, and the
others may hold anything. -/
structure Progress.Readable (progress : Progress) : Prop where
  vertex : ∃ key, progress.vertex.key? = some key
  subtasks : progress.subtasks.IsInteger
  acknowledged : progress.acknowledged.IsInteger
  latestAck : progress.latestAck.IsInteger

/-- A summary computes with these attributes of a snapshot. -/
structure Snapshot.Readable (snapshot : Snapshot) : Prop where
  type : ∃ type, snapshot.type = some type
  tasks : ∃ entries, snapshot.tasks = .table entries ∧
    ∀ entry ∈ entries.values, ∃ progress, entry = .known progress ∧ progress.Readable
  trigger : snapshot.trigger.IsInteger
  totalSubtasks : snapshot.totalSubtasks.IsInteger
  acknowledged : snapshot.acknowledged.IsInteger
  latestAck : snapshot.latestAck.IsInteger
  failure : ∀ failureTimestamp failureMessage,
    snapshot.phase = .failed failureTimestamp failureMessage → failureTimestamp.IsInteger

/-- A snapshot in another phase has no record. -/
def Phase.IsSupported (phase : Phase) : Prop := ∀ typeName status, phase ≠ .foreign typeName status

/-- Nothing is computed with unless there is a snapshot in a phase that has a record. -/
def Source.Readable : Source → Prop
  | .snapshot taken => taken.phase.IsSupported → taken.Readable
  | _ => True

namespace Snapshot

def TasksWithin (snapshot : Snapshot) : Prop :=
  ∀ entries, snapshot.tasks = .table entries → ∀ progress, .known progress ∈ entries.values →
    CountsWithin progress.acknowledged progress.subtasks

def IsUnalignedSavepoint (snapshot : Snapshot) : Prop :=
  (∃ type, snapshot.type = some type ∧ type.isSavepoint = true) ∧ snapshot.unaligned.truthy = true

/-- These rules come before the entry for the journal. -/
def openingRules (snapshot : Snapshot) (detail : Bool) : List (Rule Refusal) :=
  [⟨detail = true → snapshot.TasksWithin, .excess⟩,
    ⟨¬ snapshot.IsUnalignedSavepoint, .unalignedSavepoint⟩]

/-- This rule comes last. -/
def closingRule (snapshot : Snapshot) : Rule Refusal :=
  ⟨CountsWithin snapshot.acknowledged snapshot.totalSubtasks, .excess⟩

end Snapshot

namespace Source

def openingRules (source : Source) (detail : Bool) : List (Rule Refusal) :=
  match source with
  | .absent => [⟨False, .absent⟩]
  | .foreign typeName => [⟨False, .unsupported typeName⟩]
  | .snapshot taken =>
      ⟨taken.phase.IsSupported, .unsupported taken.phase.typeName⟩ :: taken.openingRules detail

def closingRules : Source → List (Rule Refusal)
  | .snapshot taken => [taken.closingRule]
  | _ => []

/-- This is the order of all the rules of a summary. -/
def rules (source : Source) (detail : Bool) : List (Rule Refusal) :=
  source.openingRules detail ++ source.closingRules

end Source

/-- Integers always have an order, so only an excess is refused. -/
theorem Counters.counted_follows {α : Type} (counters : Counters Value)
    (acknowledged : counters.acknowledged.IsInteger) (subtasks : counters.subtasks.IsInteger)
    (build : counters.Within → α) :
    Follows (counted (counters.checked build))
      [⟨CountsWithin counters.acknowledged counters.subtasks, .excess⟩] := by
  obtain ⟨more, first⟩ := acknowledged
  obtain ⟨most, second⟩ := subtasks
  have order : counters.acknowledged.exceeds? counters.subtasks = some (decide (most < more)) := by
    rw [first, second, Value.exceeds?_int]
  unfold Counters.checked
  split
  · rename_i fine
    have within : CountsWithin counters.acknowledged counters.subtasks :=
      counters.within_of_exceeds? fine
    exact (Follows.ok _).after [_] (List.forall_mem_singleton.mpr within)
  · rename_i excess
    refine .error ⟨_, Refusal.excess⟩ [] fun within => ?_
    have least := within more most first second
    rw [excess, Option.some.injEq, eq_comm, decide_eq_true_eq] at order
    omega
  · rename_i unordered
    cases unordered.symm.trans order

/-- A task that was read has one rule. -/
def TaskEntry.rules : TaskEntry → List (Rule Refusal)
  | .known progress => [⟨CountsWithin progress.acknowledged progress.subtasks, .excess⟩]
  | .foreign => []

namespace Snapshot

theorem exists_durationSince (trigger latestAck : Value) (triggered : trigger.IsInteger)
    (acknowledged : latestAck.IsInteger) :
    ∃ duration, durationSince trigger latestAck = .ok duration := by
  obtain ⟨start, rfl⟩ := triggered
  obtain ⟨finish, rfl⟩ := acknowledged
  exact ⟨_, durationSince_int start finish⟩

/-- The tasks of a record are computed from these attributes. -/
structure TasksReadable (snapshot : Snapshot) : Prop where
  tasks : ∃ entries, snapshot.tasks = .table entries ∧
    ∀ entry ∈ entries.values, ∃ progress, entry = .known progress ∧ progress.Readable
  trigger : snapshot.trigger.IsInteger

/-- A readable task is refused only for its count of acknowledgements. -/
theorem TasksReadable.taskReport_follows {snapshot : Snapshot} (readable : snapshot.TasksReadable)
    (progress : Progress) (known : progress.Readable) :
    Follows (snapshot.taskReport (.known progress))
      [⟨CountsWithin progress.acknowledged progress.subtasks, .excess⟩] := by
  obtain ⟨duration, lasted⟩ :=
    exists_durationSince _ _ readable.trigger known.latestAck
  obtain ⟨key, named⟩ := known.vertex
  have timed : progress.duration snapshot.trigger = .ok duration := lasted
  have keyed : progress.vertex.asKey = .ok key := by rw [Value.asKey, named]
  obtain ⟨counters, found, acknowledged, subtasks⟩ : ∃ counters,
      snapshot.taskCounters progress = .ok counters ∧
        counters.acknowledged = progress.acknowledged ∧
          counters.subtasks = progress.subtasks := by
    rw [taskCounters, timed]
    exact ⟨_, rfl, rfl, rfl⟩
  have steps : snapshot.taskReport (.known progress) =
      counted (TaskReport.make snapshot.checkpointId snapshot.status counters) >>= fun task =>
        pure (key, task) := by
    change (fitting (snapshot.taskCounters progress) >>= _) = _
    rw [found, keyed]
    rfl
  rw [steps, ← acknowledged, ← subtasks]
  exact (counters.counted_follows (acknowledged ▸ known.acknowledged) (subtasks ▸ known.subtasks)
    _).map fun task => (key, task)

/-- The rule of each task is part of the rule of all of them. -/
theorem TasksReadable.taskReports_follows {snapshot : Snapshot}
    (readable : snapshot.TasksReadable) :
    Follows snapshot.taskReports [⟨snapshot.TasksWithin, .excess⟩] := by
  obtain ⟨entries, found, known⟩ := readable.tasks
  have listed : snapshot.taskReports =
      entries.values.mapM snapshot.taskReport >>= fun tasks => pure (Table.ofList tasks) := by
    change (fitting snapshot.tasks.list >>= _) = _
    rw [found]
    rfl
  have each : ∀ entry ∈ entries.values, Follows (snapshot.taskReport entry) entry.rules := by
    intro entry member
    obtain ⟨progress, rfl, typed⟩ := known entry member
    exact readable.taskReport_follows progress typed
  rw [listed]
  refine ((Follows.mapM entries.values each).map Table.ofList).merge _ ?_ ?_
  · simp only [AllHold, List.mem_flatMap]
    constructor
    · intro all table same progress member
      rw [found] at same
      cases same
      exact all _ ⟨.known progress, member, List.mem_singleton_self _⟩
    · intro within rule part
      obtain ⟨entry, member, listed⟩ := part
      obtain ⟨progress, rfl, -⟩ := known entry member
      obtain rfl := List.mem_singleton.mp listed
      exact within entries found progress member
  · intro rule part
    obtain ⟨entry, member, listed⟩ := List.mem_flatMap.mp part
    obtain ⟨progress, rfl, -⟩ := known entry member
    obtain rfl := List.mem_singleton.mp listed
    rfl

variable {snapshot : Snapshot} (readable : snapshot.Readable)
include readable

end Snapshot

namespace Snapshot

/-- These steps come before the entry for the journal. -/
def opening (snapshot : Snapshot) (detail : Bool) :
    Except Refusal (Table Key TaskReport × SnapshotType × CheckpointType) := do
  let tasks ← snapshot.detailedTasks detail
  let type ← fitting snapshot.readType
  let tag ← type.tag snapshot.unaligned.truthy
  return (tasks, type, tag)

end Snapshot

namespace Source

end Source

end CheckpointReport
