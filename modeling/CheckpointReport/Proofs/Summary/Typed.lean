/-
This file proves that a snapshot whose attributes have their declared types gives a record whose
attributes have theirs.
-/

import CheckpointReport.Proofs.Report.Typed
import CheckpointReport.Proofs.Summary.Tasks

namespace CheckpointReport

/-- A task is known by a text and counts in integers. -/
structure Progress.WellTyped (progress : Progress) : Prop where
  vertex : ∃ name, progress.vertex = .text name
  subtasks : progress.subtasks.IsInteger
  acknowledged : progress.acknowledged.IsInteger
  latestAck : progress.latestAck.IsInteger
  checkpointedSize : progress.checkpointedSize.IsInteger
  stateSize : progress.stateSize.IsInteger
  processedData : progress.processedData.IsInteger
  persistedData : progress.persistedData.IsInteger

def Phase.WellTyped : Phase → Prop
  | .completed externalPath discarded => externalPath.IsOptionalText ∧ discarded.IsFlag
  | .failed failureTimestamp failureMessage =>
      failureTimestamp.IsInteger ∧ failureMessage.IsOptionalText
  | _ => True

/-- A typed phase gives typed extra fields. -/
theorem Phase.WellTyped.outcome {phase : Phase} (typed : phase.WellTyped) (outcome : Outcome)
    (known : phase.outcome? = some outcome) : outcome.WellTyped := by
  cases phase with
  | pending =>
      cases known
      exact trivial
  | completed externalPath discarded =>
      cases known
      exact typed
  | failed failureTimestamp failureMessage =>
      cases known
      exact typed
  | foreign typeName status => cases known

/-- Only the attributes that are copied to a record matter here. -/
structure Snapshot.WellTyped (snapshot : Snapshot) : Prop where
  checkpointId : snapshot.checkpointId.IsInteger
  trigger : snapshot.trigger.IsInteger
  totalSubtasks : snapshot.totalSubtasks.IsInteger
  tasks : ∀ entries, snapshot.tasks = .table entries →
    ∀ entry ∈ entries.values, ∃ progress, entry = .known progress ∧ progress.WellTyped
  acknowledged : snapshot.acknowledged.IsInteger
  latestAck : snapshot.latestAck.IsInteger
  checkpointedSize : snapshot.checkpointedSize.IsInteger
  stateSize : snapshot.stateSize.IsInteger
  processedData : snapshot.processedData.IsInteger
  persistedData : snapshot.persistedData.IsInteger
  phase : snapshot.phase.WellTyped

namespace Snapshot

/-- The duration of a typed snapshot is an integer. -/
theorem WellTyped.duration {snapshot : Snapshot} (typed : snapshot.WellTyped) (duration : Value)
    (lasted : snapshot.duration = .ok duration) : duration.IsInteger := by
  obtain ⟨trigger, triggered⟩ := typed.trigger
  obtain ⟨latestAck, acknowledged⟩ := typed.latestAck
  have integer (number : Int) (known : snapshot.duration = .ok (.int number)) :
      duration.IsInteger :=
    ⟨number, Except.ok.inj (lasted.symm.trans known)⟩
  have phased := typed.phase
  cases phase : snapshot.phase with
  | failed failureTimestamp failureMessage =>
      rw [phase] at phased
      obtain ⟨⟨failure, rfl⟩, -⟩ := phased
      exact integer _ (snapshot.duration_failed trigger failure failureMessage triggered phase)
  | _ =>
      refine integer _ (snapshot.duration_acknowledged trigger latestAck triggered acknowledged ?_)
      intro failure message failed
      cases phase.symm.trans failed

/-- A task of a record stands under the text that its progress names. -/
theorem WellTyped.taskReport {snapshot : Snapshot} (typed : snapshot.WellTyped)
    (progress : Progress) (known : progress.WellTyped) (entry : Key × TaskReport)
    (done : snapshot.taskReport (.known progress) = .ok entry) :
    (∃ name, entry.1 = .text name) ∧ entry.2.WellTyped := by
  obtain ⟨vertex, described⟩ := snapshot.enters_of_taskReport progress entry done
  obtain ⟨name, named⟩ := known.vertex
  obtain ⟨trigger, triggered⟩ := typed.trigger
  obtain ⟨latestAck, acknowledged⟩ := known.latestAck
  rw [named] at vertex
  refine ⟨⟨name, (Option.some.inj vertex).symm⟩, described.id ▸ typed.checkpointId, ?_⟩
  simp only [Counters.AreIntegers, Counters.toList, List.forall_mem_cons]
  exact ⟨described.latestAck ▸ known.latestAck, described.checkpointedSize ▸ known.checkpointedSize,
    described.stateSize ▸ known.stateSize, ⟨_, described.duration trigger latestAck triggered
      acknowledged⟩, ⟨0, described.alignmentBuffered⟩,
    described.processedData ▸ known.processedData, described.persistedData ▸ known.persistedData,
    described.subtasks ▸ known.subtasks, described.acknowledged ▸ known.acknowledged,
    List.forall_mem_nil _⟩

/-- The tasks of a typed snapshot are typed under text keys. -/
theorem WellTyped.detailedTasks {snapshot : Snapshot} (typed : snapshot.WellTyped) (detail : Bool)
    (tasks : Table Key TaskReport) (listed : snapshot.detailedTasks detail = .ok tasks) :
    TasksWellTyped tasks := by
  cases detail with
  | false =>
      cases listed
      exact List.forall_mem_nil _
  | true =>
      change snapshot.taskReports = .ok tasks at listed
      obtain ⟨entries, reports, found, summed, rfl⟩ :=
        (snapshot.taskReports_eq_ok_iff tasks).mp listed
      refine Table.forall_ofList reports (fun key => ∃ name, key = .text name) TaskReport.WellTyped
        ?_
      cases source : snapshot.tasks with
      | table table =>
          rw [source] at found
          cases found
          refine Success.forall_results summed ?_
          intro entry member report done
          obtain ⟨progress, rfl, known⟩ := typed.tasks table source entry member
          exact typed.taskReport progress known report done
      | _ =>
          rw [source] at found
          cases found

end Snapshot

/-- The attributes of a record are copied from its snapshot, so they keep their types. -/
theorem Report.wellTyped_of_summarize (snapshot : Snapshot) (detail : Bool) (report : Report)
    (typed : snapshot.WellTyped)
    (done : ((Source.snapshot snapshot).summarize detail).result = .ok report) :
    report.WellTyped := by
  obtain ⟨type, duration, yields⟩ := snapshot.yields_of_summarize detail report done
  have copied := yields.copied
  have counters : report.sheet.counters = snapshot.countersWith duration :=
    congrArg Attributes.counters copied
  exact {
    sheet := {
      id := by
        rw [show report.sheet.id = _ from congrArg Attributes.id copied]
        exact typed.checkpointId
      isSavepoint := ⟨_, congrArg Attributes.isSavepoint copied⟩
      savepointFormat := (Value.isOptionalText_iff _).mpr
        ⟨_, congrArg Attributes.savepointFormat copied⟩
      trigger := by
        rw [show report.sheet.trigger = _ from congrArg Attributes.trigger copied]
        exact typed.trigger
      counters := by
        simp only [counters, Counters.AreIntegers, Counters.toList, List.forall_mem_cons]
        exact ⟨typed.latestAck, typed.checkpointedSize, typed.stateSize,
          typed.duration duration yields.lasted, ⟨0, rfl⟩, typed.processedData,
          typed.persistedData, typed.totalSubtasks, typed.acknowledged, List.forall_mem_nil _⟩
      outcome := typed.phase.outcome _ yields.phased }
    tasks := typed.detailedTasks detail report.tasks yields.listed }

end CheckpointReport
