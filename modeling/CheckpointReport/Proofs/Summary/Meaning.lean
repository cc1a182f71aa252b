/-
This file proves that a record means what its snapshot meant. Every way to a record goes through
the same steps, and each of them is inverted once.
-/

import CheckpointReport.Proofs.Success
import CheckpointReport.Summary

namespace CheckpointReport

theorem fitting_eq_ok_iff {α : Type} (first : Except Misfit α) (result : α) :
    fitting first = .ok result ↔ first = .ok result :=
  Success.mapError_eq_ok_iff

theorem counted_eq_ok_iff {α : Type} (first : Except Miscount α) (result : α) :
    counted first = .ok result ↔ first = .ok result :=
  Success.mapError_eq_ok_iff

/-- A check that succeeds changes nothing. -/
theorem Counters.eq_of_checked {α : Type} (counters : Counters Value)
    (build : counters.Within → α) (result : α) (checked : counters.checked build = .ok result) :
    ∃ within, build within = result := by
  unfold Counters.checked at checked
  split at checked
  · exact ⟨_, Except.ok.inj checked⟩
  · cases checked
  · cases checked

theorem Attributes.eq_of_check (attributes : Attributes) (sheet : Sheet)
    (checked : attributes.check = .ok sheet) : sheet.toAttributes = attributes := by
  obtain ⟨within, rfl⟩ := attributes.counters.eq_of_checked _ sheet checked
  rfl

namespace SnapshotType

/-- These are all the snapshot types with their tags. A savepoint is never unaligned, and a foreign
one is synchronous when it tells so. -/
inductive Tagged : SnapshotType → Bool → CheckpointType → Prop where
  | aligned (name : Value) : Tagged (.checkpoint name) false .checkpoint
  | unaligned (name : Value) : Tagged (.checkpoint name) true .unalignedCheckpoint
  | asynchronous (type : SnapshotType) (saved : type.isSavepoint = true)
      (lazy : type.isSynchronous = false) : Tagged type false .savepoint
  | synchronous (type : SnapshotType) (saved : type.isSavepoint = true)
      (eager : type.isSynchronous = true) : Tagged type false .syncSavepoint

theorem tag_of_isSavepoint (type : SnapshotType) (unaligned : Bool)
    (saved : type.isSavepoint = true) :
    type.tag unaligned = if unaligned then .error .unalignedSavepoint
      else .ok (if type.isSynchronous then .syncSavepoint else .savepoint) :=
  if_pos saved

/-- A tag that is given is one of those listed. -/
theorem tagged_of_tag (type : SnapshotType) (unaligned : Bool) (tag : CheckpointType)
    (done : type.tag unaligned = .ok tag) : Tagged type unaligned tag := by
  cases saved : type.isSavepoint with
  | false =>
      cases type with
      | checkpoint name =>
          cases unaligned with
          | false =>
              cases done
              exact .aligned name
          | true =>
              cases done
              exact .unaligned name
      | savepoint name format synchronous => cases saved
      | foreignSavepoint synchronous => cases saved
  | true =>
      rw [type.tag_of_isSavepoint unaligned saved] at done
      cases unaligned with
      | true => cases done
      | false =>
          cases known : type.isSynchronous with
          | true =>
              rw [known] at done
              cases done
              exact .synchronous type saved known
          | false =>
              rw [known] at done
              cases done
              exact .asynchronous type saved known

end SnapshotType

/-- Each phase gives its own status and its own extra fields, with the values of the snapshot. -/
inductive Phase.Gives : Phase → Status → Outcome → Prop where
  | pending : Gives .pending .inProgress .inProgress
  | completed (externalPath discarded : Value) :
      Gives (.completed externalPath discarded) .completed (.completed externalPath discarded)
  | failed (failureTimestamp failureMessage : Value) :
      Gives (.failed failureTimestamp failureMessage) .failed
        (.failed failureTimestamp failureMessage)

/-- A phase with extra fields is one of the three known ones. -/
theorem Phase.gives_of_outcome? (phase : Phase) (outcome : Outcome)
    (known : phase.outcome? = some outcome) : phase.Gives phase.status outcome := by
  cases phase with
  | pending =>
      cases known
      exact .pending
  | completed externalPath discarded =>
      cases known
      exact .completed externalPath discarded
  | failed failureTimestamp failureMessage =>
      cases known
      exact .failed failureTimestamp failureMessage
  | foreign typeName status => cases known

namespace Source

theorem summarize_foreignPhase (taken : Snapshot) (detail : Bool)
    (phased : taken.phase.outcome? = none) :
    (Source.snapshot taken).summarize detail =
      ⟨.error (.unsupported taken.phase.typeName), []⟩ := by
  simp [summarize, phased]

theorem summarize_supported (taken : Snapshot) (outcome : Outcome) (detail : Bool)
    (phased : taken.phase.outcome? = some outcome) :
    (Source.snapshot taken).summarize detail = taken.summarize outcome detail := by
  simp [summarize, phased]

end Source

/-- Between integers the duration is known. -/
theorem durationSince_int (trigger latestAck : Int) :
    durationSince (.int trigger) (.int latestAck) =
      .ok (.int (if latestAck = -1 then -1 else max 0 (latestAck - trigger))) := by
  have missing : (Value.int latestAck).same (.int noAck) = decide (latestAck = -1) :=
    Number.same_int latestAck (-1)
  rw [durationSince, missing, Value.elapsed_int]
  by_cases absent : latestAck = -1 <;> simp [absent]

namespace Snapshot

/-- These are the counters of a record that lasts for the given duration. -/
def countersWith (snapshot : Snapshot) (duration : Value) : Counters Value where
  latestAck := snapshot.latestAck
  checkpointedSize := snapshot.checkpointedSize
  stateSize := snapshot.stateSize
  duration := duration
  alignmentBuffered := .int 0
  processedData := snapshot.processedData
  persistedData := snapshot.persistedData
  subtasks := snapshot.totalSubtasks
  acknowledged := snapshot.acknowledged

/-- These are the attributes of a record once the steps before the last one are done. -/
def attributesWith (snapshot : Snapshot) (type : SnapshotType) (duration : Value)
    (tag : CheckpointType) (outcome : Outcome) : Attributes where
  id := snapshot.checkpointId
  status := snapshot.status
  isSavepoint := .bool type.isSavepoint
  savepointFormat := .ofText? (type.format?.map SavepointFormat.name)
  trigger := snapshot.trigger
  counters := snapshot.countersWith duration
  type := tag
  outcome := outcome

theorem counters_eq_ok_iff (snapshot : Snapshot) (counters : Counters Value) :
    snapshot.counters = .ok counters ↔
      ∃ duration, snapshot.duration = .ok duration ∧ snapshot.countersWith duration = counters := by
  rw [Snapshot.counters, Success.bind_eq_ok_iff]
  simp only [Success.pure_eq_ok_iff]
  rfl

/-- The tasks are built one after the other and then put into a table. -/
theorem taskReports_eq_ok_iff (snapshot : Snapshot) (tasks : Table Key TaskReport) :
    snapshot.taskReports = .ok tasks ↔
      ∃ entries reports, snapshot.tasks.list = .ok entries ∧
        List.Forall₂ (fun entry report => snapshot.taskReport entry = .ok report) entries reports ∧
          Table.ofList reports = tasks := by
  simp only [taskReports, Success.bind_eq_ok_iff, Success.pure_eq_ok_iff, fitting_eq_ok_iff,
    Success.mapM_eq_ok_iff, exists_and_left]

/-- The duration of a failed checkpoint ends with its failure. -/
theorem duration_failed (snapshot : Snapshot) (trigger failure : Int) (message : Value)
    (triggered : snapshot.trigger = .int trigger)
    (failed : snapshot.phase = .failed (.int failure) message) :
    snapshot.duration = .ok (.int (max 0 (failure - trigger))) := by
  unfold duration
  rw [failed, triggered]
  exact Value.elapsed_int trigger failure

/-- Without a failure the duration ends with the last acknowledgement, if there is any. -/
theorem duration_acknowledged (snapshot : Snapshot) (trigger latestAck : Int)
    (triggered : snapshot.trigger = .int trigger)
    (acknowledged : snapshot.latestAck = .int latestAck)
    (alive : ∀ failure message, snapshot.phase ≠ .failed failure message) :
    snapshot.duration =
      .ok (.int (if latestAck = -1 then -1 else max 0 (latestAck - trigger))) := by
  have since : snapshot.duration = durationSince (.int trigger) (.int latestAck) := by
    unfold duration
    rw [← triggered, ← acknowledged]
    cases phase : snapshot.phase with
    | failed failure message => exact absurd phase (alive failure message)
    | _ => rfl
  rw [since, durationSince_int]

/-- A report comes from these steps, and its attributes are copied in the last one. -/
structure Yields (snapshot : Snapshot) (detail : Bool) (type : SnapshotType) (duration : Value)
    (report : Report) : Prop where
  listed : snapshot.detailedTasks detail = .ok report.tasks
  typed : snapshot.type = some type
  tagged : type.tag snapshot.unaligned.truthy = .ok report.sheet.type
  phased : snapshot.phase.outcome? = some report.sheet.outcome
  lasted : snapshot.duration = .ok duration
  copied : report.sheet.toAttributes =
    snapshot.attributesWith type duration report.sheet.type report.sheet.outcome

/-- The journal aside, a summary is a chain of steps. -/
theorem result_summarize (snapshot : Snapshot) (outcome : Outcome) (detail : Bool) :
    (snapshot.summarize outcome detail).result = (do
      let tasks ← snapshot.detailedTasks detail
      let type ← fitting snapshot.readType
      let tag ← type.tag snapshot.unaligned.truthy
      snapshot.report outcome tasks type tag) := by
  unfold summarize
  cases snapshot.detailedTasks detail with
  | error refusal => rfl
  | ok tasks =>
      cases fitting snapshot.readType with
      | error refusal => rfl
      | ok type =>
          cases tagged : type.tag snapshot.unaligned.truthy with
          | error refusal => simp [tagged, bind, Except.bind]
          | ok tag => simp [tagged, bind, Except.bind]

theorem readType_eq_ok_iff (snapshot : Snapshot) (type : SnapshotType) :
    snapshot.readType = .ok type ↔ snapshot.type = some type := by
  unfold readType
  cases snapshot.type <;> simp

/-- The attributes are copied after the duration is known. -/
theorem eq_of_report (snapshot : Snapshot) (outcome : Outcome) (tasks : Table Key TaskReport)
    (type : SnapshotType) (tag : CheckpointType) (report : Report)
    (done : snapshot.report outcome tasks type tag = .ok report) :
    ∃ duration, snapshot.duration = .ok duration ∧ report.tasks = tasks ∧
      report.sheet.toAttributes = snapshot.attributesWith type duration tag outcome := by
  simp only [Snapshot.report, Success.bind_eq_ok_iff, Success.pure_eq_ok_iff, fitting_eq_ok_iff,
    counted_eq_ok_iff, counters_eq_ok_iff] at done
  obtain ⟨_, ⟨duration, lasted, rfl⟩, sheet, checked, rfl⟩ := done
  exact ⟨duration, lasted, rfl, Attributes.eq_of_check _ sheet checked⟩

/-- A summary that gives a report has gone through all the steps. -/
theorem yields_of_summarize (snapshot : Snapshot) (detail : Bool) (report : Report)
    (done : ((Source.snapshot snapshot).summarize detail).result = .ok report) :
    ∃ type duration, snapshot.Yields detail type duration report := by
  cases phased : snapshot.phase.outcome? with
  | none => simp [Source.summarize, phased] at done
  | some outcome =>
      have chain : (snapshot.summarize outcome detail).result = .ok report := by
        simpa [Source.summarize, phased] using done
      simp only [result_summarize, Success.bind_eq_ok_iff, fitting_eq_ok_iff,
        readType_eq_ok_iff] at chain
      obtain ⟨tasks, listed, type, typed, tag, tagged, reported⟩ := chain
      obtain ⟨duration, lasted, sameTasks, copied⟩ :=
        snapshot.eq_of_report outcome tasks type tag report reported
      have sameTag : report.sheet.type = tag := congrArg Attributes.type copied
      have sameOutcome : report.sheet.outcome = outcome := congrArg Attributes.outcome copied
      exact ⟨type, duration, {
        listed := sameTasks ▸ listed
        typed := typed
        tagged := sameTag ▸ tagged
        phased := sameOutcome ▸ phased
        lasted := lasted
        copied := by rw [sameTag, sameOutcome, copied] }⟩

end Snapshot

/-- A report describes a snapshot of a type when it says the same as the snapshot. The timestamps
that make up a duration are integers. -/
structure Report.Describes (report : Report) (snapshot : Snapshot) (type : SnapshotType) :
    Prop where
  phase : snapshot.phase.Gives report.sheet.status report.sheet.outcome
  id : report.sheet.id = snapshot.checkpointId
  trigger : report.sheet.trigger = snapshot.trigger
  latestAck : report.sheet.counters.latestAck = snapshot.latestAck
  checkpointedSize : report.sheet.counters.checkpointedSize = snapshot.checkpointedSize
  stateSize : report.sheet.counters.stateSize = snapshot.stateSize
  processedData : report.sheet.counters.processedData = snapshot.processedData
  persistedData : report.sheet.counters.persistedData = snapshot.persistedData
  subtasks : report.sheet.counters.subtasks = snapshot.totalSubtasks
  acknowledged : report.sheet.counters.acknowledged = snapshot.acknowledged
  alignmentBuffered : report.sheet.counters.alignmentBuffered = .int 0
  failedDuration : ∀ (trigger failure : Int) (message : Value),
    snapshot.trigger = .int trigger → snapshot.phase = .failed (.int failure) message →
      report.sheet.counters.duration = .int (max 0 (failure - trigger))
  duration : ∀ trigger latestAck : Int,
    snapshot.trigger = .int trigger → snapshot.latestAck = .int latestAck →
      (∀ failure message, snapshot.phase ≠ .failed failure message) →
        report.sheet.counters.duration =
          .int (if latestAck = -1 then -1 else max 0 (latestAck - trigger))
  isFlag : ∃ flag, report.sheet.isSavepoint = .bool flag
  savepointTag : report.sheet.isSavepoint = .bool true ↔
    report.sheet.type = .savepoint ∨ report.sheet.type = .syncSavepoint
  savepointType : report.sheet.isSavepoint = .bool true ↔ ¬ ∃ name, type = .checkpoint name
  synchronous : report.sheet.type = .syncSavepoint ↔
    type.isSavepoint = true ∧ type.isSynchronous = true
  unaligned : report.sheet.type = .unalignedCheckpoint ↔
    (∃ name, type = .checkpoint name) ∧ snapshot.unaligned.truthy = true
  format : ∀ name format synchronous, type = .savepoint name format synchronous →
    report.sheet.savepointFormat = .text format.name
  noFormat : (∀ name format synchronous, type ≠ .savepoint name format synchronous) →
    report.sheet.savepointFormat = .null

namespace SnapshotType.Tagged

variable {type : SnapshotType} {unaligned : Bool} {tag : CheckpointType}

theorem isSavepoint_iff_tag (tagged : type.Tagged unaligned tag) :
    type.isSavepoint = true ↔ tag = .savepoint ∨ tag = .syncSavepoint := by
  cases tagged <;> simp_all [isSavepoint]

theorem syncSavepoint_iff (tagged : type.Tagged unaligned tag) :
    tag = .syncSavepoint ↔ type.isSavepoint = true ∧ type.isSynchronous = true := by
  cases tagged <;> simp_all [isSavepoint]

theorem unalignedCheckpoint_iff (tagged : type.Tagged unaligned tag) :
    tag = .unalignedCheckpoint ↔ (∃ name, type = .checkpoint name) ∧ unaligned = true := by
  cases tagged <;> simp

end SnapshotType.Tagged

theorem SnapshotType.isSavepoint_iff (type : SnapshotType) :
    type.isSavepoint = true ↔ ¬ ∃ name, type = .checkpoint name := by
  cases type <;> simp [isSavepoint]

/-- A report describes the snapshot that it is summed up from, with detail and without. It has no
tasks without detail. -/
theorem summary_describes_snapshot (snapshot : Snapshot) (detail : Bool) (report : Report)
    (done : ((Source.snapshot snapshot).summarize detail).result = .ok report) :
    (∃ type, snapshot.type = some type ∧ report.Describes snapshot type) ∧
      (detail = false → report.tasks = .empty) := by
  obtain ⟨type, duration, yields⟩ := snapshot.yields_of_summarize detail report done
  have copied := yields.copied
  have tagged := type.tagged_of_tag _ _ yields.tagged
  have status : report.sheet.status = snapshot.phase.status := congrArg Attributes.status copied
  have counters : report.sheet.counters = snapshot.countersWith duration :=
    congrArg Attributes.counters copied
  have flag : report.sheet.isSavepoint = .bool type.isSavepoint :=
    congrArg Attributes.isSavepoint copied
  have format : report.sheet.savepointFormat = .ofText? (type.format?.map SavepointFormat.name) :=
    congrArg Attributes.savepointFormat copied
  have flagged : report.sheet.isSavepoint = .bool true ↔ type.isSavepoint = true := by
    rw [flag, Value.bool.injEq]
  have lasts (value : Value) (known : snapshot.duration = .ok value) :
      report.sheet.counters.duration = value := by
    rw [yields.lasted, Except.ok.injEq] at known
    rw [counters, ← known]
    rfl
  have described : report.Describes snapshot type := {
    phase := status ▸ snapshot.phase.gives_of_outcome? _ yields.phased
    id := congrArg Attributes.id copied
    trigger := congrArg Attributes.trigger copied
    latestAck := congrArg Counters.latestAck counters
    checkpointedSize := congrArg Counters.checkpointedSize counters
    stateSize := congrArg Counters.stateSize counters
    processedData := congrArg Counters.processedData counters
    persistedData := congrArg Counters.persistedData counters
    subtasks := congrArg Counters.subtasks counters
    acknowledged := congrArg Counters.acknowledged counters
    alignmentBuffered := congrArg Counters.alignmentBuffered counters
    failedDuration := by
      intro trigger failure message triggered failed
      exact lasts _ (snapshot.duration_failed trigger failure message triggered failed)
    duration := by
      intro trigger latestAck triggered acknowledged alive
      exact lasts _ (snapshot.duration_acknowledged trigger latestAck triggered acknowledged alive)
    isFlag := ⟨_, flag⟩
    savepointTag := flagged.trans tagged.isSavepoint_iff_tag
    savepointType := flagged.trans type.isSavepoint_iff
    synchronous := tagged.syncSavepoint_iff
    unaligned := tagged.unalignedCheckpoint_iff
    format := by
      intro name known synchronous same
      rw [format, same]
      rfl
    noFormat := by
      intro other
      rw [format]
      cases type with
      | savepoint name known synchronous => exact absurd rfl (other name known synchronous)
      | _ => rfl }
  refine ⟨⟨type, yields.typed, described⟩, ?_⟩
  intro without
  have listed := yields.listed
  rw [without] at listed
  exact (Except.ok.inj listed).symm

/-- This synchronous savepoint from elsewhere fails after it is triggered and before its one task is
done. -/
def abandoned : Snapshot where
  checkpointId := .int 12
  trigger := .int 1000
  type := some (.foreignSavepoint (some (.bool true)))
  totalSubtasks := .int 4
  tasks := .table (Table.empty.put (.text "source")
    (.known ⟨.text "vertex", .int 4, .int 3, .int 1200, .int 7, .int 7, .int 0, .int 0⟩))
  acknowledged := .int 3
  latestAck := .int 1200
  checkpointedSize := .int 7
  stateSize := .int 100000000000000000000
  processedData := .int 0
  persistedData := .int 0
  unaligned := .bool false
  phase := .failed (.int 5000) (.text "timeout")

/-- The savepoint lasted until its failure, and its tag tells that it is synchronous. -/
theorem abandoned_described :
    ∃ report, ((Source.snapshot abandoned).summarize true).result = .ok report ∧
      report.Describes abandoned (.foreignSavepoint (some (.bool true))) ∧
      report.sheet.counters.duration = .int 4000 ∧ report.sheet.isSavepoint = .bool true ∧
      report.sheet.type = .syncSavepoint := by
  cases done : ((Source.snapshot abandoned).summarize true).result with
  | error refusal => cases done
  | ok report =>
      obtain ⟨⟨type, same, described⟩, -⟩ := summary_describes_snapshot abandoned true report done
      cases same
      have duration := described.failedDuration 1000 5000 (.text "timeout") rfl rfl
      have savepoint : ¬ ∃ name,
          SnapshotType.foreignSavepoint (some (.bool true)) = .checkpoint name := by simp
      exact ⟨report, rfl, described, duration, described.savepointType.mpr savepoint,
        described.synchronous.mpr ⟨rfl, rfl⟩⟩

end CheckpointReport
