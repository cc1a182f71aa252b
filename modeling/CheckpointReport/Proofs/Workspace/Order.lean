/-
This file proves that the subtask counters of a task or a record are in order, whatever made it, and
that they stay so in a copy.
-/

import CheckpointReport.Proofs.Report.Reading
import CheckpointReport.Proofs.Summary.Meaning
import CheckpointReport.Workspace.Store

namespace CheckpointReport

namespace Value

theorem exceeds?_number {first second : Value} {one two : Number}
    (isOne : first.number? = some one) (isTwo : second.number? = some two) :
    first.exceeds? second = some (two.less one) := by
  cases first with
  | text content => cases isOne
  | list items => cases isOne
  | _ => simp [exceeds?, isOne, isTwo]

/-- Only what is no number can change its origin. -/
theorem number?_of_renewed (origin : List Nat) (value : Value) (number : Number)
    (known : (value.renewed origin).number? = some number) :
    number.isNan = true ∨ value.number? = some number := by
  cases value with
  | float part =>
      cases part with
      | nan old =>
          cases known
          exact Or.inl rfl
      | _ => exact Or.inr known
  | _ => exact Or.inr known

end Value

theorem Number.less_of_isNan (one two : Number) (invalid : one.isNan = true ∨ two.isNan = true) :
    one.less two = false := by
  rcases invalid with isNan | isNan <;> simp [less, compare?, isNan]

namespace Counters

/-- The acknowledged subtasks are not more than the subtasks. This restricts all numbers, and the
integers are among them. -/
def InOrder (counters : Counters Value) : Prop :=
  ∀ acknowledged subtasks : Number, counters.acknowledged.number? = some acknowledged →
    counters.subtasks.number? = some subtasks → subtasks.less acknowledged = false

variable {counters : Counters Value}

theorem InOrder.le (ordered : counters.InOrder) (acknowledged subtasks : Int)
    (more : counters.acknowledged = .int acknowledged) (most : counters.subtasks = .int subtasks) :
    acknowledged ≤ subtasks := by
  have order := ordered (.int acknowledged) (.int subtasks) (congrArg Value.number? more)
    (congrArg Value.number? most)
  rwa [Number.less_int, decide_eq_false_iff_not, Int.not_lt] at order

/-- The comparison of a check is the one of the order. -/
theorem inOrder_of_checked {α : Type} (build : counters.Within → α) (result : α)
    (checked : counters.checked build = .ok result) : counters.InOrder := by
  unfold Counters.checked at checked
  split at checked
  · rename_i fine
    intro acknowledged subtasks more most
    exact Option.some.inj ((Value.exceeds?_number more most).symm.trans fine)
  · cases checked
  · cases checked

theorem InOrder.renewed (ordered : counters.InOrder) (origin : List Nat) :
    (counters.renewed origin).InOrder := by
  intro acknowledged subtasks more most
  rcases Value.number?_of_renewed _ _ acknowledged more with isNan | acknowledgedBefore
  · exact Number.less_of_isNan subtasks acknowledged (Or.inr isNan)
  · rcases Value.number?_of_renewed _ _ subtasks most with isNan | subtasksBefore
    · exact Number.less_of_isNan subtasks acknowledged (Or.inl isNan)
    · exact ordered acknowledged subtasks acknowledgedBefore subtasksBefore

end Counters

/-- The counters of a record and those of its tasks are in order. -/
structure Report.InOrder (report : Report) : Prop where
  sheet : report.sheet.counters.InOrder
  tasks : ∀ task ∈ report.tasks.values, task.counters.InOrder

theorem Attributes.inOrder_of_check (attributes : Attributes) (sheet : Sheet)
    (checked : attributes.check = .ok sheet) : sheet.counters.InOrder := by
  have ordered := Counters.inOrder_of_checked _ sheet checked
  rwa [← attributes.eq_of_check sheet checked] at ordered

theorem TaskReport.inOrder_of_make (id : Value) (status : Status) (counters : Counters Value)
    (task : TaskReport) (made : make id status counters = .ok task) : task.counters.InOrder := by
  have ordered := Counters.inOrder_of_checked _ task made
  obtain ⟨within, rfl⟩ := counters.eq_of_checked _ task made
  exact ordered

theorem TaskSheet.inOrder_of_make (given : Members) (sheet : TaskSheet)
    (made : make given = .ok sheet) : sheet.counters.InOrder := by
  obtain ⟨filled, -, checked⟩ := Success.bind_eq_ok_iff.mp made
  have built := Success.mapError_eq_ok_iff.mp checked
  have ordered := Counters.inOrder_of_checked _ sheet built
  obtain ⟨within, rfl⟩ := Counters.eq_of_checked _ _ sheet built
  exact ordered

theorem inOrder_of_decodeTask (value : Value) (task : TaskReport)
    (done : decodeTask value = .ok task) : task.counters.InOrder := by
  simp only [decodeTask, Success.bind_eq_ok_iff, requireWithin_eq_ok_iff] at done
  obtain ⟨record, -, counters, -, id, -, status, -, made⟩ := done
  exact TaskReport.inOrder_of_make _ _ _ task made

theorem inOrder_of_decodeTasks (value : Value) (tasks : Table Key TaskReport)
    (done : decodeTasks value = .ok tasks) : ∀ task ∈ tasks.values, task.counters.InOrder := by
  obtain ⟨entries, read, -, decoded, rfl⟩ := decodeTasks_eq_ok_iff.mp done
  refine Table.forall_values_ofList read (fun task => task.counters.InOrder) ?_
  refine Success.forall_results decoded ?_
  intro entry _ result task
  exact inOrder_of_decodeTask entry.2 result.2 (decodeEntry_eq_ok_iff.mp task).2

namespace Report

theorem inOrder_of_decode (value : Value) (report : Report) (done : decode value = .ok report) :
    report.InOrder := by
  obtain ⟨record, -, done⟩ := decode_eq_ok_iff.mp done
  simp only [decodeMembers, Success.bind_eq_ok_iff, Success.pure_eq_ok_iff,
    requireWithin_eq_ok_iff] at done
  obtain ⟨_, -, _, -, _, -, _, -, _, -, _, -, tasks, read, _, -, _, -, _, -, sheet, checked,
    rfl⟩ := done
  exact ⟨Attributes.inOrder_of_check _ sheet checked, inOrder_of_decodeTasks _ tasks read⟩

end Report

namespace Snapshot

theorem inOrder_of_taskReport (snapshot : Snapshot) (entry : TaskEntry) (result : Key × TaskReport)
    (done : snapshot.taskReport entry = .ok result) : result.2.counters.InOrder := by
  simp only [taskReport, Success.bind_eq_ok_iff, Success.pure_eq_ok_iff, counted_eq_ok_iff] at done
  obtain ⟨_, -, _, -, task, made, _, -, rfl⟩ := done
  exact TaskReport.inOrder_of_make _ _ _ task made

/-- The tasks of a summary have their counters in order. -/
theorem inOrder_of_detailedTasks (snapshot : Snapshot) (detail : Bool)
    (tasks : Table Key TaskReport) (listed : snapshot.detailedTasks detail = .ok tasks) :
    ∀ task ∈ tasks.values, task.counters.InOrder := by
  cases detail with
  | false =>
      cases listed
      exact List.forall_mem_nil _
  | true =>
      change snapshot.taskReports = .ok tasks at listed
      obtain ⟨_, reports, -, summed, rfl⟩ := (snapshot.taskReports_eq_ok_iff tasks).mp listed
      refine Table.forall_values_ofList reports (fun task => task.counters.InOrder) ?_
      exact Success.forall_results summed fun entry _ => snapshot.inOrder_of_taskReport entry

theorem inOrder_of_report (snapshot : Snapshot) (outcome : Outcome) (tasks : Table Key TaskReport)
    (type : SnapshotType) (tag : CheckpointType) (report : Report)
    (done : snapshot.report outcome tasks type tag = .ok report) :
    report.sheet.counters.InOrder := by
  simp only [Snapshot.report, Success.bind_eq_ok_iff, Success.pure_eq_ok_iff,
    counted_eq_ok_iff] at done
  obtain ⟨_, -, sheet, checked, rfl⟩ := done
  exact Attributes.inOrder_of_check _ sheet checked

end Snapshot

/-- A summary gives counters in order, those of its tasks included. -/
theorem Report.inOrder_of_summarize (source : Source) (detail : Bool) (report : Report)
    (done : (source.summarize detail).result = .ok report) : report.InOrder := by
  cases source with
  | absent => cases done
  | foreign typeName => cases done
  | snapshot taken =>
      cases phased : taken.phase.outcome? with
      | none =>
          rw [Source.summarize_foreignPhase taken detail phased] at done
          cases done
      | some outcome =>
          rw [Source.summarize_supported taken outcome detail phased] at done
          simp only [Snapshot.result_summarize, Success.bind_eq_ok_iff] at done
          obtain ⟨tasks, listed, type, -, tag, -, reported⟩ := done
          obtain ⟨_, -, same, -⟩ := taken.eq_of_report outcome tasks type tag report reported
          exact ⟨taken.inOrder_of_report outcome tasks type tag report reported,
            same ▸ taken.inOrder_of_detailedTasks detail tasks listed⟩

namespace Item

/-- A cell counts nothing of its own. -/
def counters? : Item → Option (Counters Value)
  | .task sheet => some sheet.counters
  | .map _ => none
  | .record sheet _ => some sheet.counters

def InOrder (item : Item) : Prop :=
  ∀ counters, item.counters? = some counters → counters.InOrder

theorem inOrder_map (place : Nat) : (Item.map place).InOrder := nofun

theorem inOrder_task_iff (sheet : TaskSheet) :
    (Item.task sheet).InOrder ↔ sheet.counters.InOrder := by
  simp [InOrder, counters?]

theorem inOrder_record_iff (sheet : Sheet) (place : Nat) :
    (Item.record sheet place).InOrder ↔ sheet.counters.InOrder := by
  simp [InOrder, counters?]

end Item

end CheckpointReport
