/-
This file proves that what is written is read back. This holds for every record whose attributes
have their declared types, for its tasks together and for each task alone.
-/

import CheckpointReport.Proofs.Report.Reading
import CheckpointReport.Proofs.Workspace.Binding

namespace CheckpointReport

theorem TaskReport.members_distinct (task : TaskReport) :
    (task.members.map Prod.fst).Nodup := by
  simp [TaskReport.members, Counters.members, Counters.keys, Counters.toList]

theorem Report.members_distinct (report : Report) : (report.members.map Prod.fst).Nodup := by
  obtain ⟨sheet, tasks⟩ := report
  have names (outcome : Outcome) (same : sheet.outcome = outcome) :
      ((⟨sheet, tasks⟩ : Report).members.map Prod.fst).Nodup := by
    cases outcome <;>
      simp [Report.members, Sheet.members, Sheet.common, Sheet.extra, same, Outcome.members,
        Counters.members, Counters.keys, Counters.toList, wireKey, kindKey, tasksKey]
  exact names sheet.outcome rfl

theorem TaskReport.decode_encode (task : TaskReport) (typed : task.WellTyped) :
    decodeTask task.encode = .ok task := by
  rw [decodeTask_eq_ok_iff]
  exact ⟨typed, task.members, rfl, presents_self task.members task.members_distinct⟩

/-- Typed tasks are written under texts, and each of them is read back. -/
theorem decodeEntry_encode (entries : List (Key × TaskReport))
    (typed : ∀ entry ∈ entries, (∃ name, entry.1 = .text name) ∧ entry.2.WellTyped) :
    ∃ members : Members,
      entries.map (fun entry => (entry.1, entry.2.encode)) =
        members.map (fun member => (.text member.1, member.2)) ∧
      List.Forall₂ (fun member entry => decodeEntry member = .ok entry) members entries := by
  induction entries with
  | nil => exact ⟨[], rfl, List.Forall₂.nil⟩
  | cons entry rest ih =>
      obtain ⟨key, task⟩ := entry
      obtain ⟨⟨name, named⟩, well⟩ := typed (key, task) List.mem_cons_self
      obtain ⟨members, written, read⟩ := ih fun other present =>
        typed other (List.mem_cons_of_mem _ present)
      refine ⟨(name, task.encode) :: members, ?_, List.Forall₂.cons ?_ read⟩
      · rw [List.map_cons, List.map_cons, written, named]
      · exact decodeEntry_eq_ok_iff.mpr ⟨named, task.decode_encode well⟩

theorem decodeTasks_encodeTasks (tasks : Table Key TaskReport) (typed : TasksWellTyped tasks) :
    decodeTasks (encodeTasks tasks) = .ok tasks := by
  obtain ⟨members, written, read⟩ := decodeEntry_encode tasks.entries typed
  rw [decodeTasks_eq_ok_iff]
  exact ⟨members, tasks.entries, congrArg Value.object written, read, tasks.ofList_self⟩

namespace Report

theorem decode_encode (report : Report) (typed : report.WellTyped) :
    decode report.encode = .ok report := by
  rw [decode_eq_ok_iff]
  have presented : Presents report.members report.members :=
    presents_self report.members report.members_distinct
  have tasks : Value.read report.members tasksKey = encodeTasks report.tasks :=
    ((presents_sheet_iff _ _ _).mp presented).2.2.2.2.2.2.2.2.1
  refine ⟨report.members, Value.readable?_ofMembers report.members, ?_⟩
  rw [decodeMembers_eq_ok_iff, tasks]
  exact ⟨typed.sheet, presented, decodeTasks_encodeTasks report.tasks typed.tasks⟩

end Report

/-- A record in a workspace is read back with its tasks as they are at that moment. -/
theorem Workspace.step_recode (space : Workspace) (source target : String) (place : Nat)
    (report : Report) (known : space.item source = .ok (.record report.sheet place))
    (held : space.store.cell place = cellOf report.tasks) (typed : report.WellTyped) :
    space.step (.recode source target) = .ok (space.bindReport target report, .done) := by
  have shown := space.store.report?_of_cell report place held
  have written : space.encodeItem (.record report.sheet place) = .ok report.members := by
    simp [encodeItem, Store.encode?, shown]
  have read : Report.decode (.ofMembers report.members) = .ok report := report.decode_encode typed
  have decoded : space.decodeInto target (.ofMembers report.members) =
      .ok (space.bindReport target report) := by
    simp [decodeInto, read]
  change (space.item source >>= _) = _
  rw [known]
  change (space.encodeItem (.record report.sheet place) >>= _) = _
  rw [written]
  change (space.decodeInto target (.ofMembers report.members) >>= _) = _
  rw [decoded]
  rfl

/-- Reading undoes writing for a record, for a task alone and for the tasks together. In a
workspace this holds at every moment, whatever was put into the cell of the record or removed from
it. The new record has the attributes of the old one and the same tasks in a cell of its own. -/
theorem reading_undoes_writing :
    (∀ report : Report, report.WellTyped → Report.decode report.encode = .ok report) ∧
    (∀ task : TaskReport, task.WellTyped → decodeTask task.encode = .ok task) ∧
    (∀ tasks, TasksWellTyped tasks → decodeTasks (encodeTasks tasks) = .ok tasks) ∧
    ∀ (space : Workspace) (source target : String) (place : Nat) (report : Report),
      space.item source = .ok (.record report.sheet place) →
      space.store.cell place = cellOf report.tasks → report.WellTyped →
      ∃ next, space.step (.recode source target) = .ok (next, .done) ∧
        next.item target = .ok (.record report.sheet space.store.size) ∧
        next.store.cell space.store.size = cellOf report.tasks := by
  refine ⟨Report.decode_encode, TaskReport.decode_encode, decodeTasks_encodeTasks, ?_⟩
  intro space source target place report known held typed
  exact ⟨space.bindReport target report,
    space.step_recode source target place report known held typed,
    space.item_bindReport target report, space.cell_bindReport target report⟩

/-- A failed savepoint with one task, far beyond the range of machine integers. -/
def failedSavepoint : Report where
  sheet :=
    { id := .int 100000000000000000000
      status := .failed
      isSavepoint := .bool true
      savepointFormat := .text "NATIVE"
      trigger := .int (-7)
      counters := Counters.map Value.int ⟨-1, 0, -30000000000000000000, 5, 0, 3, 9, 4, 2⟩
      type := .syncSavepoint
      outcome := .failed (.int 12) .null
      within := (Counters.within_int _).mpr (by decide) }
  tasks := Table.empty.put (.text "vertex")
    { id := .int 100000000000000000000
      status := .failed
      counters := Counters.map Value.int ⟨-1, 0, 0, -1, 0, 0, 0, 4, 4⟩
      within := (Counters.within_int _).mpr (by decide) }

/-- All fields of this record and of its task have their declared types. -/
theorem failedSavepoint_wellTyped : failedSavepoint.WellTyped where
  sheet :=
    { id := ⟨_, rfl⟩
      isSavepoint := ⟨_, rfl⟩
      savepointFormat := Or.inr ⟨_, rfl⟩
      trigger := ⟨_, rfl⟩
      counters := (Counters.areIntegers_iff _).mpr ⟨_, rfl⟩
      outcome := ⟨⟨_, rfl⟩, Or.inl rfl⟩ }
  tasks := by
    intro entry present
    obtain rfl := List.mem_singleton.mp present
    exact ⟨⟨"vertex", rfl⟩, ⟨_, rfl⟩, (Counters.areIntegers_iff _).mpr ⟨_, rfl⟩⟩

/-- This failed savepoint has one task, and it is read back as it was written. -/
theorem failedSavepoint_read :
    failedSavepoint.WellTyped ∧ Report.decode failedSavepoint.encode = .ok failedSavepoint :=
  ⟨failedSavepoint_wellTyped, reading_undoes_writing.1 failedSavepoint failedSavepoint_wellTyped⟩

end CheckpointReport
