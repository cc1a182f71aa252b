/-
This file compares the readers of the three kinds of records. One of them reads a value whenever it
is a record at all, and the other two blame the kind, but only after everything else.
-/

import CheckpointReport.Proofs.Report.Equality
import CheckpointReport.Proofs.Report.Rules

namespace CheckpointReport

open Rule

/-- A reader of one kind looks at the kind last. -/
def Value.rulesAs (value : Value) (kind : Kind) : List (Rule Malformed) :=
  value.recordRules ++ [⟨value.field kindKey = .text kind.name, .kind⟩]

/-- No rule of the format blames the kind as such. -/
theorem breach_of_mem_recordRules (value : Value) :
    ∀ rule ∈ value.recordRules, rule.breach ≠ .kind := by
  have field (name : String) : Malformed.field name ≠ .kind := Malformed.noConfusion
  have excess : Malformed.excess ≠ .kind := Malformed.noConfusion
  have counters (part : Value) : ∀ rule ∈ part.counterRules, rule.breach ≠ .kind :=
    List.forall_mem_map.mpr fun name _ => field name
  have task (part : Value) : ∀ rule ∈ part.taskRules, rule.breach ≠ .kind := by
    simp only [Value.taskRules, List.forall_mem_cons, List.forall_mem_append]
    exact ⟨field _, counters part, field _, field _, excess, List.forall_mem_nil _⟩
  have tasks (part : Value) : ∀ rule ∈ part.tasksRules, rule.breach ≠ .kind := by
    simp only [Value.tasksRules, List.forall_mem_cons, List.forall_mem_flatMap]
    exact ⟨field _, fun entry _ => task entry.2⟩
  have opening : ∀ rule ∈ value.openingRules, rule.breach ≠ .kind := by
    simp only [Value.openingRules, List.forall_mem_cons]
    exact ⟨Malformed.noConfusion, field _, field _, field _, field _, field _, field _,
      List.forall_mem_nil _⟩
  have extra : ∀ rule ∈ value.extraRules, rule.breach ≠ .kind := by
    simp only [Value.extraRules, List.forall_mem_cons]
    exact ⟨field _, field _, field _, field _, List.forall_mem_nil _⟩
  simp only [Value.recordRules, Value.closingRules, List.forall_mem_cons, List.forall_mem_append]
  exact ⟨opening, tasks _, field _, counters value, extra, excess, List.forall_mem_nil _⟩

namespace Report

/-- The kind of a record that is read is the one that its value names. -/
theorem kind_of_decode {value : Value} {report : Report} (decoded : decode value = .ok report)
    (kind : Kind) : value.field kindKey = .text kind.name ↔ report.kind = kind := by
  have named : value.field kindKey = .text report.kind.name := (isRecord_of_decode decoded).className
  rw [named, Value.text.injEq]
  constructor
  · exact Named.injective report.kind kind
  · rintro rfl
    rfl

theorem decodeAs_eq_bind (kind : Kind) (value : Value) :
    decodeAs kind value = decode value >>= fun report =>
      if report.kind = kind then .ok report else .error Malformed.kind := by
  rw [decodeAs]
  cases decode value <;> rfl

/-- Whatever breaks a rule of the format is reported before the kind is looked at. -/
theorem decodeAs_follows (kind : Kind) (value : Value) :
    Follows (decodeAs kind value) (value.rulesAs kind) := by
  rw [decodeAs_eq_bind]
  refine (decode_follows value).bind fun report decoded => ?_
  have named := kind_of_decode decoded kind
  by_cases same : report.kind = kind
  · rw [if_pos same]
    refine (Follows.ok report).before _ ?_
    exact List.forall_mem_singleton.mpr (named.mpr same)
  · rw [if_neg same]
    exact .error ⟨value.field kindKey = .text kind.name, Malformed.kind⟩ [] fun holds =>
      same (named.mp holds)

/-- Reading for one kind gives the records of this kind and no others. -/
theorem decodeAs_eq_ok_iff (kind : Kind) (value : Value) (report : Report) :
    decodeAs kind value = .ok report ↔ decode value = .ok report ∧ report.kind = kind := by
  rw [decodeAs]
  cases decode value with
  | error malformed => simp
  | ok other =>
      by_cases same : other.kind = kind
      · simp only [if_pos same, Except.ok.injEq]
        constructor
        · rintro rfl
          exact ⟨rfl, same⟩
        · exact And.left
      · simp only [if_neg same, reduceCtorEq, Except.ok.injEq, false_iff, not_and]
        rintro rfl
        exact same

/-- The readers of other kinds blame the kind of a value that can be read. -/
theorem decodeAs_of_ne {kind : Kind} {value : Value} {report : Report}
    (decoded : decode value = .ok report) (different : kind ≠ report.kind) :
    decodeAs kind value = .error .kind := by
  simp only [decodeAs, decoded, if_neg different.symm]

/-- A value of the grammar belongs to the reader of its kind. -/
theorem exists_decodeAs_iff (kind : Kind) (value : Value) :
    (∃ report, decodeAs kind value = .ok report) ↔ value.IsRecord kind := by
  simp only [decodeAs_eq_ok_iff]
  constructor
  · rintro ⟨report, decoded, rfl⟩
    exact isRecord_of_decode decoded
  · intro wellFormed
    obtain ⟨report, decoded⟩ := exists_decode_of_isRecord wellFormed
    exact ⟨report, decoded, (kind_of_decode decoded kind).mp wellFormed.className⟩

end Report

/-- A task is read back as it was, or it is not read at all. -/
theorem TaskReport.decode_encode_iff (task other : TaskReport) :
    decodeTask task.encode = .ok other ↔ other = task ∧ task.WellTyped := by
  constructor
  · intro decoded
    obtain ⟨typed, record, written, presented⟩ := decodeTask_eq_ok_iff.mp decoded
    obtain rfl := Value.ofMembers_injective written
    have own := eq_of_presents _ _ (presents_self task.members task.members_distinct)
    have members : other.members = task.members :=
      (eq_of_presents _ _ presented).trans own.symm
    obtain rfl := eq_of_values (congrArg (List.map Prod.snd) members)
    exact ⟨rfl, typed⟩
  · rintro ⟨rfl, typed⟩
    exact other.decode_encode typed

/-- Entries that are read from written tasks are these tasks. The induction is on the entries, since
each of them is read alone. -/
theorem eq_of_decodeEntry (members : Members) (read tasks : List (Key × TaskReport))
    (decoded : List.Forall₂ (fun member entry => decodeEntry member = .ok entry) members read)
    (written : tasks.map (fun entry => (entry.1, entry.2.encode)) =
      members.map fun member => (Key.text member.1, member.2)) :
    read = tasks ∧ ∀ entry ∈ tasks, (∃ name, entry.1 = .text name) ∧ entry.2.WellTyped := by
  induction decoded generalizing tasks with
  | nil =>
      obtain rfl := List.map_eq_nil_iff.mp written
      exact ⟨rfl, List.forall_mem_nil _⟩
  | @cons member result _ _ first _ ih =>
      cases tasks with
      | nil => cases written
      | cons entry rest =>
          obtain ⟨head, others⟩ := List.cons.inj written
          obtain ⟨named, encoded⟩ := Prod.mk.inj head
          obtain ⟨key, task⟩ := decodeEntry_eq_ok_iff.mp first
          rw [← encoded, TaskReport.decode_encode_iff] at task
          obtain ⟨rfl, typed⟩ := ih rest others
          have same : result = entry := Prod.ext (key.trans named.symm) task.1
          exact ⟨congrArg (· :: _) same, List.forall_mem_cons.mpr ⟨⟨⟨_, named⟩, task.2⟩, typed⟩⟩

theorem decodeTasks_encodeTasks_iff (tasks other : Table Key TaskReport) :
    decodeTasks (encodeTasks tasks) = .ok other ↔ other = tasks ∧ TasksWellTyped tasks := by
  constructor
  · intro decoded
    obtain ⟨members, read, written, related, rfl⟩ := decodeTasks_eq_ok_iff.mp decoded
    obtain ⟨rfl, typed⟩ :=
      eq_of_decodeEntry members read tasks.entries related (Value.object.inj written)
    exact ⟨tasks.ofList_self, typed⟩
  · rintro ⟨rfl, typed⟩
    exact decodeTasks_encodeTasks other typed

namespace Report

/-- Only a record with typed attributes is read back, and it is read back as it was. -/
theorem decode_encode_iff (report other : Report) :
    decode report.encode = .ok other ↔ other = report ∧ report.WellTyped := by
  constructor
  · intro decoded
    obtain ⟨record, readable, accepted⟩ := decode_eq_ok_iff.mp decoded
    obtain rfl : report.members = record :=
      Option.some.inj ((Value.readable?_ofMembers report.members).symm.trans readable)
    have own := presents_self report.members report.members_distinct
    have tasks : Value.read report.members tasksKey = encodeTasks report.tasks :=
      ((presents_sheet_iff _ _ _).mp own).2.2.2.2.2.2.2.2.1
    rw [decodeMembers_eq_ok_iff, tasks, decodeTasks_encodeTasks_iff] at accepted
    obtain ⟨typed, presented, sameTasks, typedTasks⟩ := accepted
    have kinds : other.sheet.kind = report.sheet.kind := by
      have first := ((presents_sheet_iff _ _ _).mp presented).1
      have second := ((presents_sheet_iff _ _ _).mp own).1
      exact Named.injective _ _ (Value.text.inj (first.symm.trans second))
    have names := other.sheet.names_members report.sheet (encodeTasks report.tasks)
      (encodeTasks report.tasks) kinds
    have members : other.sheet.members (encodeTasks report.tasks) = report.members := by
      rw [eq_of_presents _ _ presented, names]
      exact (eq_of_presents _ _ own).symm
    obtain ⟨sheets, -⟩ := Sheet.eq_of_members members
    obtain ⟨sheet, table⟩ := report
    obtain rfl : other.sheet = sheet := sheets
    obtain rfl : other.tasks = table := sameTasks
    exact ⟨rfl, typed, typedTasks⟩
  · rintro ⟨rfl, typed⟩
    exact other.decode_encode typed

end Report

/-- A value that can be read is read by the reader of the kind that it names, with the same result,
and the other readers blame its kind. A value that cannot be read is refused by every reader for the
first broken rule of the format, so the kind is blamed only when nothing else is. What is written of
a record is read by the reader of its own kind alone. -/
theorem kinds_partition_records :
    (∀ value report, Report.decode value = .ok report →
      value.field kindKey = .text report.kind.name ∧
      Report.decodeAs report.kind value = .ok report ∧
      ∀ other, other ≠ report.kind → Report.decodeAs other value = .error .kind) ∧
    (∀ value malformed, Report.decode value = .error malformed →
      malformed ≠ .kind ∧ ∀ kind, Report.decodeAs kind value = .error malformed) ∧
    (∀ value kind,
      ((∃ report, Report.decodeAs kind value = .ok report) ↔ value.IsRecord kind) ∧
      ∀ malformed, Report.decodeAs kind value = .error malformed ↔
        FirstBroken (value.rulesAs kind) malformed) ∧
    Malformed.kind.complaint =
      ⟨.failure .invalid, "checkpoint statistics kind mismatch", none, none⟩ ∧
    ∀ (report : Report) (kind : Kind),
      (∀ read, Report.decodeAs kind report.encode = .ok read ↔
        kind = report.kind ∧ read = report ∧ report.WellTyped) ∧
      (report.WellTyped → kind ≠ report.kind →
        Report.decodeAs kind report.encode = .error .kind) := by
  refine ⟨?partition, ?precedence, ?grammar, rfl, ?written⟩
  case partition =>
    intro value report decoded
    refine ⟨(Report.kind_of_decode decoded report.kind).mpr rfl, ?_, fun other different => ?_⟩
    · exact (Report.decodeAs_eq_ok_iff _ _ _).mpr ⟨decoded, rfl⟩
    · exact Report.decodeAs_of_ne decoded different
  case precedence =>
    intro value malformed failed
    constructor
    · obtain ⟨rule, member, same⟩ := ((Report.decode_follows value).failure malformed failed).mem
      rw [← same]
      exact breach_of_mem_recordRules value rule member
    · intro kind
      rw [Report.decodeAs, failed]
  case grammar =>
    intro value kind
    exact ⟨Report.exists_decodeAs_iff kind value, (Report.decodeAs_follows kind value).eq_error_iff⟩
  case written =>
    intro report kind
    constructor
    · intro read
      rw [Report.decodeAs_eq_ok_iff, Report.decode_encode_iff]
      constructor
      · rintro ⟨⟨rfl, typed⟩, rfl⟩
        exact ⟨rfl, rfl, typed⟩
      · rintro ⟨rfl, rfl, typed⟩
        exact ⟨⟨rfl, typed⟩, rfl⟩
    · intro typed different
      exact Report.decodeAs_of_ne (report.decode_encode typed) different

/-- All the readers refuse a broken record alike, and a sound one has a reader of its own. -/
theorem failed_records_sorted :
    (∀ kind, Report.decodeAs kind tangled = .error (.field "id")) ∧
      Report.decodeAs .failed failedSavepoint.encode = .ok failedSavepoint ∧
      Report.decodeAs .completed failedSavepoint.encode = .error .kind := by
  obtain ⟨-, precedence, -, -, written⟩ := kinds_partition_records
  have typed := failedSavepoint_wellTyped
  refine ⟨(precedence tangled _ rfl).2, ?_, ?_⟩
  · exact ((written failedSavepoint .failed).1 _).mpr ⟨rfl, rfl, typed⟩
  · exact (written failedSavepoint .completed).2 typed Kind.noConfusion

end CheckpointReport
