/-
This file tells what a reader of records accepts. It accepts a value for a record exactly when the
value presents every member of the record under its name and the record is well typed.
-/

import CheckpointReport.Proofs.Report.Typed
import CheckpointReport.Proofs.Success
import CheckpointReport.Proofs.Table
import CheckpointReport.Report.Codec

namespace CheckpointReport

open Success

/-- A record presents some members when it holds each of them under its name. It may hold others,
and it may leave out a member that is null. -/
def Presents (record members : Members) : Prop :=
  ∀ member ∈ members, Value.read record member.1 = member.2

theorem presents_nil (record : Members) : Presents record [] := by
  intro member impossible
  cases impossible

theorem presents_cons_iff (record : Members) (name : String) (value : Value) (rest : Members) :
    Presents record ((name, value) :: rest) ↔
      Value.read record name = value ∧ Presents record rest :=
  List.forall_mem_cons

theorem presents_append_iff (record first second : Members) :
    Presents record (first ++ second) ↔ Presents record first ∧ Presents record second :=
  List.forall_mem_append

/-- Members with different names present themselves. -/
theorem presents_self (members : Members) (distinct : (members.map Prod.fst).Nodup) :
    Presents members members := by
  induction members with
  | nil => exact presents_nil []
  | cons head rest ih =>
      obtain ⟨name, value⟩ := head
      obtain ⟨fresh, others⟩ := List.nodup_cons.mp distinct
      rw [presents_cons_iff]
      refine ⟨by simp [Value.read, findEntry], ?_⟩
      intro member present
      have different : ¬ name = member.1 := by
        intro same
        exact fresh (List.mem_map.mpr ⟨member, present, same.symm⟩)
      rw [← ih others member present]
      simp [Value.read, findEntry, different]

theorem require_eq_ok_iff {α : Type} {name : String} {found : Option α} {value : α} :
    require name found = .ok value ↔ found = some value := by
  cases found <;> simp [require]

theorem readInteger_eq_ok_iff {record : Members} {name : String} {number : Int} :
    readInteger record name = .ok number ↔ Value.read record name = .int number := by
  rw [readInteger, require_eq_ok_iff]
  cases Value.read record name <;> simp [Value.integer?]

theorem readFlag_eq_ok_iff {record : Members} {name : String} {flag : Bool} :
    readFlag record name = .ok flag ↔ Value.read record name = .bool flag := by
  rw [readFlag, require_eq_ok_iff]
  cases Value.read record name <;> simp [Value.flag?]

theorem readOptionalText_eq_ok_iff {record : Members} {name : String} {content : Option String} :
    readOptionalText record name = .ok content ↔ Value.read record name = .ofText? content := by
  rw [readOptionalText, require_eq_ok_iff]
  cases Value.read record name <;> cases content <;> simp [Value.optionalText?, Value.ofText?]

theorem readWord_eq_ok_iff {α : Type} [Named α] {record : Members} {name : String} {word : α} :
    readWord α record name = .ok word ↔ Value.read record name = .text (Named.name word) := by
  rw [readWord, require_eq_ok_iff]
  cases Value.read record name with
  | text content =>
      simp only [Value.word?, Value.text?, Option.bind_some, named?_eq_some_iff, Value.text.injEq]
      exact eq_comm
  | _ => simp [Value.word?, Value.text?]

theorem requireWithin_eq_ok_iff {α : Type} {checked : Except Miscount α} {value : α} :
    requireWithin checked = .ok value ↔ checked = .ok value := by
  cases checked <;> simp [requireWithin]

/-- All counters are read when each of them is. -/
theorem Counters.traverse_eq_ok_iff {α β ε : Type} {f : α → Except ε β} {counters : Counters α}
    {results : Counters β} :
    counters.traverse f = .ok results ↔
      List.Forall₂ (fun counter result => f counter = .ok result)
        counters.toList results.toList := by
  obtain ⟨a, b, c, d, e, g, h, i, j⟩ := results
  simp only [traverse, bind_eq_ok_iff, pure_eq_ok_iff, toList, List.forall₂_cons,
    List.Forall₂.nil, and_true, mk.injEq]
  constructor
  · intro success
    obtain ⟨_, a, _, b, _, c, _, d, _, e, _, g, _, h, _, i, _, j, rfl, rfl, rfl, rfl, rfl, rfl,
      rfl, rfl, rfl⟩ := success
    exact ⟨a, b, c, d, e, g, h, i, j⟩
  · intro given
    obtain ⟨a, b, c, d, e, g, h, i, j⟩ := given
    exact ⟨_, a, _, b, _, c, _, d, _, e, _, g, _, h, _, i, _, j, rfl, rfl, rfl, rfl, rfl, rfl,
      rfl, rfl, rfl⟩

/-- Counters are read exactly when they are integers that the members present. -/
theorem readCounters_eq_ok_iff {record : Members} {counters : Counters Value} :
    readCounters record = .ok counters ↔
      counters.AreIntegers ∧ Presents record counters.members := by
  simp only [readCounters, bind_eq_ok_iff, pure_eq_ok_iff, Counters.traverse_eq_ok_iff,
    readInteger_eq_ok_iff, Counters.areIntegers_iff]
  constructor
  · intro success
    obtain ⟨numbers, read, rfl⟩ := success
    refine ⟨⟨numbers, rfl⟩, ?_⟩
    simpa [Presents, Counters.members, Counters.toList, Counters.map] using read
  · intro given
    obtain ⟨⟨numbers, rfl⟩, presented⟩ := given
    refine ⟨numbers, ?_, rfl⟩
    simpa [Presents, Counters.members, Counters.toList, Counters.map] using presented

/-- A task is read from an object that presents it. -/
theorem decodeTask_eq_ok_iff {value : Value} {task : TaskReport} :
    decodeTask value = .ok task ↔
      task.WellTyped ∧ ∃ record, value = .ofMembers record ∧ Presents record task.members := by
  simp only [decodeTask, bind_eq_ok_iff, require_eq_ok_iff, Value.members?_eq_some_iff,
    readCounters_eq_ok_iff, readInteger_eq_ok_iff, readWord_eq_ok_iff, requireWithin_eq_ok_iff,
    TaskReport.make]
  constructor
  · intro success
    obtain ⟨record, found, counters, ⟨integers, presented⟩, id, first, status, second, made⟩ :=
      success
    obtain ⟨within, rfl⟩ := (Counters.checked_eq_ok_iff counters integers _ _).mp made
    refine ⟨⟨⟨id, rfl⟩, integers⟩, record, found, ?_⟩
    simp only [TaskReport.members, presents_cons_iff]
    exact ⟨first, second, presented⟩
  · intro given
    obtain ⟨⟨⟨id, integer⟩, integers⟩, record, found, presented⟩ := given
    simp only [TaskReport.members, presents_cons_iff, integer] at presented
    obtain ⟨first, second, others⟩ := presented
    refine ⟨record, found, task.counters, ⟨integers, others⟩, id, first, task.status, second, ?_⟩
    rw [Counters.checked_eq_ok_iff task.counters integers]
    exact ⟨task.within, by rw [← integer]⟩

/-- An entry keeps its name, and its task is read. -/
theorem decodeEntry_eq_ok_iff {entry : String × Value} {result : Key × TaskReport} :
    decodeEntry entry = .ok result ↔
      result.1 = .text entry.1 ∧ decodeTask entry.2 = .ok result.2 := by
  obtain ⟨key, task⟩ := result
  simp only [decodeEntry, bind_eq_ok_iff, pure_eq_ok_iff, Prod.mk.injEq]
  constructor
  · intro success
    obtain ⟨_, read, rfl, rfl⟩ := success
    exact ⟨rfl, read⟩
  · intro given
    obtain ⟨rfl, read⟩ := given
    exact ⟨task, read, rfl, rfl⟩

/-- The tasks are read one by one, and then they fill a table. -/
theorem decodeTasks_eq_ok_iff {value : Value} {tasks : Table Key TaskReport} :
    decodeTasks value = .ok tasks ↔
      ∃ entries read, value = .ofMembers entries ∧
        List.Forall₂ (fun entry result => decodeEntry entry = .ok result) entries read ∧
        Table.ofList read = tasks := by
  simp only [decodeTasks, bind_eq_ok_iff, require_eq_ok_iff, Value.members?_eq_some_iff,
    pure_eq_ok_iff, mapM_eq_ok_iff]
  constructor
  · intro success
    obtain ⟨entries, found, read, decoded, filled⟩ := success
    exact ⟨entries, read, found, decoded, filled⟩
  · intro given
    obtain ⟨entries, read, found, decoded, filled⟩ := given
    exact ⟨entries, found, read, decoded, filled⟩

/-- The extra fields of a kind are read exactly when they are typed and presented. The cases are the
kinds. -/
theorem decodeOutcome_eq_ok_iff {record : Members} {kind : Kind} {outcome : Outcome} :
    decodeOutcome record kind = .ok outcome ↔
      outcome.kind = kind ∧ outcome.WellTyped ∧ Presents record outcome.members := by
  cases kind with
  | inProgress =>
      cases outcome <;>
        simp [decodeOutcome, Outcome.kind, Outcome.WellTyped, Outcome.members, presents_nil]
  | completed =>
      simp only [decodeOutcome, bind_eq_ok_iff, pure_eq_ok_iff, readOptionalText_eq_ok_iff,
        readFlag_eq_ok_iff]
      constructor
      · intro decoded
        obtain ⟨path, first, flag, second, rfl⟩ := decoded
        refine ⟨rfl, ⟨(Value.isOptionalText_iff _).mpr ⟨path, rfl⟩, ⟨flag, rfl⟩⟩, ?_⟩
        simp only [Outcome.members, presents_cons_iff]
        exact ⟨first, second, presents_nil record⟩
      · intro accepted
        obtain ⟨same, typed, presented⟩ := accepted
        cases outcome with
        | completed externalPath discarded =>
            obtain ⟨optional, ⟨flag, rfl⟩⟩ := typed
            obtain ⟨path, rfl⟩ := (Value.isOptionalText_iff externalPath).mp optional
            simp only [Outcome.members, presents_cons_iff] at presented
            exact ⟨path, presented.1, flag, presented.2.1, rfl⟩
        | inProgress => cases same
        | failed _ _ => cases same
  | failed =>
      simp only [decodeOutcome, bind_eq_ok_iff, pure_eq_ok_iff, readOptionalText_eq_ok_iff,
        readInteger_eq_ok_iff]
      constructor
      · intro decoded
        obtain ⟨number, first, content, second, rfl⟩ := decoded
        refine ⟨rfl, ⟨⟨number, rfl⟩, (Value.isOptionalText_iff _).mpr ⟨content, rfl⟩⟩, ?_⟩
        simp only [Outcome.members, presents_cons_iff]
        exact ⟨first, second, presents_nil record⟩
      · intro accepted
        obtain ⟨same, typed, presented⟩ := accepted
        cases outcome with
        | failed failureTimestamp failureMessage =>
            obtain ⟨⟨number, rfl⟩, optional⟩ := typed
            obtain ⟨content, rfl⟩ := (Value.isOptionalText_iff failureMessage).mp optional
            simp only [Outcome.members, presents_cons_iff] at presented
            exact ⟨number, presented.1, content, presented.2.1, rfl⟩
        | inProgress => cases same
        | completed _ _ => cases same

/-- The savepoint format is the only attribute that is renamed in a record. -/
theorem presents_sheet_iff (record : Members) (sheet : Sheet) (tasks : Value) :
    Presents record (sheet.members tasks) ↔
      Value.read record kindKey = .text sheet.kind.name ∧
      Value.read record "id" = sheet.id ∧
      Value.read record "status" = .text sheet.status.name ∧
      Value.read record "is_savepoint" = sheet.isSavepoint ∧
      Value.read record "savepointFormat" = sheet.savepointFormat ∧
      Value.read record "trigger_timestamp" = sheet.trigger ∧
      Presents record sheet.counters.members ∧
      Value.read record "checkpoint_type" = .text sheet.type.name ∧
      Value.read record tasksKey = tasks ∧
      Presents record sheet.outcome.members := by
  have kept : sheet.counters.members.map (fun member => (wireKey member.1, member.2)) =
      sheet.counters.members := by
    simp [Counters.members, Counters.keys, Counters.toList, wireKey]
  simp only [Sheet.members, Sheet.common, Sheet.extra, List.map_append, kept, List.map_cons,
    List.map_nil, List.cons_append, List.nil_append, List.append_assoc, presents_cons_iff,
    presents_append_iff]
  simp [wireKey]

/-- A record is read from members that present it, and its tasks are read apart. -/
theorem decodeMembers_eq_ok_iff {record : Members} {report : Report} :
    Report.decodeMembers record = .ok report ↔
      report.sheet.WellTyped ∧
        Presents record (report.sheet.members (Value.read record tasksKey)) ∧
        decodeTasks (Value.read record tasksKey) = .ok report.tasks := by
  rw [presents_sheet_iff]
  simp only [Report.decodeMembers, resolveKind, bind_eq_ok_iff, pure_eq_ok_iff,
    readWord_eq_ok_iff, readInteger_eq_ok_iff, readFlag_eq_ok_iff, readOptionalText_eq_ok_iff,
    readCounters_eq_ok_iff, decodeOutcome_eq_ok_iff, requireWithin_eq_ok_iff, Attributes.check]
  constructor
  · intro decoded
    obtain ⟨kind, named, id, first, status, second, flag, third, format, fourth, type, fifth,
      tasks, read, trigger, sixth, counters, ⟨integers, counted⟩, outcome,
      ⟨sameKind, typed, added⟩, sheet, checked, rfl⟩ := decoded
    obtain ⟨within, rfl⟩ := (Counters.checked_eq_ok_iff counters integers _ _).mp checked
    have optional : (Value.ofText? format).IsOptionalText :=
      (Value.isOptionalText_iff _).mpr ⟨format, rfl⟩
    subst sameKind
    exact ⟨⟨⟨id, rfl⟩, ⟨flag, rfl⟩, optional, ⟨trigger, rfl⟩, integers, typed⟩,
      ⟨named, first, second, third, fourth, sixth, counted, fifth, trivial, added⟩, read⟩
  · intro accepted
    obtain ⟨sheet, tasks⟩ := report
    obtain ⟨⟨⟨id, isId⟩, ⟨flag, isFlag⟩, optional, ⟨trigger, isTrigger⟩, integers, typed⟩,
      ⟨named, first, second, third, fourth, sixth, counted, fifth, -, added⟩, read⟩ := accepted
    obtain ⟨format, isFormat⟩ := (Value.isOptionalText_iff sheet.savepointFormat).mp optional
    refine ⟨sheet.kind, named, id, first.trans isId, sheet.status, second, flag,
      third.trans isFlag, format, fourth.trans isFormat, sheet.type, fifth, tasks, read,
      trigger, sixth.trans isTrigger, sheet.counters, ⟨integers, counted⟩, sheet.outcome,
      ⟨rfl, typed, added⟩, sheet, ?_, rfl⟩
    rw [Counters.checked_eq_ok_iff sheet.counters integers]
    exact ⟨sheet.within, by simp only [← isId, ← isFlag, ← isFormat, ← isTrigger]⟩

namespace Report

theorem decode_eq_ok_iff {value : Value} {report : Report} :
    decode value = .ok report ↔
      ∃ record, value.readable? = some record ∧ decodeMembers record = .ok report := by
  unfold decode
  cases value.readable? <;> simp

end Report

end CheckpointReport
