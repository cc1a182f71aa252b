/-
This file gives the grammar of records and proves that a reader accepts its values and no others.
What is read loses nothing that the grammar names.
-/

import CheckpointReport.Proofs.Report.Reading

namespace CheckpointReport

namespace Value

/-- An object and a view have the value of a text, and nothing else has any. -/
def member? : Value → String → Option Value
  | .object members, name => findEntry (Key.text name) members
  | .view members, name => findEntry name members
  | _, _ => none

/-- A missing field counts as null. -/
def field (value : Value) (name : String) : Value := (value.member? name).getD .null

def IsMapping : Value → Prop
  | .object _ => True
  | .view _ => True
  | _ => False

def IsTextKeyed : Value → Prop
  | .object members => ∀ member ∈ members, ∃ name, member.1 = .text name
  | _ => False

def counters (value : Value) : Counters Value := Counters.keys.map value.field

/-- A task may have any other fields, but every key must be a text. -/
structure IsTask (value : Value) : Prop where
  object : value.IsTextKeyed
  id : (value.field "id").IsInteger
  status : (value.field "status").IsWord Status
  counters : value.counters.AreIntegers
  within : value.counters.Within

def IsTasks : Value → Prop
  | .object members => ∀ member ∈ members, (∃ name, member.1 = .text name) ∧ member.2.IsTask
  | _ => False

/-- The kind of a record decides which extra fields are looked at. -/
def HasExtra (value : Value) : Kind → Prop
  | .inProgress => True
  | .completed => (value.field "external_path").IsOptionalText ∧ (value.field "discarded").IsFlag
  | .failed =>
      (value.field "failure_timestamp").IsInteger ∧
        (value.field "failure_message").IsOptionalText

/-- A record may be a view, and it may have any other members under any keys. -/
structure IsRecord (value : Value) (kind : Kind) : Prop where
  mapping : value.IsMapping
  className : value.field "className" = .text kind.name
  id : (value.field "id").IsInteger
  status : (value.field "status").IsWord Status
  isSavepoint : (value.field "is_savepoint").IsFlag
  savepointFormat : (value.field "savepointFormat").IsOptionalText
  type : (value.field "checkpoint_type").IsWord CheckpointType
  tasks : (value.field "tasks").IsTasks
  trigger : (value.field "trigger_timestamp").IsInteger
  counters : value.counters.AreIntegers
  extra : value.HasExtra kind
  within : value.counters.Within

/-- The part of a task that its fields name, in their order. -/
def restrictTask (value : Value) : Value :=
  .ofMembers (("id" :: "status" :: Counters.keys.toList).map fun name => (name, value.field name))

def restrictTasks : Value → Value
  | .object members => .object (members.map fun member => (member.1, member.2.restrictTask))
  | value => value

/-- These are the fields of every record that come before the extra fields of its kind. -/
def commonFields : List String :=
  ["className", "id", "status", "is_savepoint", "savepointFormat", "trigger_timestamp"] ++
    Counters.keys.toList ++ ["checkpoint_type", "tasks"]

def extraFields : Kind → List String
  | .inProgress => []
  | .completed => ["external_path", "discarded"]
  | .failed => ["failure_timestamp", "failure_message"]

/-- The part of a record that the fields of its kind name, in their order. -/
def restrict (value : Value) (kind : Kind) : Value :=
  .ofMembers ((commonFields ++ extraFields kind).map fun name =>
    (name, if name = "tasks" then (value.field name).restrictTasks else value.field name))

/-- An object holds each key once. -/
def HasDistinctKeys : Value → Prop
  | .object members => (identities members).Nodup
  | _ => True

theorem isMapping_iff (value : Value) :
    value.IsMapping ↔ ∃ record, value.readable? = some record := by
  cases value <;> simp [IsMapping, readable?]

/-- The reader and the grammar see the same fields. -/
theorem read_eq_field (value : Value) (record : Members) (found : value.readable? = some record)
    (name : String) : read record name = value.field name := by
  cases value with
  | object members =>
      cases found
      rw [read, findEntry_text]
      rfl
  | view members =>
      cases found
      rfl
  | _ => cases found

/-- An object has text keys only when it is made of members. -/
theorem isTextKeyed_iff (value : Value) :
    value.IsTextKeyed ↔ ∃ record, value = .ofMembers record := by
  constructor
  · intro keyed
    cases value with
    | object members =>
        induction members with
        | nil => exact ⟨[], rfl⟩
        | cons member rest ih =>
            obtain ⟨name, named⟩ := keyed member List.mem_cons_self
            obtain ⟨record, same⟩ := ih fun other present =>
              keyed other (List.mem_cons_of_mem _ present)
            refine ⟨(name, member.2) :: record, ?_⟩
            rw [ofMembers, Value.object.injEq] at same ⊢
            rw [List.map_cons, ← same, ← named]
    | _ => cases keyed
  · intro made
    obtain ⟨record, rfl⟩ := made
    intro member present
    obtain ⟨named, -, rfl⟩ := List.mem_map.mp present
    exact ⟨named.1, rfl⟩

end Value

/-- Presented members are the values of their names. -/
theorem eq_of_presents (record members : Members) (presented : Presents record members) :
    members = (members.map Prod.fst).map fun name => (name, Value.read record name) := by
  induction members with
  | nil => rfl
  | cons member rest ih =>
      obtain ⟨name, value⟩ := member
      obtain ⟨first, others⟩ := (presents_cons_iff record name value rest).mp presented
      rw [List.map_cons, List.map_cons, ← ih others, first]

theorem presents_counters_iff (record : Members) (counters : Counters Value) :
    Presents record counters.members ↔ counters = Counters.keys.map (Value.read record) := by
  obtain ⟨a, b, c, d, e, f, g, h, i⟩ := counters
  simp [Presents, Counters.members, Counters.keys, Counters.toList, Counters.map, eq_comm]

theorem read_ofMembers (record : Members) : Value.read record = (Value.ofMembers record).field :=
  funext (Value.read_eq_field _ record (Value.readable?_ofMembers record))

/-- A value is a task of the grammar when some task is read from it. -/
theorem isTask_iff (value : Value) : value.IsTask ↔ ∃ task, decodeTask value = .ok task := by
  constructor
  · intro wellFormed
    obtain ⟨record, rfl⟩ := (Value.isTextKeyed_iff value).mp wellFormed.object
    obtain ⟨status, named⟩ := wellFormed.status
    let task : TaskReport :=
      ⟨(Value.ofMembers record).field "id", status, (Value.ofMembers record).counters,
        wellFormed.within⟩
    have counted : Presents record task.counters.members := by
      rw [presents_counters_iff, read_ofMembers]
      rfl
    refine ⟨task, decodeTask_eq_ok_iff.mpr ⟨⟨wellFormed.id, wellFormed.counters⟩, record, rfl, ?_⟩⟩
    simp only [TaskReport.members, presents_cons_iff, read_ofMembers]
    exact ⟨rfl, named, counted⟩
  · intro read
    obtain ⟨task, decoded⟩ := read
    obtain ⟨typed, record, rfl, presented⟩ := decodeTask_eq_ok_iff.mp decoded
    simp only [TaskReport.members, presents_cons_iff, presents_counters_iff, read_ofMembers]
      at presented
    obtain ⟨id, status, counters⟩ := presented
    have counted : (Value.ofMembers record).counters = task.counters := counters.symm
    exact {
      object := (Value.isTextKeyed_iff _).mpr ⟨record, rfl⟩
      id := id ▸ typed.id
      status := ⟨task.status, status⟩
      counters := counted ▸ typed.counters
      within := counted ▸ task.within }

/-- What is read from a task is written as the part that its fields name. -/
theorem encode_of_decodeTask {value : Value} {task : TaskReport}
    (decoded : decodeTask value = .ok task) : task.encode = value.restrictTask := by
  obtain ⟨-, record, rfl, presented⟩ := decodeTask_eq_ok_iff.mp decoded
  have names : task.members.map Prod.fst = "id" :: "status" :: Counters.keys.toList := by
    simp [TaskReport.members, Counters.members, Counters.toList]
  rw [TaskReport.encode, Value.restrictTask, eq_of_presents record task.members presented, names,
    read_ofMembers]

/-- The grammar of tasks is what the reader of tasks accepts. -/
theorem isTasks_iff (value : Value) : value.IsTasks ↔ ∃ tasks, decodeTasks value = .ok tasks := by
  have each (entry : String × Value) :
      (∃ result, decodeEntry entry = .ok result) ↔ entry.2.IsTask := by
    rw [isTask_iff]
    constructor
    · intro found
      obtain ⟨result, decoded⟩ := found
      exact ⟨result.2, (decodeEntry_eq_ok_iff.mp decoded).2⟩
    · intro found
      obtain ⟨task, decoded⟩ := found
      exact ⟨(.text entry.1, task), decodeEntry_eq_ok_iff.mpr ⟨rfl, decoded⟩⟩
  constructor
  · intro wellFormed
    have keyed : value.IsTextKeyed := by
      cases value with
      | object members => exact fun member present => (wellFormed member present).1
      | _ => cases wellFormed
    obtain ⟨entries, rfl⟩ := (Value.isTextKeyed_iff value).mp keyed
    obtain ⟨read, decoded⟩ := (Success.exists_forall₂_iff (fun entry result =>
        decodeEntry entry = .ok result) entries).mpr (by
      intro entry present
      exact (each entry).mpr (wellFormed _ (List.mem_map_of_mem present)).2)
    exact ⟨Table.ofList read, decodeTasks_eq_ok_iff.mpr ⟨entries, read, rfl, decoded, rfl⟩⟩
  · intro found
    obtain ⟨tasks, decoded⟩ := found
    obtain ⟨entries, read, rfl, related, -⟩ := decodeTasks_eq_ok_iff.mp decoded
    intro member present
    obtain ⟨entry, inside, rfl⟩ := List.mem_map.mp present
    exact ⟨⟨entry.1, rfl⟩,
      (each entry).mp ((Success.exists_forall₂_iff _ entries).mp ⟨read, related⟩ entry inside)⟩

/-- The tasks that are read are written as the parts that the fields of a task name. The object
may hold no key twice, since a table would keep only the last of its tasks. -/
theorem encodeTasks_of_decodeTasks {value : Value} {tasks : Table Key TaskReport}
    (decoded : decodeTasks value = .ok tasks) (distinct : value.HasDistinctKeys) :
    encodeTasks tasks = value.restrictTasks := by
  obtain ⟨entries, read, rfl, related, rfl⟩ := decodeTasks_eq_ok_iff.mp decoded
  have same : identities read =
        identities (entries.map fun entry => (Key.text entry.1, entry.2)) ∧
      read.map (fun entry => (entry.1, entry.2.encode)) =
        entries.map fun entry => (Key.text entry.1, entry.2.restrictTask) := by
    clear decoded distinct
    induction related with
    | nil => exact ⟨rfl, rfl⟩
    | cons first _ ih =>
        obtain ⟨key, task⟩ := decodeEntry_eq_ok_iff.mp first
        rw [List.map_cons, List.map_cons, List.map_cons, identities_cons, identities_cons, ih.1,
          ih.2, key, encode_of_decodeTask task]
        exact ⟨rfl, rfl⟩
  have kept : (Table.ofList read).entries = read :=
    Table.ofList_entries read (same.1 ▸ distinct)
  rw [encodeTasks, kept, same.2, Value.ofMembers, Value.restrictTasks, List.map_map]
  rfl

/-- The extra fields of a kind make up an outcome of that kind. -/
theorem hasExtra_iff (value : Value) (record : Members)
    (fields : Value.read record = value.field) (kind : Kind) :
    value.HasExtra kind ↔
      ∃ outcome : Outcome,
        outcome.kind = kind ∧ outcome.WellTyped ∧ Presents record outcome.members := by
  constructor
  · intro extra
    cases kind with
    | inProgress => exact ⟨.inProgress, rfl, trivial, presents_nil record⟩
    | completed =>
        refine ⟨.completed (value.field "external_path") (value.field "discarded"), rfl, extra, ?_⟩
        simp [Outcome.members, Presents, fields]
    | failed =>
        refine ⟨.failed (value.field "failure_timestamp") (value.field "failure_message"), rfl,
          extra, ?_⟩
        simp [Outcome.members, Presents, fields]
  · intro found
    obtain ⟨outcome, rfl, typed, presented⟩ := found
    cases outcome with
    | inProgress => trivial
    | completed externalPath discarded =>
        simp only [Outcome.members, presents_cons_iff, fields] at presented
        obtain ⟨path, flag, -⟩ := presented
        exact ⟨path ▸ typed.1, flag ▸ typed.2⟩
    | failed failureTimestamp failureMessage =>
        simp only [Outcome.members, presents_cons_iff, fields] at presented
        obtain ⟨timestamp, message, -⟩ := presented
        exact ⟨timestamp ▸ typed.1, message ▸ typed.2⟩

/-- A record of the grammar presents the sheet that is made of its fields. -/
theorem exists_decode_of_isRecord {value : Value} {kind : Kind}
    (wellFormed : value.IsRecord kind) : ∃ report, Report.decode value = .ok report := by
  obtain ⟨record, readable⟩ := (Value.isMapping_iff value).mp wellFormed.mapping
  have fields : Value.read record = value.field :=
    funext (value.read_eq_field record readable)
  obtain ⟨status, isStatus⟩ := wellFormed.status
  obtain ⟨type, isType⟩ := wellFormed.type
  obtain ⟨tasks, decoded⟩ := (isTasks_iff _).mp wellFormed.tasks
  obtain ⟨outcome, sameKind, typed, added⟩ :=
    (hasExtra_iff value record fields kind).mp wellFormed.extra
  let sheet : Sheet :=
    { id := value.field "id"
      status := status
      isSavepoint := value.field "is_savepoint"
      savepointFormat := value.field "savepointFormat"
      trigger := value.field "trigger_timestamp"
      counters := value.counters
      type := type
      outcome := outcome
      within := wellFormed.within }
  have counted : Presents record sheet.counters.members := by
    rw [presents_counters_iff, fields]
    rfl
  have named : value.field "className" = .text sheet.kind.name := by
    rw [wellFormed.className, ← sameKind]
    rfl
  refine ⟨⟨sheet, tasks⟩, Report.decode_eq_ok_iff.mpr ⟨record, readable, ?_⟩⟩
  rw [decodeMembers_eq_ok_iff, presents_sheet_iff, fields]
  exact ⟨⟨wellFormed.id, wellFormed.isSavepoint, wellFormed.savepointFormat, wellFormed.trigger,
    wellFormed.counters, typed⟩,
    ⟨named, rfl, isStatus, rfl, rfl, rfl, counted, isType, rfl, added⟩, decoded⟩

/-- What is read obeys the grammar. -/
theorem isRecord_of_decode {value : Value} {report : Report}
    (decoded : Report.decode value = .ok report) : value.IsRecord report.kind := by
  obtain ⟨record, readable, accepted⟩ := Report.decode_eq_ok_iff.mp decoded
  have fields : Value.read record = value.field :=
    funext (value.read_eq_field record readable)
  rw [decodeMembers_eq_ok_iff, presents_sheet_iff, presents_counters_iff, fields] at accepted
  obtain ⟨typed, ⟨named, id, status, isSavepoint, format, trigger, counters, type, -, added⟩,
    tasks⟩ := accepted
  have counted : value.counters = report.sheet.counters := counters.symm
  exact {
    mapping := (Value.isMapping_iff value).mpr ⟨record, readable⟩
    className := named
    id := id ▸ typed.id
    status := ⟨report.sheet.status, status⟩
    isSavepoint := isSavepoint ▸ typed.isSavepoint
    savepointFormat := format ▸ typed.savepointFormat
    type := ⟨report.sheet.type, type⟩
    tasks := (isTasks_iff _).mpr ⟨report.tasks, tasks⟩
    trigger := trigger ▸ typed.trigger
    counters := counted ▸ typed.counters
    extra := (hasExtra_iff value record fields report.kind).mpr
      ⟨report.sheet.outcome, rfl, typed.outcome, added⟩
    within := counted ▸ report.sheet.within }

/-- The fields of a record come in the same order wherever they stand. -/
theorem Sheet.members_eq_restrict (value tasks : Value) (record : Members) (sheet : Sheet)
    (fields : Value.read record = value.field)
    (presented : Presents record (sheet.members (value.field tasksKey))) :
    sheet.members tasks =
      (Value.commonFields ++ Value.extraFields sheet.kind).map fun name =>
        (name, if name = "tasks" then tasks else value.field name) := by
  rw [presents_sheet_iff, presents_counters_iff, fields] at presented
  obtain ⟨named, id, status, isSavepoint, format, trigger, counters, type, -, added⟩ := presented
  have extra : sheet.extra =
      (Value.extraFields sheet.kind).map fun name =>
        (name, if name = "tasks" then tasks else value.field name) := by
    have values := eq_of_presents record sheet.outcome.members added
    rw [fields] at values
    rw [Sheet.extra, Sheet.kind, values]
    cases sheet.outcome <;> simp [Outcome.members, Outcome.kind, Value.extraFields]
  have className : value.field "className" = .text sheet.kind.name := named
  rw [Sheet.members, Sheet.common, extra, List.map_append, counters]
  simp [Value.commonFields, Counters.members, Counters.keys, Counters.toList, Counters.map, wireKey,
    kindKey, tasksKey, className, id, status, isSavepoint, format, trigger, type]

/-- What is read from a record is written as the part that the fields of its kind name. -/
theorem encode_of_decode {value : Value} {report : Report}
    (decoded : Report.decode value = .ok report)
    (distinct : (value.field tasksKey).HasDistinctKeys) :
    report.encode = value.restrict report.kind := by
  obtain ⟨record, readable, accepted⟩ := Report.decode_eq_ok_iff.mp decoded
  have fields : Value.read record = value.field :=
    funext (value.read_eq_field record readable)
  rw [decodeMembers_eq_ok_iff, fields] at accepted
  obtain ⟨-, presented, tasks⟩ := accepted
  rw [Report.encode, Report.members, encodeTasks_of_decodeTasks tasks distinct,
    Sheet.members_eq_restrict value _ record report.sheet fields presented]
  apply congrArg Value.ofMembers
  apply List.map_congr_left
  intro name _
  by_cases same : name = "tasks"
  · simp [same, tasksKey]
  · simp [same]

/-- A reader accepts exactly the records of the grammar, and what it reads is written as the part
of the record that the fields of its kind name. -/
theorem reading_accepts_grammar (value : Value) :
    ((∃ report, Report.decode value = .ok report) ↔ ∃ kind, value.IsRecord kind) ∧
    ∀ report, Report.decode value = .ok report →
      value.IsRecord report.kind ∧
      ((value.field tasksKey).HasDistinctKeys → report.encode = value.restrict report.kind) := by
  refine ⟨⟨?_, ?_⟩, ?_⟩
  · intro found
    obtain ⟨report, decoded⟩ := found
    exact ⟨report.kind, isRecord_of_decode decoded⟩
  · intro found
    obtain ⟨kind, wellFormed⟩ := found
    exact exists_decode_of_isRecord wellFormed
  · intro report decoded
    exact ⟨isRecord_of_decode decoded, encode_of_decode decoded⟩

/-- A view of a completed checkpoint with one task. It lacks the optional texts, and it has a
member that belongs to failed checkpoints, of a type that would not fit there. -/
def completedView : Value :=
  .view (("className", .text "completed") :: ("failure_timestamp", .bool true) ::
    ("discarded", .bool false) :: ("is_savepoint", .bool false) ::
    ("id", .int 100000000000000000000) :: ("checkpoint_type", .text "CHECKPOINT") ::
    ("trigger_timestamp", .int 3) :: ("status", .text "COMPLETED") ::
    ("tasks", .ofMembers [("vertex", .ofMembers
      (("note", .null) :: ("id", .int 1) :: ("status", .text "FAILED") ::
        Counters.keys.toList.map fun name => (name, .int 0)))]) ::
    Counters.keys.toList.map fun name => (name, .int (-1)))

/-- The view obeys the grammar of completed records. -/
theorem completedView_isRecord : completedView.IsRecord .completed where
  mapping := trivial
  className := rfl
  id := ⟨_, rfl⟩
  status := ⟨.completed, rfl⟩
  isSavepoint := ⟨_, rfl⟩
  savepointFormat := Or.inl rfl
  type := ⟨.checkpoint, rfl⟩
  tasks := by
    intro member present
    obtain rfl := List.mem_singleton.mp present
    refine ⟨⟨"vertex", rfl⟩, ?_⟩
    exact {
      object := (Value.isTextKeyed_iff _).mpr ⟨_, rfl⟩
      id := ⟨_, rfl⟩
      status := ⟨.failed, rfl⟩
      counters := (Counters.areIntegers_iff _).mpr ⟨⟨0, 0, 0, 0, 0, 0, 0, 0, 0⟩, rfl⟩
      within := (Counters.within_int ⟨0, 0, 0, 0, 0, 0, 0, 0, 0⟩).mpr (by decide) }
  trigger := ⟨_, rfl⟩
  counters := (Counters.areIntegers_iff _).mpr ⟨⟨-1, -1, -1, -1, -1, -1, -1, -1, -1⟩, rfl⟩
  extra := ⟨Or.inl rfl, ⟨_, rfl⟩⟩
  within := (Counters.within_int ⟨-1, -1, -1, -1, -1, -1, -1, -1, -1⟩).mpr (by decide)

/-- The view is read, and the record is written with the members of the view that belong to its
kind. -/
theorem completedView_accepted :
    ∃ report, Report.decode completedView = .ok report ∧
      report.encode = completedView.restrict report.kind := by
  have distinct : (completedView.field tasksKey).HasDistinctKeys := by
    change ([_] : List _).Nodup
    simp
  obtain ⟨report, decoded⟩ :=
    (reading_accepts_grammar completedView).1.mpr ⟨.completed, completedView_isRecord⟩
  exact ⟨report, decoded, ((reading_accepts_grammar completedView).2 report decoded).2 distinct⟩

end CheckpointReport
