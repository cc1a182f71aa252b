/-
This file lists the rules of the record format in the order in which a reader looks at them. It
proves that a reader reports the first broken rule of the list, whatever else is broken.
-/

import CheckpointReport.Complaint
import CheckpointReport.Proofs.Report.Grammar
import CheckpointReport.Proofs.Rule

namespace CheckpointReport

open Rule

namespace Value

/-- A rule about a field blames the field, whether it is missing or does not fit. -/
def fieldRule (value : Value) (fits : Value → Prop) (name : String) : Rule Malformed :=
  ⟨fits (value.field name), .field name⟩

def integerRule (value : Value) (name : String) : Rule Malformed := value.fieldRule IsInteger name

def counterRules (value : Value) : List (Rule Malformed) :=
  Counters.keys.toList.map value.integerRule

def withinRule (value : Value) : Rule Malformed := ⟨value.counters.Within, .excess⟩

/-- The keys of the tasks and of each task must be texts. All of them blame the same field. -/
def keysRule (value : Value) : Rule Malformed := ⟨value.IsTextKeyed, .field tasksKey⟩

/-- The counters of a task come before its other fields. -/
def taskRules (value : Value) : List (Rule Malformed) :=
  value.keysRule :: (value.counterRules ++
    [value.integerRule "id", value.fieldRule (IsWord Status) "status", value.withinRule])

def entries : Value → List (Key × Value)
  | .object members => members
  | _ => []

/-- All keys are looked at before the first task is. -/
def tasksRules (value : Value) : List (Rule Malformed) :=
  value.keysRule :: value.entries.flatMap fun entry => entry.2.taskRules

/-- A rule of one kind does not bind records of other kinds. -/
def kindRule (value : Value) (kind : Kind) (rule : Rule Malformed) : Rule Malformed :=
  ⟨value.field kindKey = .text kind.name → rule.holds, rule.breach⟩

def extraRules (value : Value) : List (Rule Malformed) :=
  [value.kindRule .completed (value.fieldRule IsOptionalText "external_path"),
    value.kindRule .completed (value.fieldRule IsFlag "discarded"),
    value.kindRule .failed (value.integerRule "failure_timestamp"),
    value.kindRule .failed (value.fieldRule IsOptionalText "failure_message")]

/-- These rules come before those of the tasks. -/
def openingRules (value : Value) : List (Rule Malformed) :=
  [⟨value.IsMapping, .record⟩, value.fieldRule (IsWord Kind) kindKey, value.integerRule "id",
    value.fieldRule (IsWord Status) "status", value.fieldRule IsFlag "is_savepoint",
    value.fieldRule IsOptionalText "savepointFormat",
    value.fieldRule (IsWord CheckpointType) "checkpoint_type"]

/-- These rules come after those of the tasks. -/
def closingRules (value : Value) : List (Rule Malformed) :=
  value.integerRule "trigger_timestamp" ::
    (value.counterRules ++ (value.extraRules ++ [value.withinRule]))

/-- This is the order of all the rules of a record. -/
def recordRules (value : Value) : List (Rule Malformed) :=
  value.openingRules ++ ((value.field tasksKey).tasksRules ++ value.closingRules)

end Value

theorem eq_of_require_eq_error {α : Type} {name : String} {found : Option α} {cause : Malformed}
    (failed : require name found = .error cause) : cause = .field name := by
  cases found with
  | none =>
      cases failed
      rfl
  | some value => cases failed

theorem require_follows {α : Type} (name : String) (found : Option α) (holds : Prop)
    (success : (∃ value, found = some value) ↔ holds) :
    Follows (require name found) [⟨holds, .field name⟩] := by
  refine .single _ ?_ fun cause failed => eq_of_require_eq_error failed
  simp only [require_eq_ok_iff]
  exact success

section Fields

variable {value : Value} {record : Members} (fields : Value.read record = value.field)
include fields

theorem readInteger_follows (name : String) :
    Follows (readInteger record name) [value.integerRule name] := by
  refine .single _ ?_ fun cause failed => eq_of_require_eq_error failed
  simp only [readInteger_eq_ok_iff, fields]
  exact Iff.rfl

theorem readFlag_follows (name : String) :
    Follows (readFlag record name) [value.fieldRule Value.IsFlag name] := by
  refine .single _ ?_ fun cause failed => eq_of_require_eq_error failed
  simp only [readFlag_eq_ok_iff, fields]
  exact Iff.rfl

theorem readOptionalText_follows (name : String) :
    Follows (readOptionalText record name) [value.fieldRule Value.IsOptionalText name] := by
  refine .single _ ?_ fun cause failed => eq_of_require_eq_error failed
  simp only [readOptionalText_eq_ok_iff, fields]
  exact (Value.isOptionalText_iff _).symm

theorem readWord_follows (α : Type) [Named α] (name : String) :
    Follows (readWord α record name) [value.fieldRule (Value.IsWord α) name] := by
  refine .single _ ?_ fun cause failed => eq_of_require_eq_error failed
  simp only [readWord_eq_ok_iff, fields]
  exact Iff.rfl

end Fields

/-- The counters are looked at in the order of their table. -/
theorem Counters.traverse_follows {α β ε : Type} {f : α → Except ε β} {ruleOf : α → Rule ε}
    (counters : Counters α) (each : ∀ counter, Follows (f counter) [ruleOf counter]) :
    Follows (counters.traverse f) (counters.toList.map ruleOf) := by
  refine (each _).cons fun latestAck _ => (each _).cons fun checkpointedSize _ => ?_
  refine (each _).cons fun stateSize _ => (each _).cons fun duration _ => ?_
  refine (each _).cons fun alignmentBuffered _ => (each _).cons fun processedData _ => ?_
  refine (each _).cons fun persistedData _ => (each _).cons fun subtasks _ => ?_
  exact (each _).map _

/-- Counters that were read are those of the value, and they are integers. -/
theorem counters_of_read {value : Value} {record : Members}
    (fields : Value.read record = value.field) {counters : Counters Value}
    (read : readCounters record = .ok counters) :
    counters = value.counters ∧ counters.AreIntegers := by
  obtain ⟨integers, presented⟩ := readCounters_eq_ok_iff.mp read
  rw [presents_counters_iff, fields] at presented
  exact ⟨presented, integers⟩

theorem readCounters_follows {value : Value} {record : Members}
    (fields : Value.read record = value.field) :
    Follows (readCounters record) value.counterRules := by
  have read := Counters.keys.traverse_follows fun name => readInteger_follows fields name
  exact read.map fun counters => counters.map Value.int

/-- Integers always have an order, so only an excess is reported. -/
theorem requireWithin_follows {α : Type} {value : Value} {counters : Counters Value}
    (same : counters = value.counters) (integers : counters.AreIntegers)
    (build : counters.Within → α) :
    Follows (requireWithin (counters.checked build)) [value.withinRule] := by
  subst same
  refine .single _ ?_ ?_
  · simp only [requireWithin_eq_ok_iff, Counters.checked_eq_ok_iff _ integers]
    constructor
    · intro built
      obtain ⟨_, within, -⟩ := built
      exact within
    · intro within
      exact ⟨_, within, rfl⟩
  · intro cause failed
    cases checked : value.counters.checked build with
    | ok result =>
        rw [checked] at failed
        cases failed
    | error miscount =>
        rw [checked] at failed
        cases failed
        rfl

theorem exists_members?_iff (value : Value) :
    (∃ record, value.members? = some record) ↔ value.IsTextKeyed := by
  simp only [Value.members?_eq_some_iff, Value.isTextKeyed_iff]

theorem decodeTask_follows (value : Value) : Follows (decodeTask value) value.taskRules := by
  refine (require_follows tasksKey _ _ (exists_members?_iff value)).cons fun record found => ?_
  rw [require_eq_ok_iff, Value.members?_eq_some_iff] at found
  have fields : Value.read record = value.field := found ▸ read_ofMembers record
  refine (readCounters_follows fields).bind fun counters read => ?_
  obtain ⟨same, integers⟩ := counters_of_read fields read
  refine (readInteger_follows fields "id").cons fun id _ => ?_
  refine (readWord_follows fields Status "status").cons fun status _ => ?_
  exact requireWithin_follows same integers _

/-- The tasks are looked at one after the other, in the order of the value. -/
theorem decodeTasks_follows (value : Value) : Follows (decodeTasks value) value.tasksRules := by
  refine (require_follows tasksKey _ _ (exists_members?_iff value)).cons fun record found => ?_
  rw [require_eq_ok_iff, Value.members?_eq_some_iff] at found
  have listed : value.entries.flatMap (fun entry => entry.2.taskRules) =
      record.flatMap fun entry => entry.2.taskRules := by
    rw [found, Value.ofMembers, Value.entries, List.flatMap_map]
  rw [listed]
  have each (entry : String × Value) : Follows (decodeEntry entry) entry.2.taskRules :=
    (decodeTask_follows entry.2).map fun task => (Key.text entry.1, task)
  exact (Follows.mapM record fun entry _ => each entry).map Table.ofList

/-- A rule of another kind holds. -/
theorem kindRule_holds {value : Value} {kind other : Kind} (rule : Rule Malformed)
    (named : value.field kindKey = .text kind.name) (different : kind.name ≠ other.name) :
    (value.kindRule other rule).holds := by
  intro same
  rw [named, Value.text.injEq] at same
  exact absurd same different

/-- A rule of the kind itself binds. -/
theorem kindRule_eq {value : Value} {kind : Kind} (rule : Rule Malformed)
    (named : value.field kindKey = .text kind.name) : value.kindRule kind rule = rule := by
  have bound : (value.field kindKey = .text kind.name → rule.holds) = rule.holds :=
    propext ⟨fun holds => holds named, fun holds _ => holds⟩
  rw [Value.kindRule, bound]

/-- The extra fields are read by the rules of their kind. -/
theorem decodeOutcome_follows {value : Value} {record : Members}
    (fields : Value.read record = value.field) (kind : Kind)
    (named : value.field kindKey = .text kind.name) :
    Follows (decodeOutcome record kind) value.extraRules := by
  cases kind with
  | inProgress =>
      refine (Follows.ok Outcome.inProgress).before _ ?_
      simp only [AllHold, List.forall_mem_cons]
      exact ⟨kindRule_holds _ named (by decide), kindRule_holds _ named (by decide),
        kindRule_holds _ named (by decide), kindRule_holds _ named (by decide),
        List.forall_mem_nil _⟩
  | completed =>
      have read : Follows (decodeOutcome record .completed)
          [value.fieldRule Value.IsOptionalText "external_path",
            value.fieldRule Value.IsFlag "discarded"] := by
        refine (readOptionalText_follows fields "external_path").cons fun path _ => ?_
        exact (readFlag_follows fields "discarded").map _
      have own (rule : Rule Malformed) : value.kindRule .completed rule = rule :=
        kindRule_eq rule named
      rw [Value.extraRules, own, own]
      refine read.before _ ?_
      simp only [AllHold, List.forall_mem_cons]
      exact ⟨kindRule_holds _ named (by decide), kindRule_holds _ named (by decide),
        List.forall_mem_nil _⟩
  | failed =>
      have read : Follows (decodeOutcome record .failed)
          [value.integerRule "failure_timestamp",
            value.fieldRule Value.IsOptionalText "failure_message"] := by
        refine (readInteger_follows fields "failure_timestamp").cons fun timestamp _ => ?_
        exact (readOptionalText_follows fields "failure_message").map _
      have own (rule : Rule Malformed) : value.kindRule .failed rule = rule :=
        kindRule_eq rule named
      rw [Value.extraRules, own, own]
      refine read.after [_, _] ?_
      simp only [AllHold, List.forall_mem_cons]
      exact ⟨kindRule_holds _ named (by decide), kindRule_holds _ named (by decide),
        List.forall_mem_nil _⟩

/-- The chain of readers is the chain of rules. -/
theorem decodeMembers_follows {value : Value} {record : Members}
    (fields : Value.read record = value.field) (mapping : value.IsMapping) :
    Follows (Report.decodeMembers record) value.recordRules := by
  suffices chain : Follows (Report.decodeMembers record)
      (value.openingRules.tail ++ ((value.field tasksKey).tasksRules ++ value.closingRules)) from
    chain.after [_] (List.forall_mem_singleton.mpr mapping)
  refine (readWord_follows fields Kind kindKey).cons fun kind read => ?_
  have named : value.field kindKey = .text kind.name := fields ▸ readWord_eq_ok_iff.mp read
  refine (readInteger_follows fields "id").cons fun id _ => ?_
  refine (readWord_follows fields Status "status").cons fun status _ => ?_
  refine (readFlag_follows fields "is_savepoint").cons fun isSavepoint _ => ?_
  refine (readOptionalText_follows fields "savepointFormat").cons fun savepointFormat _ => ?_
  refine (readWord_follows fields CheckpointType "checkpoint_type").cons fun type _ => ?_
  rw [fields]
  refine (decodeTasks_follows (value.field tasksKey)).bind fun tasks _ => ?_
  refine (readInteger_follows fields "trigger_timestamp").cons fun trigger _ => ?_
  refine (readCounters_follows fields).bind fun counters read => ?_
  obtain ⟨same, integers⟩ := counters_of_read fields read
  refine (decodeOutcome_follows fields kind named).bind fun outcome _ => ?_
  exact (requireWithin_follows same integers _).map _

theorem Report.decode_follows (value : Value) : Follows (Report.decode value) value.recordRules := by
  unfold Report.decode
  cases readable : value.readable? with
  | none =>
      refine .error ⟨value.IsMapping, Malformed.record⟩ _ fun mapping => ?_
      obtain ⟨record, found⟩ := (Value.isMapping_iff value).mp mapping
      cases readable.symm.trans found
  | some record =>
      exact decodeMembers_follows (funext (value.read_eq_field record readable))
        ((Value.isMapping_iff value).mpr ⟨record, readable⟩)

/-- Two values with the same members in any order. Each key stands in them once. -/
inductive Value.Rearranges : Value → Value → Prop where
  | object (members other : List (Key × Value)) (same : members.Perm other)
      (distinct : (identities members).Nodup) : Rearranges (.object members) (.object other)
  | view (members other : Members) (same : members.Perm other)
      (distinct : (identities members).Nodup) : Rearranges (.view members) (.view other)

/-- A reader of members sees them through their names only. -/
theorem decodeMembers_congr {one two : Members} (same : Value.read one = Value.read two) :
    Report.decodeMembers one = Report.decodeMembers two := by
  have integers : readInteger one = readInteger two :=
    funext fun name => by rw [readInteger, readInteger, same]
  have flags : readFlag one = readFlag two := funext fun name => by rw [readFlag, readFlag, same]
  have texts : readOptionalText one = readOptionalText two :=
    funext fun name => by rw [readOptionalText, readOptionalText, same]
  have words (α : Type) [Named α] : readWord α one = readWord α two :=
    funext fun name => by rw [readWord, readWord, same]
  have outcomes : decodeOutcome one = decodeOutcome two := by
    funext kind
    cases kind <;> simp only [decodeOutcome, integers, flags, texts]
  simp only [Report.decodeMembers, resolveKind, readCounters, integers, flags, texts, words,
    outcomes, same]

theorem Report.decode_rearranged {value other : Value} (rearranged : value.Rearranges other) :
    Report.decode other = Report.decode value := by
  cases rearranged with
  | object members other same distinct =>
      refine decodeMembers_congr (funext fun name => ?_)
      rw [Value.read, Value.read, findEntry_text, findEntry_text,
        findEntry_of_perm (Key.text name) same distinct]
  | view members other same distinct =>
      refine decodeMembers_congr (funext fun name => ?_)
      rw [Value.read, Value.read, findEntry_of_perm name same distinct]

/-- A reader reports the first broken rule of the format, in the same class for all of them and
without a status or a cause. A broken task is reported whatever the rules after it say, and the
order of the members changes nothing. -/
theorem first_broken_rule_reported (value : Value) :
    (∀ malformed, Report.decode value = .error malformed ↔
      FirstBroken value.recordRules malformed) ∧
    (∀ malformed, Report.decode value = .error malformed →
      malformed.complaint = ⟨.failure .invalid, malformed.message, none, none⟩) ∧
    (∀ malformed, FirstBroken (value.openingRules ++ (value.field tasksKey).tasksRules) malformed →
      Report.decode value = .error malformed) ∧
    ∀ other, value.Rearranges other → Report.decode other = Report.decode value := by
  have follows := Report.decode_follows value
  refine ⟨follows.eq_error_iff, fun _ _ => rfl, ?_, fun other => Report.decode_rearranged⟩
  intro malformed found
  have extended := found.append_left value.closingRules
  rw [List.append_assoc] at extended
  exact (follows.eq_error_iff malformed).mpr extended

/-- Almost every rule from the second task on is broken here. This task has no identifier and no
known status, and it counts too many acknowledgements. -/
def tangled : Value :=
  .object [(.text "num_subtasks", .bool true), (.int 7, .null),
    (.text "tasks", .ofMembers
      [("first", .ofMembers (("status", .text "FAILED") :: ("id", .int 1) ::
        Counters.keys.toList.map fun name => (name, .int 0))),
      ("second", .ofMembers (("status", .text "failed") ::
        Counters.keys.toList.map fun name => (name, .int name.length)))]),
    (.text "checkpoint_type", .text "SAVEPOINT"), (.text "status", .text "FAILED"),
    (.text "is_savepoint", .bool true), (.text "id", .int (-1)), (.text "className", .text "failed")]

/-- The missing identifier of the second task is told first, in whatever order the members stand. -/
theorem tangled_reported :
    FirstBroken tangled.recordRules (.field "id") ∧
      Report.decode (.object tangled.entries.reverse) = .error (.field "id") := by
  have failed : Report.decode tangled = .error (.field "id") := by rfl
  have distinct : (identities tangled.entries).Nodup := by decide
  have rearranged : tangled.Rearranges (.object tangled.entries.reverse) :=
    .object _ _ tangled.entries.reverse_perm.symm distinct
  obtain ⟨reported, -, -, kept⟩ := first_broken_rule_reported tangled
  exact ⟨(reported _).mp failed, (kept _ rearranged).trans failed⟩

end CheckpointReport
