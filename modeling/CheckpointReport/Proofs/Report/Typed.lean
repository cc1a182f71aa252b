/-
This file tells when the attributes of a record have their declared types. A record may hold any
values, but only one with such attributes can be read back.
-/

import CheckpointReport.Report

namespace CheckpointReport

namespace Value

/-- A flag is no integer, and neither is a number in binary64. -/
def IsInteger (value : Value) : Prop := ∃ number, value = .int number

def IsFlag (value : Value) : Prop := ∃ flag, value = .bool flag

def IsOptionalText (value : Value) : Prop := value = .null ∨ ∃ content, value = .text content

/-- A word stands in a record by its name. -/
def IsWord (α : Type) [Named α] (value : Value) : Prop :=
  ∃ word : α, value = .text (Named.name word)

/-- An optional text is written from a text that may be lacking. -/
theorem isOptionalText_iff (value : Value) :
    value.IsOptionalText ↔ ∃ content, value = .ofText? content := by
  constructor
  · intro optional
    rcases optional with rfl | ⟨content, rfl⟩
    · exact ⟨none, rfl⟩
    · exact ⟨some content, rfl⟩
  · intro optional
    obtain ⟨content, rfl⟩ := optional
    cases content with
    | none => exact Or.inl rfl
    | some content => exact Or.inr ⟨content, rfl⟩

end Value

namespace Counters

def AreIntegers (counters : Counters Value) : Prop :=
  ∀ counter ∈ counters.toList, counter.IsInteger

/-- Counters are integers exactly when they are written from integers. -/
theorem areIntegers_iff (counters : Counters Value) :
    counters.AreIntegers ↔ ∃ numbers : Counters Int, counters = numbers.map Value.int := by
  constructor
  · intro integers
    obtain ⟨a, b, c, d, e, f, g, h, i⟩ := counters
    simp only [AreIntegers, toList, List.mem_cons, List.not_mem_nil, or_false, forall_eq_or_imp,
      forall_eq] at integers
    obtain ⟨⟨a, rfl⟩, ⟨b, rfl⟩, ⟨c, rfl⟩, ⟨d, rfl⟩, ⟨e, rfl⟩, ⟨f, rfl⟩, ⟨g, rfl⟩, ⟨h, rfl⟩,
      ⟨i, rfl⟩⟩ := integers
    exact ⟨⟨a, b, c, d, e, f, g, h, i⟩, rfl⟩
  · intro given counter member
    obtain ⟨numbers, rfl⟩ := given
    simp only [map, toList, List.mem_cons, List.not_mem_nil, or_false] at member
    rcases member with rfl | rfl | rfl | rfl | rfl | rfl | rfl | rfl | rfl <;> exact ⟨_, rfl⟩

/-- Integers always have an order, so the check of their rule fails for an excess only. -/
theorem checked_eq_ok_iff {α : Type} (counters : Counters Value) (integers : counters.AreIntegers)
    (build : counters.Within → α) (result : α) :
    counters.checked build = .ok result ↔ ∃ within, build within = result := by
  obtain ⟨numbers, rfl⟩ := (areIntegers_iff counters).mp integers
  have order : (numbers.map Value.int).acknowledged.exceeds? (numbers.map Value.int).subtasks =
      some (decide (numbers.subtasks < numbers.acknowledged)) :=
    Value.exceeds?_int numbers.acknowledged numbers.subtasks
  unfold checked
  split
  · rename_i fine
    constructor
    · intro built
      exact ⟨within_of_exceeds? _ fine, Except.ok.inj built⟩
    · intro given
      obtain ⟨within, rfl⟩ := given
      rfl
  · rename_i excess
    have more : numbers.subtasks < numbers.acknowledged := by
      simpa [excess] using order
    constructor
    · intro built
      cases built
    · intro given
      obtain ⟨within, -⟩ := given
      have := (within_int numbers).mp within
      omega
  · rename_i unordered
    simp [unordered] at order

end Counters

structure TaskReport.WellTyped (task : TaskReport) : Prop where
  id : task.id.IsInteger
  counters : task.counters.AreIntegers

def Outcome.WellTyped : Outcome → Prop
  | .inProgress => True
  | .completed externalPath discarded => externalPath.IsOptionalText ∧ discarded.IsFlag
  | .failed failureTimestamp failureMessage =>
      failureTimestamp.IsInteger ∧ failureMessage.IsOptionalText

structure Sheet.WellTyped (sheet : Sheet) : Prop where
  id : sheet.id.IsInteger
  isSavepoint : sheet.isSavepoint.IsFlag
  savepointFormat : sheet.savepointFormat.IsOptionalText
  trigger : sheet.trigger.IsInteger
  counters : sheet.counters.AreIntegers
  outcome : sheet.outcome.WellTyped

/-- The tasks of a record are known by texts. -/
def TasksWellTyped (tasks : Table Key TaskReport) : Prop :=
  ∀ entry ∈ tasks.entries, (∃ name, entry.1 = .text name) ∧ entry.2.WellTyped

structure Report.WellTyped (report : Report) : Prop where
  sheet : report.sheet.WellTyped
  tasks : TasksWellTyped report.tasks

end CheckpointReport
