/-
This file lists the words of the record format. Each word belongs to one closed set, and a
record names it by its text.
-/

namespace CheckpointReport

/-- The names of a closed set of words are pairwise different. -/
class Named (α : Type) where
  all : List α
  name : α → String
  complete : ∀ word, word ∈ all
  injective : ∀ one two, name one = name two → one = two

/-- This function finds the word of a name. -/
def named? (α : Type) [Named α] (name : String) : Option α :=
  (Named.all : List α).find? fun word => Named.name word = name

theorem named?_name {α : Type} [Named α] (word : α) : named? α (Named.name word) = some word := by
  have found : (Named.all : List α).find? (fun other => Named.name other = Named.name word) ≠
      none := by
    intro absent
    have missing := List.find?_eq_none.mp absent word (Named.complete word)
    simp at missing
  obtain ⟨other, hit⟩ := Option.ne_none_iff_exists'.mp found
  have same := List.find?_some hit
  simp only [decide_eq_true_eq] at same
  rw [named?, hit, Named.injective other word same]

theorem named?_eq_some_iff {α : Type} [Named α] {name : String} {word : α} :
    named? α name = some word ↔ Named.name word = name := by
  constructor
  · intro hit
    simpa using List.find?_some hit
  · intro same
    rw [← same, named?_name]

/-- This is where a checkpoint stands in its life. -/
inductive Status where
  | inProgress
  | completed
  | failed
  deriving DecidableEq, Repr

def Status.name : Status → String
  | .inProgress => "IN_PROGRESS"
  | .completed => "COMPLETED"
  | .failed => "FAILED"

instance : Named Status where
  all := [.inProgress, .completed, .failed]
  name := Status.name
  complete word := by cases word <;> decide
  injective one two := by cases one <;> cases two <;> decide

/-- These four tags are all that a reader of records knows about the type of a checkpoint. -/
inductive CheckpointType where
  | checkpoint
  | unalignedCheckpoint
  | savepoint
  | syncSavepoint
  deriving DecidableEq, Repr

def CheckpointType.name : CheckpointType → String
  | .checkpoint => "CHECKPOINT"
  | .unalignedCheckpoint => "UNALIGNED_CHECKPOINT"
  | .savepoint => "SAVEPOINT"
  | .syncSavepoint => "SYNC_SAVEPOINT"

instance : Named CheckpointType where
  all := [.checkpoint, .unalignedCheckpoint, .savepoint, .syncSavepoint]
  name := CheckpointType.name
  complete word := by cases word <;> decide
  injective one two := by cases one <;> cases two <;> decide

inductive SavepointFormat where
  | canonical
  | native
  deriving DecidableEq, Repr

def SavepointFormat.name : SavepointFormat → String
  | .canonical => "CANONICAL"
  | .native => "NATIVE"

instance : Named SavepointFormat where
  all := [.canonical, .native]
  name := SavepointFormat.name
  complete word := by cases word <;> decide
  injective one two := by cases one <;> cases two <;> decide

/-- The kind of a record selects its extra fields. -/
inductive Kind where
  | inProgress
  | completed
  | failed
  deriving DecidableEq, Repr

def Kind.name : Kind → String
  | .inProgress => "in_progress"
  | .completed => "completed"
  | .failed => "failed"

instance : Named Kind where
  all := [.inProgress, .completed, .failed]
  name := Kind.name
  complete word := by cases word <;> decide
  injective one two := by cases one <;> cases two <;> decide

end CheckpointReport
