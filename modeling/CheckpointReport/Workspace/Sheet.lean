/-
This file builds the sheets of tasks and records from attributes. A program may give any values
as attributes, and only a few rules look at them.
-/

import CheckpointReport.Report.Renewal
import CheckpointReport.Summary
import CheckpointReport.Text.Quoted

namespace CheckpointReport

/-- A record is not built when one of these rules is broken. The first in this order is told. -/
inductive Invalid where
  | nullStatus
  | nullType
  | nullTasks
  | excess
  deriving DecidableEq, Repr

def Invalid.message : Invalid → String
  | .nullStatus => "status must not be None"
  | .nullType => "checkpoint_type must not be None"
  | .nullTasks => "tasks must not be None"
  | .excess => excessMessage

/-- A step fails for a name without item, for an item of another type or for a rule of the
records. An item that holds itself cannot be written out, nor compared with a copy. -/
inductive StepError where
  | unknownName
  | misfit (cause : Misfit)
  | assigned (field : String)
  | deleted (field : String)
  | invalid (rule : Invalid)
  | malformed (cause : Malformed)
  | refused (refusal : Refusal)
  | endless
  | endlessComparison
  deriving Repr

def assignedMessage (field : String) : String := "cannot assign to field " ++ Text.quoted field

def deletedMessage (field : String) : String := "cannot delete field " ++ Text.quoted field

def endlessMessage : String := "maximum recursion depth exceeded"

def endlessComparisonMessage : String := endlessMessage ++ " in comparison"

/-- An item of another type is no operand of a step. -/
def StepError.wrongType : StepError := .misfit .operand

def StepError.noAttribute : StepError := .misfit .missing

def Miscount.stepError : Miscount → StepError
  | .excess => .invalid .excess
  | .unordered => .wrongType

/-- A declared attribute has a name and may have a default. -/
abbrev Declared := List (String × Option Value)

namespace Declared

def counters : Declared := Counters.keys.toList.map fun key => (key, none)

def task : Declared := [("id", none), ("status", none)] ++ counters

def common : Declared :=
  [("id", none), ("status", none), ("is_savepoint", none), ("savepoint_format", none),
    ("trigger_timestamp", none)] ++ counters ++ [("checkpoint_type", none)]

def extra : Kind → Declared
  | .inProgress => []
  | .completed => [("external_path", some .null), ("discarded", some (.bool false))]
  | .failed => [("failure_timestamp", some (.int 0)), ("failure_message", some .null)]

def record (kind : Kind) : Declared := common ++ extra kind

/-- Each declared attribute gets the given value, or else its default. -/
def fill? (declared : Declared) (given : Members) : Option Members :=
  declared.mapM fun attribution =>
    match findEntry attribution.1 given with
    | some value => some (attribution.1, value)
    | none => attribution.2.map fun value => (attribution.1, value)

/-- No attribute may be given that is not declared. -/
def covers (declared : Declared) (given : Members) : Bool :=
  given.all fun member => (declared.map Prod.fst).contains member.1

def complete (declared : Declared) (given : Members) : Except StepError Members :=
  match declared.covers given, declared.fill? given with
  | true, some filled => .ok filled
  | _, _ => .error .wrongType

end Declared

/-- A word may be null, but every other value must be a name of its set. -/
def checkWord (α : Type) [Named α] (value : Value) : Except StepError Unit :=
  match value with
  | .null => .ok ()
  | _ =>
      if value.hashable then
        if (value.word? α).isSome then .ok () else .error .unknownName
      else .error .wrongType

/-- The two attributes that hold words are looked up before anything is built. -/
def checkWords (given : Members) : Except StepError Unit := do
  checkWord Status (Value.read given "status")
  checkWord CheckpointType (Value.read given "checkpoint_type")

def countersOf (filled : Members) : Counters Value := Counters.keys.map (Value.read filled)

/-- A task may lack a status. -/
structure TaskSheet where
  id : Value
  status : Option Status
  counters : Counters Value
  within : counters.Within
  deriving Repr

namespace TaskSheet

def ofReport (task : TaskReport) : TaskSheet :=
  ⟨task.id, some task.status, task.counters, task.within⟩

/-- A task without a status has no record form. -/
def report? (sheet : TaskSheet) : Option TaskReport :=
  sheet.status.map fun status => ⟨sheet.id, status, sheet.counters, sheet.within⟩

/-- These are the attributes in declared order. -/
def members (sheet : TaskSheet) : Members :=
  ("id", sheet.id) :: ("status", .ofText? (sheet.status.map Status.name)) ::
    sheet.counters.members

def same (first second : TaskSheet) : Bool := sameAttributes first.members second.members

def renewed (origin : List Nat) (sheet : TaskSheet) : TaskSheet :=
  ⟨sheet.id.renewed origin, sheet.status, sheet.counters.renewed origin,
    sheet.within.renewed origin⟩

def make (given : Members) : Except StepError TaskSheet := do
  let filled ← Declared.task.complete given
  let counters := countersOf filled
  (counters.checked fun within =>
    ⟨Value.read filled "id", (Value.read filled "status").word? Status, counters,
      within⟩).mapError Miscount.stepError

end TaskSheet

def outcomeOf (filled : Members) : Kind → Outcome
  | .inProgress => .inProgress
  | .completed =>
      .completed (Value.read filled "external_path") (Value.read filled "discarded")
  | .failed =>
      .failed (Value.read filled "failure_timestamp") (Value.read filled "failure_message")

/-- A word that is null breaks its rule. -/
def requireWord (α : Type) [Named α] (filled : Members) (name : String) (rule : Invalid) :
    Except StepError α :=
  match (Value.read filled name).word? α with
  | some word => .ok word
  | none => .error (.invalid rule)

/-- The words of the attributes are read before their counters are compared. -/
def readAttributes (kind : Kind) (given : Members) : Except StepError Attributes := do
  let filled ← (Declared.record kind).complete given
  let status ← requireWord Status filled "status" .nullStatus
  let type ← requireWord CheckpointType filled "checkpoint_type" .nullType
  return {
    id := Value.read filled "id"
    status := status
    isSavepoint := Value.read filled "is_savepoint"
    savepointFormat := Value.read filled "savepoint_format"
    trigger := Value.read filled "trigger_timestamp"
    counters := countersOf filled
    type := type
    outcome := outcomeOf filled kind }

def Attributes.sheet (attributes : Attributes) : Except StepError Sheet :=
  attributes.check.mapError Miscount.stepError

def hashableAttributes (attributes : Members) : Bool :=
  attributes.all fun member => member.2.hashable

end CheckpointReport
