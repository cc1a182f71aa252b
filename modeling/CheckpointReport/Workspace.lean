/-
This file runs programs that build, compare and copy records. A record owns the cell with its
tasks. A program reaches that cell only by asking the record for it.
-/

import CheckpointReport.Workspace.Step
import CheckpointReport.Workspace.Store

namespace CheckpointReport

/-- The tasks that a record is built from are copied. -/
inductive GivenTasks where
  | null
  | cell (tasks : Cell)
  | other

/-- The cells can change, and the names stand for items. -/
structure Workspace where
  store : Store
  names : Table String Item

def Workspace.empty : Workspace := ⟨.empty, .empty⟩

namespace Workspace

def item (space : Workspace) (name : String) : Except StepError Item :=
  match space.names.get? name with
  | some item => .ok item
  | none => .error .unknownName

def mapCell (space : Workspace) (name : String) : Except StepError Nat := do
  match ← space.item name with
  | .map place => .ok place
  | _ => .error .wrongType

def bind (space : Workspace) (name : String) (item : Item) : Workspace :=
  { space with names := space.names.put name item }

def bindMap (space : Workspace) (name : String) (tasks : Cell) : Workspace :=
  { space with store := space.store.add tasks }.bind name (.map space.store.size)

def bindRecord (space : Workspace) (name : String) (sheet : Sheet) (tasks : Cell) : Workspace :=
  { space with store := space.store.add tasks }.bind name (.record sheet space.store.size)

def bindReport (space : Workspace) (name : String) (report : Report) : Workspace :=
  space.bindRecord name report.sheet
    (report.tasks.map fun task => .task (TaskSheet.ofReport task))

def update (space : Workspace) (place : Nat) (f : Cell → Cell) : Workspace :=
  { space with store := space.store.update place f }

def givenTasks (space : Workspace) : TasksField → Except StepError GivenTasks
  | .null => .ok .null
  | .empty => .ok (.cell .empty)
  | .unsuitable => .ok .other
  | .named name => do
      match ← space.item name with
      | .map place => .ok (.cell (space.store.cell place))
      | _ => .ok .other

/-- The words and the tasks are looked up before anything is built. -/
def lookup (space : Workspace) (fields : Fields) : Except StepError (Option GivenTasks) := do
  checkWords fields.members
  match fields.tasks with
  | none => return none
  | some tasks =>
      let given ← space.givenTasks tasks
      return some given

/-- A task has no tasks of its own. -/
def newTask (space : Workspace) (target : String) (members : Members) :
    Option GivenTasks → Except StepError Workspace
  | some _ => .error .wrongType
  | none => do
      let sheet ← TaskSheet.make members
      return space.bind target (.task sheet)

/-- Tasks that are null break a rule, but those of another type are found only after the
counters were compared. -/
def newRecord (space : Workspace) (target : String) (kind : Kind) (members : Members) :
    Option GivenTasks → Except StepError Workspace
  | none => .error .wrongType
  | some tasks => do
      let attributes ← readAttributes kind members
      match tasks with
      | .null => .error (.invalid .nullTasks)
      | .cell tasks =>
          let sheet ← attributes.sheet
          return space.bindRecord target sheet tasks
      | .other =>
          let _ ← attributes.sheet
          .error .wrongType

/-- The changes are written over the attributes that an item has already. -/
def overwrite (old changes : Members) : Members :=
  changes.foldl (fun members change => putEntry change.1 change.2 members) old

def replaceItem (space : Workspace) (target : String) (changes : Members)
    (given : Option GivenTasks) : Item → Except StepError Workspace
  | .task sheet => space.newTask target (overwrite sheet.members changes) given
  | .record sheet place =>
      space.newRecord target sheet.kind (overwrite sheet.hashed changes)
        (some (given.getD (.cell (space.store.cell place))))
  | .map _ => .error .wrongType

def encodeItem (space : Workspace) (item : Item) : Except StepError Members :=
  match space.store.encode? item with
  | some members => .ok members
  | none => .error .noAttribute

/-- Only a task or a record has attributes of its own. -/
def attributesOf (space : Workspace) (item : Item) : Except StepError Value :=
  match item with
  | .map _ => .error .wrongType
  | _ => space.store.attributes (space.store.size + 1) item

def decodeInto (space : Workspace) (target : String) (record : Value) :
    Except StepError Workspace :=
  match Report.decode record with
  | .ok report => .ok (space.bindReport target report)
  | .error malformed => .error (.malformed malformed)

/-- Only a value that can be hashed leads to an item. -/
def keyOf (key : Value) : Except StepError Key := key.asKey.mapError .misfit

/-- Each item is looked up before its key is used. -/
def collect (space : Workspace) (items : List (Value × String)) : Except StepError Cell := do
  let entries ← items.mapM fun entry => do
    let item ← space.item entry.2
    let key ← keyOf entry.1
    return (key, item)
  return Table.ofList entries

/-- A declared attribute is told by its name. A cell has no attribute that could be written. -/
def refuseChange (error : String → StepError) (item : Item) (field : Value) : StepError :=
  match attributeName? field, item.declared? with
  | some name, some names => if names.contains name then error name else .wrongType
  | some _, none => .noAttribute
  | none, _ => .wrongType

/-- No attribute of an item can be changed, whatever its name. -/
def immutable (space : Workspace) (of : String) (field : Value) (error : String → StepError) :
    Except StepError Workspace := do
  let item ← space.item of
  .error (refuseChange error item field)

/-- A step gives a new workspace and a reply, or it fails and nothing has changed. -/
def step (space : Workspace) : WorkStep → Except StepError (Workspace × WorkReply)
  | .task target fields => do
      let given ← space.lookup fields
      let next ← space.newTask target fields.members given
      return (next, .done)
  | .map target items => do
      let tasks ← space.collect items
      return (space.bindMap target tasks, .done)
  | .put map key name => do
      let item ← space.item name
      let place ← space.mapCell map
      let key ← keyOf key
      return (space.update place fun tasks => tasks.put key item, .done)
  | .remove map key => do
      let place ← space.mapCell map
      let key ← keyOf key
      match (space.store.cell place).get? key with
      | some _ => return (space.update place fun tasks => tasks.remove key, .done)
      | none => .error .unknownName
  | .new target kind fields => do
      let given ← space.lookup fields
      let next ← space.newRecord target kind fields.members given
      return (next, .done)
  | .replace source target fields => do
      let item ← space.item source
      let given ← space.lookup fields
      let next ← space.replaceItem target fields.members given item
      return (next, .done)
  | .assign of field => do
      let next ← space.immutable of field .assigned
      return (next, .done)
  | .delete of field => do
      let next ← space.immutable of field .deleted
      return (next, .done)
  | .compare one two => do
      let first ← space.item one
      let second ← space.item two
      let same ← space.store.compare first second
      let firstHashed ← first.hashedValues
      let secondHashed ← second.hashedValues
      return (space, .compared same firstHashed secondHashed)
  | .encode of => do
      let item ← space.item of
      let members ← space.encodeItem item
      return (space, .encoded members)
  | .attributes of => do
      let item ← space.item of
      let value ← space.attributesOf item
      return (space, .attributes value)
  | .decode target record => do
      let next ← space.decodeInto target record
      return (next, .done)
  | .recode source target => do
      let item ← space.item source
      let members ← space.encodeItem item
      let next ← space.decodeInto target (.ofMembers members)
      return (next, .done)
  | .summarize target source detail =>
      match (source.summarize detail).result with
      | .ok report => .ok (space.bindReport target report, .done)
      | .error refusal => .error (.refused refusal)
  | .clone source target way => do
      let item ← space.item source
      let (store, copy) := space.store.copyBy way item
      let same ← store.compare copy item
      return ({ space with store := store }.bind target copy, .cloned same)
  | .tasksOf source target => do
      match ← space.item source with
      | .record _ place =>
          return (space.bind target (.map place), .taskIds (space.store.cell place).keys)
      | _ => .error .noAttribute

/-- A failed step leaves the workspace as it was. -/
def advance (space : Workspace) (step : WorkStep) : Workspace :=
  match space.step step with
  | .ok (next, _) => next
  | .error _ => space

end Workspace

end CheckpointReport
