/-
This file defines the store of a program over records. Its cells hold items under keys, and the
items of a cell may refer to other cells.
-/

import CheckpointReport.Workspace.Sheet
import CheckpointReport.Workspace.Step

namespace CheckpointReport

/-- An item is a task, a cell, or a record that owns a cell. -/
inductive Item where
  | task (sheet : TaskSheet)
  | map (cell : Nat)
  | record (sheet : Sheet) (cell : Nat)
  deriving Repr

namespace Item

/-- These are the cells that an item refers to directly. -/
def cells : Item → List Nat
  | .task _ => []
  | .map cell => [cell]
  | .record _ cell => [cell]

def rename (place : Nat → Nat) : Item → Item
  | .task sheet => .task sheet
  | .map cell => .map (place cell)
  | .record sheet cell => .record sheet (place cell)

/-- The cell of a record is its origin, wherever the record stands. A task has the origin that is
given. -/
def renewed (origin : List Nat) : Item → Item
  | .task sheet => .task (sheet.renewed origin)
  | .map cell => .map cell
  | .record sheet cell => .record (sheet.renewed [cell]) cell

/-- A record among the tasks of another is read like a task, and a cell cannot be read. -/
def report? : Item → Option TaskReport
  | .task sheet => sheet.report?
  | .map _ => none
  | .record sheet _ => some ⟨sheet.id, sheet.status, sheet.counters, sheet.within⟩

/-- These are the names of the declared attributes. A cell declares none. -/
def declared? : Item → Option (List String)
  | .task _ => some (Declared.task.map Prod.fst)
  | .map _ => none
  | .record sheet _ => some (tasksKey :: (Declared.record sheet.kind).map Prod.fst)

/-- A hash is taken from these attributes. A cell can change, so it has none. -/
def hashed? : Item → Option Members
  | .task sheet => some sheet.members
  | .map _ => none
  | .record sheet _ => some sheet.hashed

/-- Each value that goes into a hash must be hashed in turn. -/
def hashedValues (item : Item) : Except StepError (List Value) :=
  match item.hashed? with
  | some attributes =>
      if hashableAttributes attributes then .ok (attributes.map Prod.snd) else .error .wrongType
  | none => .error .wrongType

end Item

/-- The hash of a list of values is chosen elsewhere. Lists with the same values have one hash, and
other lists may share it. -/
structure Hasher where
  hash : List Value → Int
  respects : ∀ first second, Value.sameItems first second = true → hash first = hash second

def Item.hash (hasher : Hasher) (item : Item) : Except StepError Int :=
  item.hashedValues.map hasher.hash

abbrev Cell := Table Key Item

structure Store where
  cells : List Cell
  deriving Repr

namespace Store

def empty : Store := ⟨[]⟩

def size (store : Store) : Nat := store.cells.length

/-- A cell that was never made reads as empty. -/
def cell (store : Store) (place : Nat) : Cell := (store.cells[place]?).getD .empty

/-- A new cell comes after all others, so no item refers to it yet. -/
def add (store : Store) (cell : Cell) : Store := ⟨store.cells ++ [cell]⟩

def update (store : Store) (place : Nat) (f : Cell → Cell) : Store :=
  ⟨store.cells.modify place f⟩

/-- A record can be written when each of its items is read as a task. -/
def report? (store : Store) (sheet : Sheet) (place : Nat) : Option Report := do
  let entries ← (store.cell place).entries.mapM fun entry =>
    entry.2.report?.map fun task => (entry.1, task)
  return ⟨sheet, Table.ofList entries⟩

def encode? (store : Store) : Item → Option Members
  | .task sheet => sheet.report?.map TaskReport.members
  | .map _ => none
  | .record sheet place => (store.report? sheet place).map Report.members

/-- A path through more cells than there are comes back to itself. -/
def attributes (store : Store) : Nat → Item → Except StepError Value
  | _, .task sheet => .ok (.ofMembers sheet.members)
  | 0, _ => .error .endless
  | depth + 1, .map place => do
      let entries ← (store.cell place).entries.mapM fun entry => do
        let value ← store.attributes depth entry.2
        return (entry.1, value)
      return .object entries
  | depth + 1, .record sheet place => do
      let entries ← (store.cell place).entries.mapM fun entry => do
        let value ← store.attributes depth entry.2
        return (entry.1, value)
      return .ofMembers (sheet.common ++ (tasksKey, .object entries) :: sheet.extra)

/-- Each item must have a partner that is the same. The first difference decides. -/
def agree (same : Item → Item → Except StepError Bool) (second : Cell) :
    List (Key × Item) → Except StepError Bool
  | [] => .ok true
  | (key, one) :: rest =>
      match second.get? key with
      | none => .ok false
      | some two => do if ← same one two then agree same second rest else return false

def sameCells (same : Item → Item → Except StepError Bool) (first second : Cell) :
    Except StepError Bool :=
  if first.size = second.size then agree same second first.entries else .ok false

/-- An item that refers to the same cell is the same without a look at the cell. The tasks of a
record come after the attributes of all records and before those of its kind. -/
def same (store : Store) : Nat → Item → Item → Except StepError Bool
  | 0, _, _ => .error .endlessComparison
  | depth + 1, one, two =>
      match one, two with
      | .task one, .task two => .ok (one.same two)
      | .map first, .map second =>
          if first = second then .ok true
          else sameCells (store.same depth) (store.cell first) (store.cell second)
      | .record one first, .record two second =>
          if first = second then .ok true
          else if one.sameCommon two then do
            let tasks ← sameCells (store.same depth) (store.cell first) (store.cell second)
            return tasks && one.sameExtra two
          else .ok false
      | _, _ => .ok false

/-- No comparison passes through more pairs of cells than there are. -/
def compare (store : Store) (one two : Item) : Except StepError Bool :=
  store.same (store.size * store.size + 2) one two

/-- This function adds the cells that are referred to from the cells found so far. -/
def spread (store : Store) (found : List Nat) : List Nat :=
  (found ++ found.flatMap fun place => (store.cell place).values.flatMap Item.cells).eraseDups

def reachable (store : Store) : Nat → List Nat → List Nat
  | 0, found => found
  | count + 1, found =>
      let next := store.spread found
      if next.length = found.length then found else store.reachable count next

/-- The entries of a cell have their origins in the cell. -/
def renewedCell (place : Nat) (cell : Cell) : Cell :=
  Table.ofList (cell.entries.mapIdx fun index entry =>
    (entry.1.renewed [index, place], entry.2.renewed [index, place]))

/-- A copy has cells of its own. They refer to each other as the cells that they are copied
from. -/
def copy (store : Store) (item : Item) : Store × Item :=
  let found := store.reachable store.size item.cells
  let place (cell : Nat) : Nat := store.size + found.idxOf cell
  (⟨store.cells ++ found.map fun cell => (store.cell cell).map (Item.rename place)⟩,
    item.rename place)

/-- One more cell stays empty. It is the origin of a task that is copied alone. -/
def transfer (store : Store) (item : Item) : Store × Item :=
  let (copied, copy) := store.copy item
  let renewed := copied.cells.mapIdx fun place cell =>
    if place < store.size then cell else renewedCell place cell
  (⟨renewed ++ [.empty]⟩, copy.renewed [copied.size])

def copyBy (store : Store) : CopyWay → Item → Store × Item
  | .shared => store.copy
  | .transferred => store.transfer

end Store

end CheckpointReport
