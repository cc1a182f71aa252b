/-
This file tells what a name stands for after a program has bound it to a record. The record owns
the newest cell, and the cell shows the tasks that the record was made of.
-/

import CheckpointReport.Proofs.Table
import CheckpointReport.Workspace

namespace CheckpointReport

/-- A new cell is found at the end of the store. -/
theorem Store.cell_add (store : Store) (cell : Cell) :
    (store.add cell).cell store.size = cell := by
  simp [Store.cell, Store.add, Store.size]

/-- A cell holds tasks in the form of items. -/
def cellOf (tasks : Table Key TaskReport) : Cell := tasks.map fun task => .task (.ofReport task)

/-- A task keeps its record form when it becomes an item. -/
theorem TaskSheet.report?_ofReport (task : TaskReport) : (ofReport task).report? = some task := rfl

theorem mapM_report?_cellOf (tasks : Table Key TaskReport) :
    (cellOf tasks).entries.mapM (fun entry => entry.2.report?.map fun task => (entry.1, task)) =
      some tasks.entries := by
  change (tasks.entries.map fun entry => (entry.1, Item.task (.ofReport entry.2))).mapM _ = _
  induction tasks.entries with
  | nil => rfl
  | cons entry rest ih =>
      have first : (Item.task (.ofReport entry.2)).report? = some entry.2 :=
        TaskSheet.report?_ofReport entry.2
      rw [List.map_cons, List.mapM_cons, ih]
      simp [first]

/-- A record whose cell holds tasks shows those tasks. -/
theorem Store.report?_of_cell (store : Store) (report : Report) (place : Nat)
    (held : store.cell place = cellOf report.tasks) :
    store.report? report.sheet place = some report := by
  rw [Store.report?, held, mapM_report?_cellOf]
  simp [Table.ofList_self]

namespace Workspace

theorem item_bind (space : Workspace) (name : String) (item : Item) :
    (space.bind name item).item name = .ok item := by
  have found : (space.names.put name item).get? name = some item := by
    rw [Table.get?_put, if_pos rfl]
  simp [Workspace.item, Workspace.bind, found]

/-- The name stands for the record, and the newest cell is its own. -/
theorem item_bindReport (space : Workspace) (name : String) (report : Report) :
    (space.bindReport name report).item name = .ok (.record report.sheet space.store.size) :=
  item_bind _ name _

theorem cell_bindReport (space : Workspace) (name : String) (report : Report) :
    (space.bindReport name report).store.cell space.store.size = cellOf report.tasks :=
  Store.cell_add space.store (cellOf report.tasks)

end Workspace

end CheckpointReport
