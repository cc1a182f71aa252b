/-
This file tells all that one step of a program can do to a workspace. Later proofs look at these
moves only and never at the steps themselves.
-/

import CheckpointReport.Proofs.Success
import CheckpointReport.Proofs.Workspace.Binding
import CheckpointReport.Proofs.Workspace.Order

namespace CheckpointReport

/-- A workspace holds what its names stand for and what stands in its cells. -/
inductive Workspace.Holds (space : Workspace) (item : Item) : Prop where
  | named (name : String) (found : space.names.get? name = some item)
  | kept (place : Nat) (member : item ∈ (space.store.cell place).values)

/-- This is the name that a step binds. -/
def WorkStep.target? : WorkStep → Option String
  | .task target _ => some target
  | .map target _ => some target
  | .new target _ _ => some target
  | .replace _ target _ => some target
  | .decode target _ => some target
  | .recode _ target => some target
  | .summarize target _ _ => some target
  | .clone _ target _ => some target
  | .tasksOf _ target => some target
  | _ => none

/-- This is the name through which a step changes a cell. -/
def WorkStep.changed? : WorkStep → Option String
  | .put name _ _ => some name
  | .remove name _ => some name
  | _ => none

namespace Workspace

/-- A step looks at the workspace only, makes something new under its target, or changes one cell
through a name for it. A new record has a cell of its own, and the counters of whatever is made are
in order. -/
inductive Move (space : Workspace) (step : WorkStep) : Workspace → Prop where
  | stays : space.Move step space
  | makesTask (target : String) (sheet : TaskSheet) (known : step.target? = some target)
      (ordered : sheet.counters.InOrder) :
      space.Move step (space.bind target (.task sheet))
  | makesMap (target : String) (items : List (Value × String)) (tasks : Cell)
      (known : step = .map target items) (held : ∀ item ∈ tasks.values, space.Holds item) :
      space.Move step (space.bindMap target tasks)
  | makesRecord (target : String) (sheet : Sheet) (tasks : Cell)
      (known : step.target? = some target)
      (held : ∀ item ∈ tasks.values, space.Holds item ∨ ∃ task, item = .task task)
      (ordered : sheet.counters.InOrder)
      (tasksOrdered : ∀ item ∈ tasks.values, space.Holds item ∨ item.InOrder) :
      space.Move step (space.bindRecord target sheet tasks)
  | puts (name source : String) (given : Value) (place : Nat) (key : Key) (item : Item)
      (known : step = .put name given source) (found : space.names.get? name = some (.map place))
      (held : space.Holds item) :
      space.Move step (space.update place fun tasks => tasks.put key item)
  | removes (name : String) (given : Value) (place : Nat) (key : Key)
      (known : step = .remove name given) (found : space.names.get? name = some (.map place)) :
      space.Move step (space.update place fun tasks => tasks.remove key)
  | copies (source target : String) (way : CopyWay) (item : Item)
      (known : step = .clone source target way) (found : space.names.get? source = some item) :
      space.Move step ({ space with store := (space.store.copyBy way item).1 }.bind target
        (space.store.copyBy way item).2)
  | takes (source target : String) (sheet : Sheet) (place : Nat)
      (known : step = .tasksOf source target)
      (found : space.names.get? source = some (.record sheet place)) :
      space.Move step (space.bind target (.map place))

theorem item_eq_ok_iff (space : Workspace) (name : String) (item : Item) :
    space.item name = .ok item ↔ space.names.get? name = some item := by
  rw [Workspace.item]
  cases space.names.get? name <;> simp

/-- A name leads to a cell only when it stands for the cell itself. -/
theorem mapCell_eq_ok_iff (space : Workspace) (name : String) (place : Nat) :
    space.mapCell name = .ok place ↔ space.names.get? name = some (.map place) := by
  rw [mapCell, Success.bind_eq_ok_iff]
  simp only [item_eq_ok_iff]
  constructor
  · intro found
    obtain ⟨item, named, same⟩ := found
    cases item with
    | map cell =>
        cases same
        exact named
    | _ => cases same
  · intro named
    exact ⟨_, named, rfl⟩

/-- Tasks are given by the items of a cell, which are held. -/
theorem held_of_givenTasks (space : Workspace) (field : TasksField) (tasks : Cell)
    (given : space.givenTasks field = .ok (.cell tasks)) :
    ∀ item ∈ tasks.values, space.Holds item := by
  cases field with
  | null => cases given
  | empty =>
      cases given
      exact List.forall_mem_nil _
  | unsuitable => cases given
  | named name =>
      rw [givenTasks, Success.bind_eq_ok_iff] at given
      obtain ⟨item, -, same⟩ := given
      cases item with
      | map place =>
          cases same
          exact fun item member => .kept place member
      | _ => cases same

/-- Given tasks are items that the workspace holds already. -/
theorem held_of_lookup (space : Workspace) (fields : Fields) (tasks : Cell)
    (given : space.lookup fields = .ok (some (.cell tasks))) :
    ∀ item ∈ tasks.values, space.Holds item := by
  rw [lookup, Success.bind_eq_ok_iff] at given
  obtain ⟨-, -, given⟩ := given
  cases field : fields.tasks with
  | none =>
      rw [field] at given
      cases given
  | some tasksField =>
      rw [field] at given
      obtain ⟨found, known, same⟩ := Success.bind_eq_ok_iff.mp given
      cases same
      exact space.held_of_givenTasks tasksField tasks known

theorem held_of_collect (space : Workspace) (items : List (Value × String)) (tasks : Cell)
    (collected : space.collect items = .ok tasks) : ∀ item ∈ tasks.values, space.Holds item := by
  obtain ⟨entries, found, same⟩ := Success.bind_eq_ok_iff.mp collected
  cases same
  refine Table.forall_values_ofList entries space.Holds ?_
  refine Success.forall_results (Success.mapM_eq_ok_iff.mp found) ?_
  intro entry member result done
  obtain ⟨item, named, done⟩ := Success.bind_eq_ok_iff.mp done
  obtain ⟨key, -, same⟩ := Success.bind_eq_ok_iff.mp done
  cases same
  exact .named entry.2 ((space.item_eq_ok_iff entry.2 item).mp named)

theorem bind_of_newTask (space next : Workspace) (target : String) (members : Members)
    (given : Option GivenTasks) (done : space.newTask target members given = .ok next) :
    ∃ sheet, next = space.bind target (.task sheet) ∧ sheet.counters.InOrder := by
  cases given with
  | some tasks => cases done
  | none =>
      rw [newTask, Success.bind_eq_ok_iff] at done
      obtain ⟨sheet, made, bound⟩ := done
      cases bound
      exact ⟨sheet, rfl, TaskSheet.inOrder_of_make members sheet made⟩

/-- A record is built from attributes that were read and from a cell of tasks only. -/
theorem bindRecord_of_newRecord (space next : Workspace) (target : String) (kind : Kind)
    (members : Members) (given : Option GivenTasks)
    (done : space.newRecord target kind members given = .ok next) :
    ∃ attributes sheet tasks, readAttributes kind members = .ok attributes ∧
      attributes.check = .ok sheet ∧ given = some (.cell tasks) ∧
        next = space.bindRecord target sheet tasks := by
  cases given with
  | none => cases done
  | some tasks =>
      rw [newRecord, Success.bind_eq_ok_iff] at done
      obtain ⟨attributes, read, made⟩ := done
      cases tasks with
      | null => cases made
      | cell tasks =>
          obtain ⟨sheet, checked, bound⟩ := Success.bind_eq_ok_iff.mp made
          cases bound
          exact ⟨attributes, sheet, tasks, read, Success.mapError_eq_ok_iff.mp checked, rfl, rfl⟩
      | other =>
          obtain ⟨sheet, -, bound⟩ := Success.bind_eq_ok_iff.mp made
          cases bound

/-- The tasks of a record that was read are tasks and nothing else. -/
theorem makesRecord_of_report (space : Workspace) (step : WorkStep) (target : String)
    (report : Report) (known : step.target? = some target) (ordered : report.InOrder) :
    space.Move step (space.bindReport target report) := by
  have tasks : ∀ item ∈ (report.tasks.map fun task => Item.task (.ofReport task)).values,
      ∃ task ∈ report.tasks.values, .task (.ofReport task) = item := by
    intro item member
    rw [Table.values_map] at member
    exact List.mem_map.mp member
  refine .makesRecord target report.sheet _ known ?_ ordered.sheet ?_
  · intro item member
    obtain ⟨task, -, rfl⟩ := tasks item member
    exact Or.inr ⟨_, rfl⟩
  · intro item member
    obtain ⟨task, among, rfl⟩ := tasks item member
    exact Or.inr ((Item.inOrder_task_iff _).mpr (ordered.tasks task among))

/-- What is read is bound as a record, and its counters are in order. -/
theorem bindReport_of_decodeInto (space next : Workspace) (target : String) (record : Value)
    (done : space.decodeInto target record = .ok next) :
    ∃ report, next = space.bindReport target report ∧ report.InOrder := by
  rw [decodeInto] at done
  cases read : Report.decode record with
  | ok report =>
      rw [read] at done
      cases done
      exact ⟨report, rfl, Report.inOrder_of_decode record report read⟩
  | error malformed =>
      rw [read] at done
      cases done

theorem makesRecord_of_newRecord (space next : Workspace) (step : WorkStep) (target : String)
    (kind : Kind) (members : Members) (given : Option GivenTasks)
    (known : step.target? = some target)
    (held : ∀ tasks, given = some (.cell tasks) → ∀ item ∈ tasks.values, space.Holds item)
    (done : space.newRecord target kind members given = .ok next) : space.Move step next := by
  obtain ⟨attributes, sheet, tasks, -, checked, rfl, rfl⟩ :=
    space.bindRecord_of_newRecord next target kind members given done
  have before (item : Item) (member : item ∈ tasks.values) : space.Holds item :=
    held tasks rfl item member
  exact .makesRecord target sheet tasks known (fun item member => Or.inl (before item member))
    (attributes.inOrder_of_check sheet checked) fun item member => Or.inl (before item member)

/-- A record keeps the tasks that are not replaced. They stand in its own cell. -/
theorem move_of_replaceItem (space next : Workspace) (source target : String) (fields : Fields)
    (given : Option GivenTasks) (item : Item) (looked : space.lookup fields = .ok given)
    (built : space.replaceItem target fields.members given item = .ok next) :
    space.Move (.replace source target fields) next := by
  cases item with
  | task sheet =>
      obtain ⟨sheet, rfl, ordered⟩ := space.bind_of_newTask next target _ given built
      exact .makesTask target sheet rfl ordered
  | map place => cases built
  | record sheet place =>
      refine space.makesRecord_of_newRecord next _ target sheet.kind
        (overwrite sheet.hashed fields.members)
        (some (given.getD (.cell (space.store.cell place)))) rfl ?_ built
      intro tasks same
      cases given with
      | none =>
          cases same
          exact fun item member => .kept place member
      | some given =>
          cases same
          exact space.held_of_lookup fields tasks looked

/-- A step that succeeds makes one of these moves. -/
theorem move_of_step (space next : Workspace) (step : WorkStep) (reply : WorkReply)
    (done : space.step step = .ok (next, reply)) : space.Move step next := by
  cases step with
  | task target fields =>
      obtain ⟨given, -, done⟩ := Success.bind_eq_ok_iff.mp done
      obtain ⟨next, built, same⟩ := Success.bind_eq_ok_iff.mp done
      cases same
      obtain ⟨sheet, rfl, ordered⟩ :=
        space.bind_of_newTask next target fields.members given built
      exact .makesTask target sheet rfl ordered
  | map target items =>
      obtain ⟨tasks, collected, same⟩ := Success.bind_eq_ok_iff.mp done
      cases same
      exact .makesMap target items tasks rfl (space.held_of_collect items tasks collected)
  | put map key name =>
      obtain ⟨item, named, done⟩ := Success.bind_eq_ok_iff.mp done
      obtain ⟨place, found, done⟩ := Success.bind_eq_ok_iff.mp done
      obtain ⟨written, -, same⟩ := Success.bind_eq_ok_iff.mp done
      cases same
      exact .puts map name key place written item rfl ((space.mapCell_eq_ok_iff map place).mp found)
        (.named name ((space.item_eq_ok_iff name item).mp named))
  | remove map key =>
      obtain ⟨place, found, done⟩ := Success.bind_eq_ok_iff.mp done
      obtain ⟨written, -, done⟩ := Success.bind_eq_ok_iff.mp done
      cases present : (space.store.cell place).get? written with
      | none =>
          rw [present] at done
          cases done
      | some item =>
          rw [present] at done
          cases done
          exact .removes map key place written rfl ((space.mapCell_eq_ok_iff map place).mp found)
  | new target kind fields =>
      obtain ⟨given, looked, done⟩ := Success.bind_eq_ok_iff.mp done
      obtain ⟨next, built, same⟩ := Success.bind_eq_ok_iff.mp done
      cases same
      refine space.makesRecord_of_newRecord next _ target kind fields.members given rfl ?_ built
      intro tasks same
      exact space.held_of_lookup fields tasks (same ▸ looked)
  | replace source target fields =>
      obtain ⟨item, -, done⟩ := Success.bind_eq_ok_iff.mp done
      obtain ⟨given, looked, done⟩ := Success.bind_eq_ok_iff.mp done
      obtain ⟨next, built, same⟩ := Success.bind_eq_ok_iff.mp done
      cases same
      exact space.move_of_replaceItem next source target fields given item looked built
  | assign of field =>
      obtain ⟨next, changed, -⟩ := Success.bind_eq_ok_iff.mp done
      obtain ⟨item, -, refused⟩ := Success.bind_eq_ok_iff.mp changed
      cases refused
  | delete of field =>
      obtain ⟨next, changed, -⟩ := Success.bind_eq_ok_iff.mp done
      obtain ⟨item, -, refused⟩ := Success.bind_eq_ok_iff.mp changed
      cases refused
  | compare one two =>
      obtain ⟨first, -, done⟩ := Success.bind_eq_ok_iff.mp done
      obtain ⟨second, -, done⟩ := Success.bind_eq_ok_iff.mp done
      obtain ⟨same, -, done⟩ := Success.bind_eq_ok_iff.mp done
      obtain ⟨firstHashed, -, done⟩ := Success.bind_eq_ok_iff.mp done
      obtain ⟨secondHashed, -, done⟩ := Success.bind_eq_ok_iff.mp done
      cases done
      exact .stays
  | encode of =>
      obtain ⟨item, -, done⟩ := Success.bind_eq_ok_iff.mp done
      obtain ⟨members, -, done⟩ := Success.bind_eq_ok_iff.mp done
      cases done
      exact .stays
  | attributes of =>
      obtain ⟨item, -, done⟩ := Success.bind_eq_ok_iff.mp done
      obtain ⟨value, -, done⟩ := Success.bind_eq_ok_iff.mp done
      cases done
      exact .stays
  | decode target record =>
      obtain ⟨next, read, same⟩ := Success.bind_eq_ok_iff.mp done
      cases same
      obtain ⟨report, rfl, ordered⟩ := space.bindReport_of_decodeInto next target record read
      exact space.makesRecord_of_report _ target report rfl ordered
  | recode source target =>
      obtain ⟨item, -, done⟩ := Success.bind_eq_ok_iff.mp done
      obtain ⟨members, -, done⟩ := Success.bind_eq_ok_iff.mp done
      obtain ⟨next, read, same⟩ := Success.bind_eq_ok_iff.mp done
      cases same
      obtain ⟨report, rfl, ordered⟩ := space.bindReport_of_decodeInto next target _ read
      exact space.makesRecord_of_report _ target report rfl ordered
  | summarize target source detail =>
      rw [Workspace.step] at done
      cases summed : (source.summarize detail).result with
      | error refusal =>
          rw [summed] at done
          cases done
      | ok report =>
          rw [summed] at done
          cases done
          exact space.makesRecord_of_report _ target report rfl
            (Report.inOrder_of_summarize source detail report summed)
  | clone source target way =>
      obtain ⟨item, found, done⟩ := Success.bind_eq_ok_iff.mp done
      obtain ⟨same, -, done⟩ := Success.bind_eq_ok_iff.mp done
      cases done
      exact .copies source target way item rfl ((space.item_eq_ok_iff source item).mp found)
  | tasksOf source target =>
      obtain ⟨item, found, done⟩ := Success.bind_eq_ok_iff.mp done
      cases item with
      | record sheet place =>
          cases done
          exact .takes source target sheet place rfl ((space.item_eq_ok_iff source _).mp found)
      | task sheet => cases done
      | map place => cases done

end Workspace

end CheckpointReport
