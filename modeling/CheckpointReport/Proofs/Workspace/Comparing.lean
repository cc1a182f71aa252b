/-
This file compares the records of a workspace whose attributes and tasks have their declared types.
A comparison looks at two records as they stand in the workspace at that moment.
-/

import CheckpointReport.Proofs.Workspace.Hashing
import CheckpointReport.Proofs.Workspace.Ownership

namespace CheckpointReport

section Cells

variable (tasks : Table Key TaskReport) (key : Key) (task : TaskReport)

theorem values_cellOf : (cellOf tasks).values =
    tasks.values.map fun task => .task (.ofReport task) :=
  Table.values_map _ tasks

theorem cellOf_put : (cellOf tasks).put key (.task (.ofReport task)) =
    cellOf (tasks.put key task) :=
  Table.map_put (fun task => Item.task (.ofReport task)) tasks key task

theorem cellOf_remove : (cellOf tasks).remove key = cellOf (tasks.remove key) :=
  Table.map_remove _ tasks key

theorem get?_cellOf : (cellOf tasks).get? key =
    (tasks.get? key).map fun task => .task (.ofReport task) :=
  Table.get?_map _ tasks key

end Cells

/-- A cell tells the tasks that it holds. -/
theorem cellOf_injective {first second : Table Key TaskReport}
    (same : cellOf first = cellOf second) : first = second := by
  have read := mapM_report?_cellOf first
  rw [same, mapM_report?_cellOf] at read
  exact Table.eq_of_entries (Option.some.inj read).symm

namespace TasksWellTyped

variable {tasks : Table Key TaskReport} (typed : TasksWellTyped tasks)
include typed

theorem put (name : String) (task : TaskReport) (well : task.WellTyped) :
    TasksWellTyped (tasks.put (.text name) task) := by
  apply forall_putEntry (Key.text name) task tasks.entries
    (fun entry => (∃ name, entry.1 = .text name) ∧ entry.2.WellTyped)
  · exact typed
  · exact ⟨⟨name, rfl⟩, well⟩
  · exact fun entry present => ⟨(typed entry present).1, well⟩

theorem remove (key : Key) : TasksWellTyped (tasks.remove key) := fun entry present =>
  typed entry (List.mem_filter.mp present).1

end TasksWellTyped

/-- A cell with typed tasks only is the cell of a table of tasks. -/
theorem exists_cellOf (cell : Cell)
    (typed : ∀ entry ∈ cell.entries, (∃ name, entry.1 = .text name) ∧
      ∃ task : TaskReport, entry.2 = .task (.ofReport task) ∧ task.WellTyped) :
    ∃ tasks, cell = cellOf tasks ∧ TasksWellTyped tasks := by
  have listed (entries : List (Key × Item))
      (typed : ∀ entry ∈ entries, (∃ name, entry.1 = .text name) ∧
        ∃ task : TaskReport, entry.2 = .task (.ofReport task) ∧ task.WellTyped) :
      ∃ tasks : List (Key × TaskReport),
        entries = tasks.map (fun entry => (entry.1, .task (.ofReport entry.2))) ∧
          ∀ entry ∈ tasks, (∃ name, entry.1 = .text name) ∧ entry.2.WellTyped := by
    induction entries with
    | nil => exact ⟨[], rfl, List.forall_mem_nil _⟩
    | cons entry rest ih =>
        obtain ⟨key, item⟩ := entry
        obtain ⟨⟨named, task, rfl, well⟩, others⟩ := List.forall_mem_cons.mp typed
        obtain ⟨tasks, rfl, fine⟩ := ih others
        exact ⟨(key, task) :: tasks, rfl, List.forall_mem_cons.mpr ⟨⟨named, well⟩, fine⟩⟩
  obtain ⟨tasks, same, fine⟩ := listed cell.entries typed
  have distinct : (identities tasks).Nodup := by
    have before := cell.distinct
    rw [same] at before
    simpa [identities, Function.comp_def] using before
  exact ⟨⟨tasks, distinct⟩, Table.eq_of_entries same, fine⟩

namespace Store

variable (store : Store)

theorem cell_update (place : Nat) (f : Cell → Cell) (inside : place < store.size) :
    (store.update place f).cell place = f (store.cell place) := by
  have found : store.cells[place]? = some store.cells[place] := List.getElem?_eq_getElem inside
  simp [cell, update, found]

/-- Tasks are compared one by one, whatever else is in the store. -/
theorem sameCells_cellOf (depth : Nat) (first second : Table Key TaskReport) :
    sameCells (store.same (depth + 1)) (cellOf first) (cellOf second) =
      .ok (first.agree TaskReport.same second) := by
  have each (entries : List (Key × TaskReport)) :
      agree (store.same (depth + 1)) (cellOf second)
          (entries.map fun entry => (entry.1, .task (.ofReport entry.2))) =
        .ok (entries.all fun entry => (second.get? entry.1).any entry.2.same) := by
    induction entries with
    | nil => rfl
    | cons entry rest ih =>
        rw [List.map_cons, List.all_cons, agree, get?_cellOf]
        cases second.get? entry.1 with
        | none => rfl
        | some task =>
            have compared : store.same (depth + 1) (.task (.ofReport entry.2))
                (.task (.ofReport task)) = .ok (entry.2.same task) := rfl
            rw [Option.map_some]
            dsimp only
            rw [compared, ih, Option.any_some]
            cases entry.2.same task <;> rfl
  have sizes (tasks : Table Key TaskReport) : (cellOf tasks).size = tasks.size :=
    List.length_map _
  rw [sameCells, Table.agree_eq, sizes, sizes]
  split
  · rename_i same
    rw [same, beq_self_eq_true, Bool.true_and]
    exact each first.entries
  · rename_i different
    rw [beq_eq_false_iff_ne.mpr different, Bool.false_and]

/-- A record is the same as whatever shares its cell. -/
theorem compare_of_same_cell (one two : Sheet) (place : Nat) :
    store.compare (.record one place) (.record two place) = .ok true := by
  rw [compare, same, if_pos rfl]

/-- Records with cells of their own are compared by their attributes and their tasks. -/
theorem compare_of_cells (one two : Report) (first second : Nat) (apart : first ≠ second)
    (left : store.cell first = cellOf one.tasks) (right : store.cell second = cellOf two.tasks) :
    store.compare (.record one.sheet first) (.record two.sheet second) = .ok (one.same two) := by
  rw [compare, same, if_neg apart, left, right, sameCells_cellOf, Report.same, Sheet.same]
  cases one.sheet.sameCommon two.sheet with
  | false => rfl
  | true =>
      rw [if_pos rfl, Bool.true_and, Bool.and_comm]
      rfl

end Store

namespace Value

/-- Only a list or what has members cannot be hashed. -/
theorem Alike.hashable {one two : Value} (alike : Alike one two) : one.hashable = true := by
  cases alike <;> rfl

end Value

namespace Sheet

variable {sheet : Sheet}

theorem WellTyped.alike_hashed (typed : sheet.WellTyped) :
    List.Forall₂ Value.Alike (sheet.hashed.map Prod.snd) (sheet.hashed.map Prod.snd) := by
  rw [hashed, List.map_append]
  exact List.rel_append (typed.alike_common typed) (typed.outcome.alike typed.outcome rfl)

/-- A record with typed attributes can always be hashed. -/
theorem WellTyped.hashable (typed : sheet.WellTyped) : hashableAttributes sheet.hashed = true := by
  refine List.all_eq_true.mpr ?_
  intro member among
  exact (List.forall₂_same.mp typed.alike_hashed member.2 (List.mem_map_of_mem among)).hashable

end Sheet

namespace Workspace

/-- This is the hash of the item that a name stands for. -/
def hashOf (space : Workspace) (hasher : Hasher) (name : String) : Except StepError Int := do
  let item ← space.item name
  item.hash hasher

/-- A record that is held shows its attributes and the tasks that stand in its cell. All of them
have their declared types. -/
inductive Shows (space : Workspace) : Item → Report → Prop where
  | record (report : Report) (place : Nat) (held : space.Holds (.record report.sheet place))
      (tasks : space.store.cell place = cellOf report.tasks) (typed : report.WellTyped) :
      Shows space (.record report.sheet place) report

/-- Two items are equal when a comparison says so. A comparison may also fail. -/
def Equal (space : Workspace) (one two : Item) : Prop := space.store.compare one two = .ok true

/-- Equal records share a cell or have the same attributes. -/
theorem Equal.same_sheets {space : Workspace} {one two : Sheet} {first second : Nat}
    (equal : space.Equal (.record one first) (.record two second)) (apart : first ≠ second) :
    one.same two = true := by
  rw [Equal, Store.compare, Store.same, if_neg apart] at equal
  cases common : one.sameCommon two with
  | false =>
      rw [common] at equal
      cases equal
  | true =>
      rw [common, if_pos rfl] at equal
      obtain ⟨tasks, -, told⟩ := Success.bind_eq_ok_iff.mp equal
      have both : (tasks && one.sameExtra two) = true := Except.ok.inj told
      rw [Bool.and_eq_true] at both
      rw [Sheet.same, common, both.2]
      rfl

/-- Equal items have equal hashes, or neither can be hashed. This needs no declared types. -/
theorem Equal.hash_eq {space : Workspace} (isolated : space.Isolated) (hasher : Hasher)
    {first second : Item} (left : space.Holds first) (right : space.Holds second)
    (equal : space.Equal first second) : first.hash hasher = second.hash hasher := by
  cases first with
  | task one =>
      cases second with
      | task two =>
          have same : sameAttributes one.members two.members = true := Except.ok.inj equal
          exact Item.hash_of_sameAttributes hasher rfl rfl same
      | map _ => cases equal
      | record _ _ => cases equal
  | map place =>
      cases second with
      | task _ => cases equal
      | map _ => rfl
      | record _ _ => cases equal
  | record one place =>
      cases second with
      | task _ => cases equal
      | map _ => cases equal
      | record two other =>
          by_cases shared : place = other
          · subst shared
            rw [isolated.single one two place left right]
          · have same := Sheet.sameAttributes_hashed (equal.same_sheets shared)
            exact Item.hash_of_sameAttributes hasher rfl rfl same

namespace Shows

variable {space : Workspace} {first second third : Item} {one two three : Report}

theorem wellTyped (shown : space.Shows first one) : one.WellTyped := by
  cases shown with
  | record _ place held tasks typed => exact typed

theorem encodeItem (shown : space.Shows first one) : space.encodeItem first = .ok one.members := by
  cases shown with
  | record _ place held tasks typed =>
      have read := space.store.report?_of_cell one place tasks
      simp [Workspace.encodeItem, Store.encode?, read]

/-- A record shows one thing only, and its cell tells which. -/
theorem eq_of_same_cell (isolated : space.Isolated) (left : space.Shows first one)
    (right : space.Shows second two) (shared : first.cells = second.cells) : one = two := by
  cases left with
  | record _ place held tasks typed =>
      cases right with
      | record _ place' held' tasks' typed' =>
          obtain rfl := List.singleton_inj.mp shared
          have sheets := isolated.single one.sheet two.sheet place held held'
          have same := cellOf_injective (tasks.symm.trans tasks')
          cases one
          cases two
          cases sheets
          cases same
          rfl

/-- The comparison of two records is the one of what they show. -/
theorem compare_eq (isolated : space.Isolated) (left : space.Shows first one)
    (right : space.Shows second two) :
    space.store.compare first second = .ok (one.encode.same two.encode) := by
  by_cases shared : first.cells = second.cells
  · obtain rfl := left.eq_of_same_cell isolated right shared
    have agrees := (one.same_iff one left.wellTyped left.wellTyped).mpr (.refl one)
    rw [one.same_encode, agrees]
    cases left with
    | record _ place held tasks typed =>
        cases right with
        | record _ place' held' tasks' typed' =>
            obtain rfl := List.singleton_inj.mp shared
            exact space.store.compare_of_same_cell _ _ place
  · rw [one.same_encode]
    cases left with
    | record _ place held tasks typed =>
        cases right with
        | record _ place' held' tasks' typed' =>
            have apart : place ≠ place' := fun same =>
              shared (congrArg (fun cell => [cell]) same)
            exact space.store.compare_of_cells one two place place' apart tasks tasks'

theorem equal_iff (isolated : space.Isolated) (left : space.Shows first one)
    (right : space.Shows second two) : space.Equal first second ↔ one.AgreesWith two := by
  rw [Equal, left.compare_eq isolated right, one.same_encode, Except.ok.injEq,
    one.same_iff two left.wellTyped right.wellTyped]

theorem hashedValues_eq (shown : space.Shows first one) :
    first.hashedValues = .ok (one.sheet.hashed.map Prod.snd) := by
  cases shown with
  | record _ place held tasks typed =>
      simp [Item.hashedValues, Item.hashed?, typed.sheet.hashable]

theorem hash_eq (hasher : Hasher) (shown : space.Shows first one) :
    first.hash hasher = .ok (hasher.hash (one.sheet.hashed.map Prod.snd)) := by
  rw [Item.hash, shown.hashedValues_eq]
  rfl

end Shows

/-- A cell with tasks only keeps no record, so a change to it loses none. -/
theorem holds_update (space : Workspace) (place : Nat) (f : Cell → Cell)
    (tasks : Table Key TaskReport) (cell : space.store.cell place = cellOf tasks) (sheet : Sheet)
    (spot : Nat) (held : space.Holds (.record sheet spot)) :
    (space.update place f).Holds (.record sheet spot) := by
  cases held with
  | named name found => exact .named name found
  | kept other member =>
      by_cases here : other = place
      · rw [here, cell, values_cellOf] at member
        obtain ⟨task, -, same⟩ := List.mem_map.mp member
        cases same
      · refine .kept other ?_
        rw [update, space.store.cell_update_of_ne place other f here]
        exact member

section Change

variable {space : Workspace} {first second : Item} {one two : Report} {place : Nat}
variable (isolated : space.Isolated) (owner : space.Shows first one) (own : place ∈ first.cells)
include isolated owner own

/-- A record shows the tasks that its own cell is given. -/
theorem Shows.update (f : Cell → Cell) (tasks : Table Key TaskReport)
    (changed : f (cellOf one.tasks) = cellOf tasks) (typed : TasksWellTyped tasks) :
    (space.update place f).Shows first ⟨one.sheet, tasks⟩ := by
  cases owner with
  | record _ spot held cell well =>
      obtain rfl := List.mem_singleton.mp own
      refine .record ⟨one.sheet, tasks⟩ place ?_ ?_ ⟨well.sheet, typed⟩
      · exact space.holds_update place f one.tasks cell one.sheet place held
      · rw [Workspace.update, space.store.cell_update place f (isolated.place_lt _ place held), cell]
        exact changed

/-- Every other record shows what it showed before. -/
theorem Shows.update_of_ne (f : Cell → Cell) (shown : space.Shows second two)
    (apart : first ≠ second) : (space.update place f).Shows second two := by
  cases owner with
  | record _ spot held cell well =>
      obtain rfl := List.mem_singleton.mp own
      cases shown with
      | record _ other held' cell' well' =>
          have different : other ≠ place := by
            rintro rfl
            rw [isolated.single _ _ other held held'] at apart
            exact apart rfl
          refine .record two other ?_ ?_ well'
          · exact space.holds_update place f one.tasks cell two.sheet other held'
          · rw [Workspace.update, space.store.cell_update_of_ne place other f different, cell']

end Change

/-- A known item is put into the cell behind the name. -/
theorem advance_put (space : Workspace) (name source key : String) (place : Nat) (item : Item)
    (found : space.names.get? name = some (.map place))
    (known : space.names.get? source = some item) :
    space.advance (.put name (.text key) source) =
      space.update place fun tasks => tasks.put (.text key) item := by
  have done : space.step (.put name (.text key) source) =
      .ok (space.update place fun tasks => tasks.put (.text key) item, .done) := by
    apply Success.bind_eq_ok_iff.mpr
    refine ⟨item, (space.item_eq_ok_iff source item).mpr known, ?_⟩
    apply Success.bind_eq_ok_iff.mpr
    exact ⟨place, (space.mapCell_eq_ok_iff name place).mpr found, rfl⟩
  rw [advance, done]

/-- An item that is present is removed from the cell behind the name. -/
theorem advance_remove (space : Workspace) (name key : String) (place : Nat) (item : Item)
    (found : space.names.get? name = some (.map place))
    (present : (space.store.cell place).get? (.text key) = some item) :
    space.advance (.remove name (.text key)) =
      space.update place fun tasks => tasks.remove (.text key) := by
  have done : space.step (.remove name (.text key)) =
      .ok (space.update place fun tasks => tasks.remove (.text key), .done) := by
    apply Success.bind_eq_ok_iff.mpr
    refine ⟨place, (space.mapCell_eq_ok_iff name place).mpr found, ?_⟩
    apply Success.bind_eq_ok_iff.mpr
    refine ⟨.text key, rfl, ?_⟩
    rw [present]
    rfl
  rw [advance, done]

/-- A step that changes a cell binds no name. -/
theorem names_of_changed {space : Workspace} (isolated : space.Isolated) (step : WorkStep)
    (changed : step.changed? ≠ none) : (space.advance step).names = space.names := by
  rcases bound_of_move (space.move_of_advance step) isolated with same | ⟨target, _, known, -⟩
  · exact same
  · cases step with
    | put name key source => cases known
    | remove name key => cases known
    | _ => exact absurd rfl changed

end Workspace

end CheckpointReport
