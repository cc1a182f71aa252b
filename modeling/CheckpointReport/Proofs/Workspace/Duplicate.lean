/-
This file follows the ways in which a record is made a second time. It is built from its own
attributes, or it is copied with its cell, and a typed record comes out as it was.
-/

import CheckpointReport.Proofs.Workspace.Comparing
import CheckpointReport.Proofs.Workspace.WellFormed

namespace CheckpointReport

/-- Only what is no number and what has parts can change when it is renewed. -/
theorem Value.Alike.renewed {one two : Value} (alike : Alike one two) (origin : List Nat) :
    one.renewed origin = one := by
  cases alike <;> rfl

theorem Counters.AreIntegers.renewed {counters : Counters Value} (integers : counters.AreIntegers)
    (origin : List Nat) : counters.renewed origin = counters := by
  obtain ⟨numbers, rfl⟩ := (areIntegers_iff counters).mp integers
  rfl

theorem Outcome.WellTyped.renewed {outcome : Outcome} (typed : outcome.WellTyped)
    (origin : List Nat) : outcome.map (Value.renewed origin) = outcome := by
  cases outcome with
  | inProgress => rfl
  | completed externalPath discarded =>
      obtain ⟨optional, flag⟩ := typed
      rw [map, (optional.alike optional).renewed, (flag.alike flag).renewed]
  | failed failureTimestamp failureMessage =>
      obtain ⟨integer, optional⟩ := typed
      rw [map, (integer.alike integer).renewed, (optional.alike optional).renewed]

/-- A typed record has no origin that could be renewed. -/
theorem Sheet.WellTyped.renewed {sheet : Sheet} (typed : sheet.WellTyped) (origin : List Nat) :
    sheet.renewed origin = sheet := by
  refine eq_of_attributes ?_
  change (⟨sheet.id.renewed origin, sheet.status, sheet.isSavepoint.renewed origin,
    sheet.savepointFormat.renewed origin, sheet.trigger.renewed origin,
    sheet.counters.renewed origin, sheet.type,
    sheet.outcome.map (Value.renewed origin)⟩ : Attributes) = _
  rw [(typed.id.alike typed.id).renewed, (typed.isSavepoint.alike typed.isSavepoint).renewed,
    (typed.savepointFormat.alike typed.savepointFormat).renewed,
    (typed.trigger.alike typed.trigger).renewed, typed.counters.renewed, typed.outcome.renewed]

theorem TaskReport.WellTyped.renewed {task : TaskReport} (typed : task.WellTyped)
    (origin : List Nat) : (TaskSheet.ofReport task).renewed origin = .ofReport task := by
  obtain ⟨id, status, counters, within⟩ := task
  have number : id.renewed origin = id := (typed.id.alike typed.id).renewed origin
  have counts : counters.renewed origin = counters := typed.counters.renewed origin
  simp [TaskSheet.renewed, TaskSheet.ofReport, number, counts]

namespace Store

/-- Typed tasks under texts stay as they are when they are renewed. -/
theorem renewedCell_cellOf (place : Nat) (tasks : Table Key TaskReport)
    (typed : TasksWellTyped tasks) : renewedCell place (cellOf tasks) = cellOf tasks := by
  have kept : (cellOf tasks).entries.mapIdx (fun index entry =>
      (entry.1.renewed [index, place], entry.2.renewed [index, place])) =
        (cellOf tasks).entries := by
    apply List.mapIdx_eq_iff.mpr
    intro index
    cases found : (cellOf tasks).entries[index]? with
    | none => rfl
    | some entry =>
        obtain ⟨⟨key, task⟩, present, rfl⟩ := List.mem_map.mp (List.mem_of_getElem? found)
        obtain ⟨⟨name, rfl⟩, well⟩ := typed (key, task) present
        simp [Key.renewed, Item.renewed, well.renewed]
  rw [renewedCell, kept, Table.ofList_self]

section Copy

variable (store : Store) (report : Report) (place : Nat)
variable (cell : store.cell place = cellOf report.tasks)
include cell

/-- A cell of tasks leads to no other cell. -/
theorem reachable_cellOf (count : Nat) : store.reachable count [place] = [place] := by
  have nothing : (store.cell place).values.flatMap Item.cells = [] := by
    rw [cell, values_cellOf, List.flatMap_map]
    exact List.flatMap_eq_nil_iff.mpr fun _ _ => rfl
  have alone : store.spread [place] = [place] := by
    simp [spread, nothing, List.eraseDups_cons]
  cases count with
  | zero => rfl
  | succ count => rw [reachable, alone, if_pos rfl]

theorem copy_cellOf : store.copy (.record report.sheet place) =
    (store.add (cellOf report.tasks), .record report.sheet store.size) := by
  have renamed (move : Nat → Nat) :
      (cellOf report.tasks).map (Item.rename move) = cellOf report.tasks :=
    Table.eq_of_entries (by simp [cellOf, Table.map, Item.rename])
  rw [copy_eq, Item.cells, store.reachable_cellOf report place cell, extended, List.map_singleton,
    cell, renamed]
  simp [Item.rename, moved, add]

/-- A typed record is copied with its tasks in either way, and the original stays as it is. -/
theorem copyBy_cellOf (way : CopyWay) (typed : report.WellTyped) (inside : place < store.size) :
    (store.copyBy way (.record report.sheet place)).2 = .record report.sheet store.size ∧
      (store.copyBy way (.record report.sheet place)).1.cell store.size = cellOf report.tasks ∧
        (store.copyBy way (.record report.sheet place)).1.cell place = cellOf report.tasks := by
  have old : (store.add (cellOf report.tasks)).cell place = cellOf report.tasks :=
    (store.cell_add_of_ne _ place (Nat.ne_of_lt inside)).trans cell
  cases way with
  | shared =>
      rw [copyBy, store.copy_cellOf report place cell]
      exact ⟨rfl, store.cell_add _, old⟩
  | transferred =>
      have size : store.size < (store.add (cellOf report.tasks)).size := by
        rw [size_add]
        omega
      rw [copyBy, transfer_eq, store.copy_cellOf report place cell]
      refine ⟨?_, ?_, ?_⟩
      · rw [Item.renewed, typed.sheet.renewed]
      · rw [cell_renewedFrom, if_pos size, if_neg (Nat.lt_irrefl _), cell_add,
          renewedCell_cellOf _ _ typed.tasks]
      · rw [cell_renewedFrom, if_pos (Nat.lt_trans inside size), if_pos inside, old]

end Copy

end Store

namespace Declared

/-- Attributes that are all given are filled with nothing else. -/
theorem complete_self (declared : Declared) (given : Members)
    (names : given.map Prod.fst = declared.map Prod.fst) (distinct : (given.map Prod.fst).Nodup) :
    declared.complete given = .ok given := by
  have found : ∀ member ∈ given, findEntry member.1 given = some member.2 :=
    findEntry_of_mem given (nodup_identities given distinct)
  have paired : List.Forall₂ (fun attribution member => attribution.1 = member.1)
      declared given := by
    have same := names.symm
    rwa [← List.forall₂_eq_eq_eq, List.forall₂_map_left_iff, List.forall₂_map_right_iff] at same
  have filled : declared.fill? given = some given := by
    rw [fill?, Success.mapM_eq_some_iff, List.forall₂_iff_zip]
    refine ⟨paired.length_eq, ?_⟩
    intro attribution member both
    rw [(List.forall₂_iff_zip.mp paired).2 both, found member (List.of_mem_zip both).2]
  have covered : declared.covers given = true := by
    rw [covers, ← names, List.all_eq_true]
    intro member among
    exact List.contains_iff_mem.mpr (List.mem_map_of_mem among)
  rw [complete, filled, covered]

end Declared

theorem countersOf_of_presents (record : Members) (counters : Counters Value)
    (presented : Presents record counters.members) : countersOf record = counters := by
  apply Counters.toList_injective
  simpa [Presents, countersOf, Counters.map, Counters.members, Counters.toList] using presented

theorem outcomeOf_of_presents (record : Members) (outcome : Outcome)
    (presented : Presents record outcome.members) : outcomeOf record outcome.kind = outcome := by
  cases outcome with
  | inProgress => rfl
  | completed externalPath discarded =>
      obtain ⟨first, second⟩ := (presents_cons_iff _ _ _ _).mp presented
      rw [Outcome.kind, outcomeOf, first, ((presents_cons_iff _ _ _ _).mp second).1]
  | failed failureTimestamp failureMessage =>
      obtain ⟨first, second⟩ := (presents_cons_iff _ _ _ _).mp presented
      rw [Outcome.kind, outcomeOf, first, ((presents_cons_iff _ _ _ _).mp second).1]

namespace Sheet

variable (sheet : Sheet)

theorem names_hashed :
    sheet.hashed.map Prod.fst = (Declared.record sheet.kind).map Prod.fst := by
  obtain ⟨⟨id, status, isSavepoint, savepointFormat, trigger, counters, type, outcome⟩, within⟩ :=
    sheet
  cases outcome <;> rfl

theorem hashed_distinct : (sheet.hashed.map Prod.fst).Nodup := by
  rw [names_hashed]
  cases sheet.kind <;> decide

/-- A record is read again from its own attributes. -/
theorem readAttributes_hashed : readAttributes sheet.kind sheet.hashed = .ok sheet.toAttributes := by
  have complete := (Declared.record sheet.kind).complete_self sheet.hashed sheet.names_hashed
    sheet.hashed_distinct
  have presented := presents_self sheet.hashed sheet.hashed_distinct
  obtain ⟨first, added⟩ := (presents_append_iff _ _ _).mp presented
  simp only [common, presents_append_iff, presents_cons_iff] at first
  obtain ⟨⟨⟨id, status, isSavepoint, format, trigger, -⟩, counted⟩, type, -⟩ := first
  have counters := countersOf_of_presents sheet.hashed sheet.counters counted
  have outcome : outcomeOf sheet.hashed sheet.kind = sheet.outcome :=
    outcomeOf_of_presents sheet.hashed sheet.outcome added
  simp only [readAttributes, Success.bind_eq_ok_iff, Success.pure_eq_ok_iff,
    requireWord_eq_ok_iff]
  refine ⟨sheet.hashed, complete, sheet.status, status, sheet.type, type, ?_⟩
  rw [id, isSavepoint, format, trigger, counters, outcome]

/-- The counters of a typed record pass their check once more. -/
theorem WellTyped.sheet_eq {sheet : Sheet} (typed : sheet.WellTyped) :
    sheet.toAttributes.sheet = .ok sheet := by
  rw [Attributes.sheet, Success.mapError_eq_ok_iff, Attributes.check,
    Counters.checked_eq_ok_iff _ typed.counters]
  exact ⟨sheet.within, rfl⟩

end Sheet

namespace Workspace

/-- A step makes a record anew under its target. The new record shows what the original showed, in
another cell, and the two are equal at that moment. -/
def Repeats (space : Workspace) (step : WorkStep) (reply : WorkReply) (target : String)
    (item : Item) (report : Report) : Prop :=
  ∃ next copy, space.step step = .ok (next, reply) ∧ next.names.get? target = some copy ∧
    next.Shows copy report ∧ copy.cells ≠ item.cells ∧ next.Equal copy item

/-- Records with the same attributes and the same tasks are equal. -/
theorem equal_of_cells (space : Workspace) (report : Report) (one two : Nat) (apart : one ≠ two)
    (typed : report.WellTyped) (first : space.store.cell one = cellOf report.tasks)
    (second : space.store.cell two = cellOf report.tasks) :
    space.Equal (.record report.sheet one) (.record report.sheet two) := by
  have same : report.same report = true := (report.same_iff report typed typed).mpr (.refl report)
  rw [Equal, space.store.compare_of_cells report report one two apart first second, same]

section Repeats

variable {space : Workspace} {report : Report} {place : Nat}
variable (inside : place < space.store.size) (cell : space.store.cell place = cellOf report.tasks)
variable (typed : report.WellTyped)
include inside cell typed

/-- A record that is made from attributes and tasks like those of another one repeats it. -/
theorem repeats_of_bindReport (step : WorkStep) (target : String)
    (done : space.step step = .ok (space.bindReport target report, .done)) :
    space.Repeats step .done target (.record report.sheet place) report := by
  have apart : space.store.size ≠ place := Nat.ne_of_gt inside
  have bound : (space.bindReport target report).names.get? target =
      some (.record report.sheet space.store.size) :=
    (get?_bind _ target target _).trans (if_pos rfl)
  have new := space.cell_bindReport target report
  have old : (space.bindReport target report).store.cell place = cellOf report.tasks :=
    (space.store.cell_add_of_ne _ place apart.symm).trans cell
  refine ⟨_, _, done, bound, .record report _ (.named target bound) new typed, ?_, ?_⟩
  · simpa [Item.cells] using apart
  · exact equal_of_cells _ report _ _ apart typed new old

theorem repeats_of_recode (source target : String)
    (found : space.names.get? source = some (.record report.sheet place)) :
    space.Repeats (.recode source target) .done target (.record report.sheet place) report := by
  apply repeats_of_bindReport inside cell typed
  exact space.step_recode source target place report
    ((space.item_eq_ok_iff _ _).mpr found) cell typed

/-- A record is replaced by another one with the same attributes and the same tasks when no change
is given. -/
theorem repeats_of_replace (source target : String)
    (found : space.names.get? source = some (.record report.sheet place)) :
    space.Repeats (.replace source target ⟨[], none⟩) .done target (.record report.sheet place)
      report := by
  have built : space.replaceItem target [] none (.record report.sheet place) =
      .ok (space.bindReport target report) := by
    change space.newRecord target report.sheet.kind report.sheet.hashed
      (some (.cell (space.store.cell place))) = _
    rw [newRecord, report.sheet.readAttributes_hashed, cell]
    change (report.sheet.toAttributes.sheet >>= _) = _
    rw [typed.sheet.sheet_eq]
    rfl
  apply repeats_of_bindReport inside cell typed
  change (space.item source >>= _) = _
  rw [(space.item_eq_ok_iff _ _).mpr found]
  change (space.replaceItem target [] none (.record report.sheet place) >>= _) = _
  rw [built]
  rfl

/-- A copy is told to be the same as its original, whether the two share anything or not. -/
theorem repeats_of_clone (source target : String) (way : CopyWay)
    (found : space.names.get? source = some (.record report.sheet place)) :
    space.Repeats (.clone source target way) (.cloned true) target (.record report.sheet place)
      report := by
  have apart : space.store.size ≠ place := Nat.ne_of_gt inside
  obtain ⟨copied, new, old⟩ := space.store.copyBy_cellOf report place cell way typed inside
  have equal : (space.store.copyBy way (.record report.sheet place)).1.compare
      (space.store.copyBy way (.record report.sheet place)).2 (.record report.sheet place) =
        .ok true := by
    rw [copied]
    exact equal_of_cells { space with store := _ } report _ _ apart typed new old
  have done : space.step (.clone source target way) =
      .ok ({ space with store := (space.store.copyBy way (.record report.sheet place)).1 }.bind
        target (space.store.copyBy way (.record report.sheet place)).2, .cloned true) := by
    change (space.item source >>= _) = _
    rw [(space.item_eq_ok_iff _ _).mpr found]
    change ((space.store.copyBy way (.record report.sheet place)).1.compare
      (space.store.copyBy way (.record report.sheet place)).2 (.record report.sheet place) >>= _) = _
    rw [equal]
    rfl
  refine ⟨_, _, done, (get?_bind _ target target _).trans (if_pos rfl), ?_, ?_, equal⟩
  · rw [copied]
    exact .record report _ (.named target ((get?_bind _ target target _).trans (if_pos rfl))) new
      typed
  · rw [copied]
    simpa [Item.cells] using apart

end Repeats

end Workspace

end CheckpointReport
