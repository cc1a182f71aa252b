/-
This file proves that a copy is apart from what it is copied from. All the cells that an item leads
to are found, and each of them gets a new cell of its own.
-/

import CheckpointReport.Proofs.Workspace.Binding
import CheckpointReport.Proofs.Workspace.Order
import Mathlib.Data.List.Perm.Subperm

namespace CheckpointReport

namespace Store

variable (store : Store)

/-- Every cell that is referred to was made. -/
def Bounded : Prop :=
  ∀ place, ∀ item ∈ (store.cell place).values, ∀ cell ∈ item.cells, cell < store.size

/-- The cells that are found refer to each other only. -/
def Closed (found : List Nat) : Prop :=
  ∀ place ∈ found, ∀ item ∈ (store.cell place).values, ∀ cell ∈ item.cells, cell ∈ found

theorem nodup_eraseDups (cells : List Nat) : cells.eraseDups.Nodup := by
  cases cells with
  | nil => exact List.nodup_nil
  | cons cell rest =>
      rw [List.eraseDups_cons, List.nodup_cons]
      exact ⟨by simp, nodup_eraseDups _⟩
termination_by cells.length
decreasing_by
  have shorter := List.length_filter_le (fun other => !other == cell) rest
  rw [List.length_cons]
  omega

theorem mem_spread_iff (found : List Nat) (cell : Nat) :
    cell ∈ store.spread found ↔
      cell ∈ found ∨ ∃ place ∈ found, ∃ item ∈ (store.cell place).values, cell ∈ item.cells := by
  simp [spread]

/-- A search that finds nothing more has found everything. -/
theorem closed_of_spread (found : List Nat) (distinct : found.Nodup)
    (stopped : (store.spread found).length = found.length) : store.Closed found := by
  have grown : found ⊆ store.spread found :=
    fun cell member => (store.mem_spread_iff found cell).mpr (Or.inl member)
  have same := (List.subperm_of_subset distinct grown).perm_of_length_le (Nat.le_of_eq stopped)
  intro place member item stored cell referred
  exact same.mem_iff.mpr
    ((store.mem_spread_iff found cell).mpr (Or.inr ⟨place, member, item, stored, referred⟩))

/-- A search is over, or it has found one more cell in each round. -/
theorem reachable_grows (count : Nat) (found : List Nat) (distinct : found.Nodup) :
    found ⊆ store.reachable count found ∧ (store.reachable count found).Nodup ∧
      (store.Closed (store.reachable count found) ∨
        found.length + count ≤ (store.reachable count found).length) := by
  induction count generalizing found with
  | zero => exact ⟨List.Subset.refl found, distinct, Or.inr (Nat.le_refl _)⟩
  | succ count ih =>
      rw [reachable]
      split
      · rename_i stopped
        exact ⟨List.Subset.refl found, distinct,
          Or.inl (store.closed_of_spread found distinct stopped)⟩
      · rename_i continues
        have grown : found ⊆ store.spread found :=
          fun cell member => (store.mem_spread_iff found cell).mpr (Or.inl member)
        have longer := (List.subperm_of_subset distinct grown).length_le
        obtain ⟨within, nodup, ends⟩ := ih (store.spread found) (nodup_eraseDups _)
        refine ⟨fun cell member => within (grown member), nodup, ends.imp_right ?_⟩
        intro bound
        omega

/-- Only cells of the store are reached. -/
theorem reachable_bounded (bounded : store.Bounded) (count : Nat) (found : List Nat)
    (inside : ∀ cell ∈ found, cell < store.size) :
    ∀ cell ∈ store.reachable count found, cell < store.size := by
  induction count generalizing found with
  | zero => exact inside
  | succ count ih =>
      rw [reachable]
      split
      · exact inside
      · refine ih (store.spread found) ?_
        intro cell member
        rcases (store.mem_spread_iff found cell).mp member with old | new
        · exact inside cell old
        · obtain ⟨place, -, item, stored, referred⟩ := new
          exact bounded place item stored cell referred

/-- There are not more cells to be found than there are rounds. -/
theorem reachable_closed (bounded : store.Bounded) (found : List Nat) (distinct : found.Nodup)
    (inside : ∀ cell ∈ found, cell < store.size) :
    store.Closed (store.reachable store.size found) := by
  obtain ⟨-, nodup, ends⟩ := store.reachable_grows store.size found distinct
  have within := store.reachable_bounded bounded store.size found inside
  rcases ends with closed | full
  · exact closed
  · have all : store.reachable store.size found ⊆ List.range store.size :=
      fun cell member => List.mem_range.mpr (within cell member)
    have same := (List.subperm_of_subset nodup all).perm_of_length_le
      (by rw [List.length_range]; omega)
    intro place member item stored cell referred
    exact same.mem_iff.mpr (List.mem_range.mpr (bounded place item stored cell referred))

end Store

/-- An item is copied with its cells moved. A record may be revised by its own cell, and the counters
of a copy stay in order. -/
inductive Item.Copies (move : Nat → Nat) (revise : Nat → Sheet → Sheet) : Item → Item → Prop where
  | task (old new : TaskSheet) (kept : old.counters.InOrder → new.counters.InOrder) :
      Copies move revise (.task old) (.task new)
  | map (cell : Nat) : Copies move revise (.map cell) (.map (move cell))
  | record (sheet : Sheet) (cell : Nat)
      (kept : sheet.counters.InOrder → (revise cell sheet).counters.InOrder) :
      Copies move revise (.record sheet cell) (.record (revise cell sheet) (move cell))

theorem Item.copies_rename (move : Nat → Nat) (item : Item) :
    Item.Copies move (fun _ sheet => sheet) item (item.rename move) := by
  cases item with
  | task sheet => exact .task sheet sheet id
  | map cell => exact .map cell
  | record sheet cell => exact .record sheet cell id

/-- A record is revised by its new cell only, so its origin does not depend on where it stands. -/
theorem Item.Copies.renewed {move : Nat → Nat} {old new : Item} (origin : List Nat)
    (copies : Item.Copies move (fun _ sheet => sheet) old new) :
    Item.Copies move (fun cell sheet => sheet.renewed [move cell]) old (new.renewed origin) := by
  cases copies with
  | task old new kept => exact .task old _ fun ordered => (kept ordered).renewed origin
  | map cell => exact .map cell
  | record sheet cell => exact .record sheet cell fun ordered => ordered.renewed [move cell]

theorem Item.Copies.inOrder {move : Nat → Nat} {revise : Nat → Sheet → Sheet} {old new : Item}
    (copies : Item.Copies move revise old new) (ordered : old.InOrder) : new.InOrder := by
  cases copies with
  | task old new kept =>
      exact (inOrder_task_iff new).mpr (kept ((inOrder_task_iff old).mp ordered))
  | map cell => exact inOrder_map _
  | record sheet cell kept =>
      exact (inOrder_record_iff _ _).mpr (kept ((inOrder_record_iff sheet cell).mp ordered))

/-- A store is extended by copies of some of its cells. The old cells stay as they are, and the new
ones stand apart from them and from each other. -/
structure Store.Extends (store next : Store) (found : List Nat) (move : Nat → Nat)
    (revise : Nat → Sheet → Sheet) : Prop where
  grows : store.size ≤ next.size
  old : ∀ place < store.size, next.cell place = store.cell place
  fresh : ∀ cell ∈ found, store.size ≤ move cell ∧ move cell < next.size
  apart : ∀ one ∈ found, ∀ two ∈ found, move one = move two → one = two
  new : ∀ place, store.size ≤ place → ∀ item ∈ (next.cell place).values,
    ∃ cell source, source ∈ (store.cell cell).values ∧
      (∀ referred ∈ source.cells, referred ∈ found) ∧ Item.Copies move revise source item

/-- An item is copied together with the cells that it leads to. -/
structure Store.Copied (store : Store) (item : Item) (next : Store) (copy : Item)
    (found : List Nat) (move : Nat → Nat) (revise : Nat → Sheet → Sheet) : Prop where
  extended : store.Extends next found move revise
  known : ∀ cell ∈ item.cells, cell ∈ found
  copies : Item.Copies move revise item copy

namespace Store

variable (store : Store)

/-- Each cell that is found moves to the place that its index tells. -/
def moved (found : List Nat) (cell : Nat) : Nat := store.size + found.idxOf cell

def extended (found : List Nat) : Store :=
  ⟨store.cells ++ found.map fun cell => (store.cell cell).map (Item.rename (store.moved found))⟩

theorem copy_eq (item : Item) :
    store.copy item = (store.extended (store.reachable store.size item.cells),
      item.rename (store.moved (store.reachable store.size item.cells))) := rfl

theorem size_extended (found : List Nat) :
    (store.extended found).size = store.size + found.length := by
  simp [extended, size]

/-- A plain copy has new cells after the old ones, with the same sheets. -/
theorem extends_extended (found : List Nat) (closed : store.Closed found) :
    store.Extends (store.extended found) found (store.moved found) fun _ sheet => sheet where
  grows := by
    rw [size_extended]
    exact Nat.le_add_right _ _
  old := by
    intro place inside
    rw [cell, extended, List.getElem?_append_left inside, cell]
  fresh := by
    intro cell member
    have index := List.idxOf_lt_length_iff.mpr member
    rw [size_extended, moved]
    omega
  apart := by
    intro one first two second same
    exact (List.idxOf_inj first).mp (Nat.add_left_cancel same)
  new := by
    intro place outside item member
    rw [cell, extended, List.getElem?_append_right outside, List.getElem?_map] at member
    cases known : found[place - store.cells.length]? with
    | none =>
        rw [known] at member
        cases member
    | some cell =>
        rw [known, Option.map_some, Option.getD_some, Table.values_map] at member
        obtain ⟨source, stored, rfl⟩ := List.mem_map.mp member
        exact ⟨cell, source, stored, closed cell (List.mem_of_getElem? known) source stored,
          source.copies_rename _⟩

/-- Renewing the new cells changes neither the old ones nor where the new ones refer to. -/
def renewedFrom (start : Nat) (copied : Store) : Store :=
  ⟨(copied.cells.mapIdx fun place cell =>
    if place < start then cell else renewedCell place cell) ++ [.empty]⟩

theorem transfer_eq (item : Item) :
    store.transfer item = (renewedFrom store.size (store.copy item).1,
      (store.copy item).2.renewed [(store.copy item).1.size]) := rfl

theorem size_renewedFrom (start : Nat) (copied : Store) :
    (renewedFrom start copied).size = copied.size + 1 := by
  simp [renewedFrom, size]

/-- Old cells stay, copied ones are renewed, and the one cell more is empty. -/
theorem cell_renewedFrom (start : Nat) (copied : Store) (place : Nat) :
    (renewedFrom start copied).cell place =
      if place < copied.size then
        if place < start then copied.cell place else renewedCell place (copied.cell place)
      else .empty := by
  rw [cell, renewedFrom]
  by_cases inside : place < copied.size
  · have found : copied.cells[place]? = some copied.cells[place] := List.getElem?_eq_getElem inside
    rw [if_pos inside, cell, found, List.getElem?_append_left, List.getElem?_mapIdx, found]
    · rfl
    · rw [List.length_mapIdx]
      exact inside
  · have outside : copied.cells.length ≤ place := Nat.le_of_not_lt inside
    rw [if_neg inside, List.getElem?_append_right (by simpa using outside), List.length_mapIdx]
    cases place - copied.cells.length <;> rfl

/-- A written copy extends the store too, and its sheets have new origins. -/
theorem extends_renewedFrom (copied : Store) (found : List Nat) (move : Nat → Nat)
    (copies : store.Extends copied found move fun _ sheet => sheet) :
    store.Extends (renewedFrom store.size copied) found move
      fun cell sheet => sheet.renewed [move cell] where
  grows := by
    rw [size_renewedFrom]
    exact Nat.le_succ_of_le copies.grows
  old := by
    intro place inside
    rw [cell_renewedFrom, if_pos (Nat.lt_of_lt_of_le inside copies.grows), if_pos inside]
    exact copies.old place inside
  fresh := by
    intro cell member
    obtain ⟨above, below⟩ := copies.fresh cell member
    rw [size_renewedFrom]
    exact ⟨above, Nat.lt_succ_of_lt below⟩
  apart := copies.apart
  new := by
    intro place outside item member
    rw [cell_renewedFrom, if_neg (Nat.not_lt.mpr outside)] at member
    split at member
    · have renewed : ∀ item ∈ (renewedCell place (copied.cell place)).values,
          ∃ copy origin, copy ∈ (copied.cell place).values ∧ item = copy.renewed origin := by
        refine Table.forall_values_ofList _ _ ?_
        intro entry present
        obtain ⟨index, inside, rfl⟩ := List.mem_mapIdx.mp present
        exact ⟨_, _, List.mem_map_of_mem (List.getElem_mem inside), rfl⟩
      obtain ⟨copy, origin, stored, rfl⟩ := renewed item member
      obtain ⟨cell, source, kept, closed, same⟩ := copies.new place outside copy stored
      exact ⟨cell, source, kept, closed, same.renewed origin⟩
    · cases member

/-- A copy extends the store, and the item that is asked for is copied with its cells. -/
theorem copied_copyBy (way : CopyWay) (item : Item) (bounded : store.Bounded)
    (inside : ∀ cell ∈ item.cells, cell < store.size) : ∃ found move revise,
      store.Copied item (store.copyBy way item).1 (store.copyBy way item).2 found move revise := by
  have distinct : item.cells.Nodup := by
    cases item <;> simp [Item.cells]
  have closed := store.reachable_closed bounded item.cells distinct inside
  have within := (store.reachable_grows store.size item.cells distinct).1
  have extended := store.extends_extended _ closed
  cases way with
  | shared =>
      rw [copyBy, copy_eq]
      exact ⟨_, _, _, extended, fun cell member => within member, item.copies_rename _⟩
  | transferred =>
      rw [copyBy, transfer_eq, copy_eq]
      exact ⟨_, _, _, store.extends_renewedFrom _ _ _ extended, fun cell member => within member,
        (item.copies_rename _).renewed _⟩

end Store

end CheckpointReport
