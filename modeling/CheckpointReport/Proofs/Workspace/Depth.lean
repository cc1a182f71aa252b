/-
This file tells what the attributes of an item depend on. They depend on the cells that the item
leads to, and no more depth is needed than there are cells.
-/

import CheckpointReport.Proofs.Success
import CheckpointReport.Proofs.Workspace.Copy
import Mathlib.Data.Finset.Card
import Mathlib.Data.Finset.Range

namespace CheckpointReport

namespace Store

/-- An item leads to the cells that it refers to, and from each cell to those that its items refer
to. -/
inductive Reaches (store : Store) (item : Item) : Nat → Prop where
  | direct (place : Nat) (member : place ∈ item.cells) : store.Reaches item place
  | through (middle place : Nat) (stored : Item) (reached : store.Reaches item middle)
      (kept : stored ∈ (store.cell middle).values) (member : place ∈ stored.cells) :
      store.Reaches item place

variable (store : Store)

/-- What an item of a cell leads to, the owner of the cell leads to as well. -/
theorem reaches_of_stored (item stored : Item) (middle place : Nat) (owned : middle ∈ item.cells)
    (kept : stored ∈ (store.cell middle).values) (reached : store.Reaches stored place) :
    store.Reaches item place := by
  induction reached with
  | direct place member => exact .through middle place stored (.direct middle owned) kept member
  | through next place other _ inside member ih => exact .through next place other ih inside member

/-- A record that holds tasks only leads to no cell but its own. -/
theorem eq_of_reaches (sheet : Sheet) (owned : Nat)
    (tasks : ∀ item ∈ (store.cell owned).values, ∃ task, item = .task task) (place : Nat)
    (reached : store.Reaches (.record sheet owned) place) : place = owned := by
  induction reached with
  | direct place member => exact List.mem_singleton.mp member
  | through middle place stored _ kept member ih =>
      subst ih
      obtain ⟨task, rfl⟩ := tasks stored kept
      cases member

theorem lt_of_reaches (bounded : store.Bounded) (item : Item)
    (inside : ∀ cell ∈ item.cells, cell < store.size) (place : Nat)
    (reached : store.Reaches item place) : place < store.size := by
  cases reached with
  | direct place member => exact inside place member
  | through middle place stored reached kept member =>
      exact bounded middle stored kept place member

/-- The entries of a cell are shown in order. -/
def shownEntries (depth place : Nat) : Except StepError (List (Key × Value)) :=
  (store.cell place).entries.mapM fun entry => do
    let value ← store.attributes depth entry.2
    return (entry.1, value)

theorem attributes_task (depth : Nat) (sheet : TaskSheet) :
    store.attributes depth (.task sheet) = .ok (.ofMembers sheet.members) := by
  rw [attributes.eq_def]

theorem attributes_map (depth place : Nat) :
    store.attributes (depth + 1) (.map place) = (do
      let entries ← store.shownEntries depth place
      return .object entries) := by
  rw [attributes, shownEntries]

theorem attributes_record (depth : Nat) (sheet : Sheet) (place : Nat) :
    store.attributes (depth + 1) (.record sheet place) = (do
      let entries ← store.shownEntries depth place
      return .ofMembers (sheet.common ++ (tasksKey, .object entries) :: sheet.extra)) := by
  rw [attributes, shownEntries]

/-- A cell that the item does not lead to changes none of its attributes. -/
theorem attributes_of_reaches (next : Store) (depth : Nat) (item : Item)
    (same : ∀ place, store.Reaches item place → next.cell place = store.cell place) :
    next.attributes depth item = store.attributes depth item := by
  induction depth generalizing item with
  | zero => cases item <;> rfl
  | succ depth ih =>
      have entries (place : Nat) (owned : place ∈ item.cells) :
          next.shownEntries depth place = store.shownEntries depth place := by
        rw [shownEntries, shownEntries, same place (.direct place owned)]
        refine Success.mapM_congr ?_
        intro entry member
        have kept : entry.2 ∈ (store.cell place).values := List.mem_map_of_mem member
        rw [ih entry.2 fun cell reached =>
          same cell (store.reaches_of_stored item entry.2 place cell owned kept reached)]
      cases item with
      | task sheet => rw [attributes_task, attributes_task]
      | map place => rw [attributes_map, attributes_map, entries place List.mem_cons_self]
      | record sheet place =>
          rw [attributes_record, attributes_record, entries place List.mem_cons_self]

/-- All that stands in a cell is shown at this depth. -/
def Ends (depth place : Nat) : Prop :=
  ∀ item ∈ (store.cell place).values, ∃ value, store.attributes depth item = .ok value

theorem exists_shownEntries_iff (depth place : Nat) :
    (∃ entries, store.shownEntries depth place = .ok entries) ↔ store.Ends depth place := by
  simp only [shownEntries, Success.mapM_eq_ok_iff, Success.exists_forall₂_iff,
    Success.exists_bind_pure_iff]
  rw [Ends, Table.values, List.forall_mem_map]

/-- An item is shown one level deeper than all its cells. -/
theorem exists_attributes_iff (depth : Nat) (item : Item) :
    (∃ value, store.attributes (depth + 1) item = .ok value) ↔
      ∀ place ∈ item.cells, store.Ends depth place := by
  cases item with
  | task sheet =>
      rw [attributes_task]
      exact ⟨fun _ => List.forall_mem_nil _, fun _ => ⟨_, rfl⟩⟩
  | map place =>
      rw [Item.cells, List.forall_mem_singleton, ← exists_shownEntries_iff, attributes_map]
      exact Success.exists_bind_pure_iff
  | record sheet place =>
      rw [Item.cells, List.forall_mem_singleton, ← exists_shownEntries_iff, attributes_record]
      exact Success.exists_bind_pure_iff

theorem ends_succ_iff (depth place : Nat) : store.Ends (depth + 1) place ↔
    ∀ item ∈ (store.cell place).values, ∀ cell ∈ item.cells, store.Ends depth cell :=
  forall₂_congr fun item _ => store.exists_attributes_iff depth item

/-- More depth does no harm. -/
theorem ends_succ (depth place : Nat) (ends : store.Ends depth place) :
    store.Ends (depth + 1) place := by
  induction depth generalizing place with
  | zero =>
      rw [ends_succ_iff]
      intro item member
      obtain ⟨value, shown⟩ := ends item member
      cases item with
      | task sheet => exact List.forall_mem_nil _
      | map place => cases shown
      | record sheet place => cases shown
  | succ depth ih =>
      rw [ends_succ_iff] at ends ⊢
      exact fun item member cell referred => ih cell (ends item member cell referred)

/-- What is shown is shown in the same way at every greater depth. -/
theorem attributes_succ (depth : Nat) (item : Item) (value : Value)
    (shown : store.attributes depth item = .ok value) :
    store.attributes (depth + 1) item = .ok value := by
  induction depth generalizing item value with
  | zero =>
      cases item with
      | task sheet => rwa [attributes_task] at shown ⊢
      | map place => cases shown
      | record sheet place => cases shown
  | succ depth ih =>
      have deeper (place : Nat) (entries : List (Key × Value))
          (found : store.shownEntries depth place = .ok entries) :
          store.shownEntries (depth + 1) place = .ok entries := by
        rw [shownEntries, Success.mapM_eq_ok_iff] at found ⊢
        refine found.imp ?_
        intro entry result read
        obtain ⟨value, known, same⟩ := Success.bind_eq_ok_iff.mp read
        exact Success.bind_eq_ok_iff.mpr ⟨value, ih entry.2 value known, same⟩
      cases item with
      | task sheet => rwa [attributes_task] at shown ⊢
      | map place =>
          rw [attributes_map, Success.bind_eq_ok_iff] at shown ⊢
          obtain ⟨entries, found, same⟩ := shown
          exact ⟨entries, deeper place entries found, same⟩
      | record sheet place =>
          rw [attributes_record, Success.bind_eq_ok_iff] at shown ⊢
          obtain ⟨entries, found, same⟩ := shown
          exact ⟨entries, deeper place entries found, same⟩

/-- Only a path that comes back to itself keeps an item from being shown. -/
theorem attributes_error (depth : Nat) (item : Item) (cause : StepError)
    (failed : store.attributes depth item = .error cause) : cause = .endless := by
  induction depth generalizing item cause with
  | zero =>
      cases item with
      | task sheet => cases failed
      | map place =>
          cases failed
          rfl
      | record sheet place =>
          cases failed
          rfl
  | succ depth ih =>
      have entries (place : Nat) (unread : store.shownEntries depth place = .error cause) :
          cause = .endless := by
        obtain ⟨-, entry, -, -, -, found⟩ := Success.mapM_eq_error_iff.mp unread
        exact ih entry.2 cause (Success.bind_pure_eq_error_iff.mp found)
      cases item with
      | task sheet => cases failed
      | map place =>
          rw [attributes_map] at failed
          exact entries place (Success.bind_pure_eq_error_iff.mp failed)
      | record sheet place =>
          rw [attributes_record] at failed
          exact entries place (Success.bind_pure_eq_error_iff.mp failed)

/-- No more cells are shown one level deeper. -/
def Settled (depth : Nat) : Prop :=
  ∀ place < store.size, store.Ends (depth + 1) place → store.Ends depth place

section Bounded

variable (bounded : store.Bounded)
include bounded

theorem settled_of_le (depth deeper : Nat) (settled : store.Settled depth) (le : depth ≤ deeper) :
    store.Settled deeper := by
  induction deeper, le using Nat.le_induction with
  | base => exact settled
  | succ deeper _ ih =>
      intro place inside ends
      rw [ends_succ_iff] at ends ⊢
      intro item member cell referred
      exact ih cell (bounded place item member cell referred) (ends item member cell referred)

/-- Each depth that is not settled shows one more cell, and there are not more cells than that. -/
theorem settled_size : store.Settled store.size := by
  classical
  by_contra unsettled
  have grows (depth : Nat) (le : depth ≤ store.size + 1) :
      depth ≤ ((Finset.range store.size).filter (store.Ends depth)).card := by
    induction depth with
    | zero => exact Nat.zero_le _
    | succ depth ih =>
        have within : depth ≤ store.size := Nat.le_of_succ_le_succ le
        have moving : ¬ store.Settled depth := fun settled =>
          unsettled (store.settled_of_le bounded depth store.size settled within)
        simp only [Settled, not_forall] at moving
        obtain ⟨place, inside, ends, unshown⟩ := moving
        have more : (Finset.range store.size).filter (store.Ends depth) ⊂
            (Finset.range store.size).filter (store.Ends (depth + 1)) := by
          rw [Finset.ssubset_iff_of_subset]
          · exact ⟨place, by simp [inside, ends], by simp [unshown]⟩
          · exact Finset.monotone_filter_right _ fun cell _ => store.ends_succ depth cell
        exact Nat.succ_le_of_lt (Nat.lt_of_le_of_lt (ih (Nat.le_of_succ_le le))
          (Finset.card_lt_card more))
  have all := grows (store.size + 1) (Nat.le_refl _)
  have few := Finset.card_filter_le (Finset.range store.size) (store.Ends (store.size + 1))
  rw [Finset.card_range] at few
  omega

theorem ends_size (depth place : Nat) (inside : place < store.size) (le : store.size ≤ depth)
    (ends : store.Ends depth place) : store.Ends store.size place := by
  induction depth, le using Nat.le_induction with
  | base => exact ends
  | succ depth le ih =>
      have settled := store.settled_of_le bounded _ depth (store.settled_size bounded) le
      exact ih (settled place inside ends)

/-- Nothing is shown at a greater depth only. -/
theorem attributes_of_le (depth : Nat) (item : Item) (le : store.size ≤ depth)
    (inside : ∀ cell ∈ item.cells, cell < store.size) :
    store.attributes (depth + 1) item = store.attributes (store.size + 1) item := by
  cases known : store.attributes (store.size + 1) item with
  | ok value =>
      induction depth, le using Nat.le_induction with
      | base => exact known
      | succ depth le ih => exact store.attributes_succ (depth + 1) item value ih
  | error cause =>
      cases other : store.attributes (depth + 1) item with
      | ok value =>
          have ends := (store.exists_attributes_iff depth item).mp ⟨value, other⟩
          obtain ⟨shown, found⟩ := (store.exists_attributes_iff store.size item).mpr
            fun cell referred =>
              store.ends_size bounded depth cell (inside cell referred) le (ends cell referred)
          cases known.symm.trans found
      | error failure =>
          rw [store.attributes_error _ item cause known,
            store.attributes_error _ item failure other]

end Bounded

end Store

end CheckpointReport
