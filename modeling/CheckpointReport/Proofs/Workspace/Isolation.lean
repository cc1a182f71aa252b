/-
This file proves that the cells of records stay apart. A record that a move makes has a new cell,
and no move gives the cell of a record to another one.
-/

import CheckpointReport.Proofs.Workspace.Copy
import CheckpointReport.Proofs.Workspace.Move

namespace CheckpointReport

namespace Store

theorem cell_add_of_ne (store : Store) (tasks : Cell) (place : Nat) (other : place ≠ store.size) :
    (store.add tasks).cell place = store.cell place := by
  rw [cell, add, cell]
  rcases Nat.lt_or_gt_of_ne other with before | after
  · rw [List.getElem?_append_left before]
  · have beyond : store.cells.length ≤ place := Nat.le_of_lt after
    have past : ([tasks] : List Cell).length ≤ place - store.cells.length := Nat.sub_pos_of_lt after
    rw [List.getElem?_append_right beyond, List.getElem?_eq_none past, List.getElem?_eq_none beyond]

theorem size_add (store : Store) (tasks : Cell) : (store.add tasks).size = store.size + 1 := by
  simp [add, size]

theorem size_update (store : Store) (place : Nat) (f : Cell → Cell) :
    (store.update place f).size = store.size := by
  simp [update, size]

theorem cell_update_of_ne (store : Store) (place other : Nat) (f : Cell → Cell)
    (different : other ≠ place) : (store.update place f).cell other = store.cell other := by
  rw [cell, update, cell, List.getElem?_modify]
  simp [different.symm]

/-- An update brings in nothing but what the function gives. -/
theorem mem_values_update (store : Store) (place other : Nat) (f : Cell → Cell) (item : Item)
    (member : item ∈ ((store.update place f).cell other).values) :
    item ∈ (store.cell other).values ∨ item ∈ (f (store.cell place)).values := by
  by_cases same : other = place
  · subst same
    simp only [cell, update, List.getElem?_modify, if_true] at member ⊢
    cases known : store.cells[other]? with
    | none =>
        rw [known] at member
        cases member
    | some tasks =>
        rw [known] at member
        exact Or.inr member
  · rw [store.cell_update_of_ne place other f same] at member
    exact Or.inl member

end Store

namespace Workspace

theorem get?_bind (space : Workspace) (name other : String) (item : Item) :
    (space.bind name item).names.get? other =
      if name = other then some item else space.names.get? other := by
  rw [bind, Table.get?_put]
  simp

theorem holds_of_bind (space : Workspace) (name : String) (item other : Item)
    (held : (space.bind name item).Holds other) : space.Holds other ∨ other = item := by
  cases held with
  | kept place member => exact Or.inl (.kept place member)
  | named owner found =>
      rw [get?_bind] at found
      split at found
      · exact Or.inr (Option.some.inj found).symm
      · exact Or.inl (.named owner found)

/-- A new cell brings in nothing but its own items. -/
theorem holds_of_add (space : Workspace) (tasks : Cell) (other : Item)
    (held : ({ space with store := space.store.add tasks } : Workspace).Holds other) :
    space.Holds other ∨ other ∈ tasks.values := by
  cases held with
  | named owner found => exact Or.inl (.named owner found)
  | kept place member =>
      by_cases newest : place = space.store.size
      · subst newest
        rw [Store.cell_add] at member
        exact Or.inr member
      · rw [space.store.cell_add_of_ne tasks place newest] at member
        exact Or.inl (.kept place member)

theorem holds_of_update (space : Workspace) (place : Nat) (f : Cell → Cell) (other : Item)
    (held : (space.update place f).Holds other) :
    space.Holds other ∨ other ∈ (f (space.store.cell place)).values := by
  cases held with
  | named owner found => exact Or.inl (.named owner found)
  | kept spot member =>
      exact (space.store.mem_values_update place spot f other member).imp_left (.kept spot)

/-- What is held after a copy was held before, or it is copied from what was held. -/
theorem held_of_copy (space : Workspace) (target : String) (item : Item) (store : Store)
    (copy : Item) (found : List Nat) (move : Nat → Nat) (revise : Nat → Sheet → Sheet)
    (held : space.Holds item) (copied : space.store.Copied item store copy found move revise)
    (other : Item) (after : ({ space with store := store }.bind target copy).Holds other) :
    space.Holds other ∨ ∃ source, space.Holds source ∧
      (∀ cell ∈ source.cells, cell ∈ found) ∧ Item.Copies move revise source other := by
  rcases holds_of_bind _ target copy other after with before | rfl
  · cases before with
    | named name bound => exact Or.inl (.named name bound)
    | kept place member =>
        rcases Nat.lt_or_ge place space.store.size with old | new
        · have same : store.cell place = space.store.cell place := copied.extended.old place old
          exact Or.inl (.kept place (same ▸ member))
        · obtain ⟨cell, source, stored, closed, copies⟩ :=
            copied.extended.new place new other member
          exact Or.inr ⟨source, .kept cell stored, closed, copies⟩
  · exact Or.inr ⟨item, held, copied.known, copied.copies⟩

/-- Everything that is held refers to cells that were made, and a cell tells the record that owns
it. -/
structure Isolated (space : Workspace) : Prop where
  bounded : ∀ item, space.Holds item → ∀ cell ∈ item.cells, cell < space.store.size
  single : ∀ first second place, space.Holds (.record first place) →
    space.Holds (.record second place) → first = second

/-- A workspace leads to another one when each record that is new there has a new cell of its
own. -/
structure Leads (space next : Workspace) : Prop where
  grows : space.store.size ≤ next.store.size
  bounded : ∀ item, next.Holds item →
    space.Holds item ∨ ∀ cell ∈ item.cells, cell < next.store.size
  fresh : ∀ sheet place, next.Holds (.record sheet place) →
    space.Holds (.record sheet place) ∨ space.store.size ≤ place
  apart : ∀ first second place, space.store.size ≤ place → next.Holds (.record first place) →
    next.Holds (.record second place) → first = second

namespace Isolated

variable {space next : Workspace} (isolated : space.Isolated)
include isolated

theorem place_lt (sheet : Sheet) (place : Nat) (held : space.Holds (.record sheet place)) :
    place < space.store.size :=
  isolated.bounded _ held place List.mem_cons_self

theorem not_holds_of_le (sheet : Sheet) (place : Nat) (beyond : space.store.size ≤ place) :
    ¬ space.Holds (.record sheet place) := fun held =>
  Nat.not_lt.mpr beyond (isolated.place_lt sheet place held)

/-- At most one item is made, and a record that is made owns a new cell. -/
theorem leads_of_made (made : Item) (grows : space.store.size ≤ next.store.size)
    (inside : ∀ cell ∈ made.cells, cell < next.store.size)
    (own : ∀ sheet place, made = .record sheet place → space.store.size ≤ place)
    (held : ∀ item, next.Holds item →
      space.Holds item ∨ item = made ∨ ∃ task, item = .task task) : space.Leads next where
  grows := grows
  bounded := by
    intro item after
    rcases held item after with before | rfl | ⟨task, rfl⟩
    · exact Or.inl before
    · exact Or.inr inside
    · exact Or.inr (List.forall_mem_nil _)
  fresh := by
    intro sheet place after
    rcases held _ after with before | same | ⟨task, same⟩
    · exact Or.inl before
    · exact Or.inr (own sheet place same.symm)
    · cases same
  apart := by
    have made_of (sheet : Sheet) (place : Nat) (beyond : space.store.size ≤ place)
        (after : next.Holds (.record sheet place)) : .record sheet place = made := by
      rcases held _ after with before | same | ⟨task, same⟩
      · exact absurd before (isolated.not_holds_of_le sheet place beyond)
      · exact same
      · cases same
    intro first second place beyond one two
    cases (made_of first place beyond one).trans (made_of second place beyond two).symm
    rfl

/-- A workspace in which nothing is made has no new records. -/
theorem leads_of_kept (grows : space.store.size ≤ next.store.size)
    (kept : ∀ item, next.Holds item → space.Holds item) : space.Leads next where
  grows := grows
  bounded := fun item after => Or.inl (kept item after)
  fresh := fun sheet place after => Or.inl (kept _ after)
  apart := by
    intro first second place beyond one two
    exact absurd (kept _ one) (isolated.not_holds_of_le first place beyond)

/-- A write or a removal makes nothing. -/
theorem leads_of_update (place : Nat) (f : Cell → Cell)
    (held : ∀ item ∈ (f (space.store.cell place)).values, space.Holds item) :
    space.Leads (space.update place f) := by
  refine isolated.leads_of_kept (Nat.le_of_eq (space.store.size_update place f).symm) ?_
  intro item after
  exact (space.holds_of_update place f item after).elim id (held item)

theorem bounded_store : space.store.Bounded :=
  fun place item member => isolated.bounded item (.kept place member)

/-- An item that is held has all its cells, so it is copied with them. -/
theorem copied_of_holds (way : CopyWay) (item : Item) (held : space.Holds item) :
    ∃ found move revise, space.store.Copied item (space.store.copyBy way item).1
      (space.store.copyBy way item).2 found move revise :=
  space.store.copied_copyBy way item isolated.bounded_store (isolated.bounded item held)

/-- A copied record stands in a new cell, one for each record that is copied. -/
theorem leads_of_copy (target : String) (item : Item) (store : Store) (copy : Item)
    (found : List Nat) (move : Nat → Nat) (revise : Nat → Sheet → Sheet)
    (held : space.Holds item) (copied : space.store.Copied item store copy found move revise) :
    space.Leads ({ space with store := store }.bind target copy) := by
  have extended := copied.extended
  have origin := space.held_of_copy target item store copy found move revise held copied
  have moved (sheet : Sheet) (place : Nat)
      (after : ({ space with store := store }.bind target copy).Holds (.record sheet place)) :
      space.Holds (.record sheet place) ∨ ∃ cell old, cell ∈ found ∧
        space.Holds (.record old cell) ∧ sheet = revise cell old ∧ place = move cell := by
    rcases origin _ after with before | ⟨source, was, inside, copied⟩
    · exact Or.inl before
    · cases copied with
      | record old cell => exact Or.inr ⟨cell, old, inside cell List.mem_cons_self, was, rfl, rfl⟩
  exact {
    grows := extended.grows
    bounded := by
      intro other after
      refine (origin other after).imp_right ?_
      rintro ⟨source, -, inside, copied⟩ cell member
      cases copied with
      | task old new => cases member
      | map place =>
          obtain rfl := List.mem_singleton.mp member
          exact (extended.fresh place (inside place List.mem_cons_self)).2
      | record sheet place =>
          obtain rfl := List.mem_singleton.mp member
          exact (extended.fresh place (inside place List.mem_cons_self)).2
    fresh := by
      intro sheet place after
      refine (moved sheet place after).imp_right ?_
      rintro ⟨cell, old, inside, -, -, rfl⟩
      exact (extended.fresh cell inside).1
    apart := by
      intro first second place beyond one two
      have absent (sheet : Sheet) := isolated.not_holds_of_le sheet place beyond
      obtain ⟨cell, old, inside, was, rfl, rfl⟩ := (moved first place one).resolve_left (absent _)
      obtain ⟨other, same, among, had, rfl, moves⟩ :=
        (moved second _ two).resolve_left (absent _)
      obtain rfl := extended.apart cell inside other among moves
      rw [isolated.single old same cell was had] }

/-- Every move leads to a workspace whose new records have new cells of their own. -/
theorem leads_of_move (step : WorkStep) (move : space.Move step next) : space.Leads next := by
  cases move with
  | stays => exact isolated.leads_of_kept (Nat.le_refl _) fun item after => after
  | makesTask target sheet known =>
      refine isolated.leads_of_made (.task sheet) (Nat.le_refl _) (List.forall_mem_nil _)
        (fun _ _ same => by cases same) ?_
      intro item after
      exact (space.holds_of_bind target _ item after).imp_right Or.inl
  | makesMap target items tasks known held =>
      have size : (space.bindMap target tasks).store.size = space.store.size + 1 :=
        space.store.size_add tasks
      refine isolated.leads_of_made (.map space.store.size) (by omega) ?_
        (fun _ _ same => by cases same) ?_
      · rw [Item.cells, List.forall_mem_singleton]
        omega
      · intro item after
        rcases holds_of_bind _ target _ item after with before | same
        · exact Or.inl ((space.holds_of_add tasks item before).elim id (held item))
        · exact Or.inr (Or.inl same)
  | makesRecord target sheet tasks known held =>
      have size : (space.bindRecord target sheet tasks).store.size = space.store.size + 1 :=
        space.store.size_add tasks
      refine isolated.leads_of_made (.record sheet space.store.size) (by omega) ?_ ?_ ?_
      · rw [Item.cells, List.forall_mem_singleton]
        omega
      · intro other place same
        cases same
        exact Nat.le_refl _
      · intro item after
        rcases holds_of_bind _ target _ item after with before | same
        · rcases space.holds_of_add tasks item before with old | among
          · exact Or.inl old
          · exact (held item among).imp_right Or.inr
        · exact Or.inr (Or.inl same)
  | puts name source given place key item known found held =>
      refine isolated.leads_of_update place _ ?_
      intro other member
      rcases Table.mem_values_put _ key item other member with old | rfl
      · exact .kept place old
      · exact held
  | removes name given place key known found =>
      refine isolated.leads_of_update place _ ?_
      intro other member
      exact .kept place (Table.mem_values_remove _ key other member)
  | copies source target way item known found =>
      have held : space.Holds item := .named source found
      obtain ⟨among, move, revise, copied⟩ := isolated.copied_of_holds way item held
      exact isolated.leads_of_copy target item _ _ among move revise held copied
  | takes source target sheet place known found =>
      refine isolated.leads_of_made (.map place) (Nat.le_refl _) ?_ (fun _ _ same => by cases same)
        ?_
      · rw [Item.cells, List.forall_mem_singleton]
        exact isolated.place_lt sheet place (.named source found)
      · intro item after
        exact (space.holds_of_bind target _ item after).imp_right Or.inl

/-- Old cells keep their owners, and each new cell has one owner. -/
theorem isolated_of_leads (leads : space.Leads next) : next.Isolated where
  bounded := by
    intro item after cell member
    rcases leads.bounded item after with before | inside
    · exact Nat.lt_of_lt_of_le (isolated.bounded item before cell member) leads.grows
    · exact inside cell member
  single := by
    intro first second place one two
    rcases Nat.lt_or_ge place space.store.size with old | new
    · have before (sheet : Sheet) (after : next.Holds (.record sheet place)) :
          space.Holds (.record sheet place) :=
        (leads.fresh sheet place after).resolve_right (Nat.not_le.mpr old)
      exact isolated.single first second place (before first one) (before second two)
    · exact leads.apart first second place new one two

end Isolated

end Workspace

end CheckpointReport
