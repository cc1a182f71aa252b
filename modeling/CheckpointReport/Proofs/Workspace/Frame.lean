/-
This file follows a program from the empty workspace. What a record shows is changed only through
a name that was taken from this record before.
-/

import CheckpointReport.Proofs.Workspace.Depth
import CheckpointReport.Proofs.Workspace.Ownership

namespace CheckpointReport

namespace Workspace

/-- A record shows its tasks in order, its encoding and its attributes. What stands among the tasks
and is no task has attributes of its own. -/
structure SameView (space next : Workspace) (sheet : Sheet) (place : Nat) : Prop where
  tasks : next.store.cell place = space.store.cell place
  encoding : next.encodeItem (.record sheet place) = space.encodeItem (.record sheet place)
  attributes : (∀ item ∈ (space.store.cell place).values, ∃ task, item = .task task) →
    next.attributesOf (.record sheet place) = space.attributesOf (.record sheet place)

section View

variable {space next : Workspace} (isolated : space.Isolated)
variable (grows : space.store.size ≤ next.store.size)
include isolated grows

/-- New cells and cells that the item does not lead to change none of its attributes. -/
theorem attributesOf_of_reaches (item : Item) (held : space.Holds item)
    (same : ∀ place, space.store.Reaches item place →
      next.store.cell place = space.store.cell place) :
    next.attributesOf item = space.attributesOf item := by
  have shown : next.store.attributes (next.store.size + 1) item =
      space.store.attributes (space.store.size + 1) item := by
    rw [space.store.attributes_of_reaches next.store _ item same]
    exact space.store.attributes_of_le isolated.bounded_store _ item grows
      (isolated.bounded item held)
  cases item with
  | task sheet => exact shown
  | map place => rfl
  | record sheet place => exact shown

/-- What a record shows depends on its own cell only. -/
theorem sameView_of_cell (sheet : Sheet) (place : Nat) (held : space.Holds (.record sheet place))
    (same : next.store.cell place = space.store.cell place) :
    space.SameView next sheet place where
  tasks := same
  encoding := by
    rw [encodeItem, encodeItem, Store.encode?, Store.encode?, Store.report?, Store.report?, same]
  attributes := by
    intro tasks
    refine attributesOf_of_reaches isolated grows _ held ?_
    intro cell reached
    rw [space.store.eq_of_reaches sheet place tasks cell reached, same]

end View

/-- The attributes of an item are changed through a name for a cell that the item leads to. -/
theorem attributesOf_of_move {space next : Workspace} {step : WorkStep}
    (move : space.Move step next) (isolated : space.Isolated)
    (grows : space.store.size ≤ next.store.size) (item : Item) (held : space.Holds item) :
    next.attributesOf item = space.attributesOf item ∨
      ∃ name place, step.changed? = some name ∧ space.names.get? name = some (.map place) ∧
        space.store.Reaches item place := by
  by_cases same : ∀ place, space.store.Reaches item place →
      next.store.cell place = space.store.cell place
  · exact Or.inl (attributesOf_of_reaches isolated grows item held same)
  · simp only [not_forall] at same
    obtain ⟨place, reached, different⟩ := same
    have inside := space.store.lt_of_reaches isolated.bounded_store item
      (isolated.bounded item held) place reached
    obtain ⟨name, changed, found⟩ :=
      (cell_of_move move isolated place inside).resolve_left different
    exact Or.inr ⟨name, place, changed, found, reached⟩

/-- A program had a name for the record. -/
def EverNamed (steps : List WorkStep) (sheet : Sheet) (place : Nat) : Prop :=
  ∃ before after owner, steps = before ++ after ∧
    (empty.run before).names.get? owner = some (.record sheet place)

/-- A program asked the record for its cell and called the cell by this name. -/
def TakenFrom (steps : List WorkStep) (name : String) (sheet : Sheet) (place : Nat) : Prop :=
  ∃ before source after, steps = before ++ .tasksOf source name :: after ∧
    (empty.run before).names.get? source = some (.record sheet place)

/-- A program made the cell from entries of its own. -/
def MadeByCaller (steps : List WorkStep) (place : Nat) : Prop :=
  ∃ before target items after next reply, steps = before ++ .map target items :: after ∧
    (empty.run before).step (.map target items) = .ok (next, reply) ∧
      next.names.get? target = some (.map place)

/-- A name for the cell of a record was taken from this record, or it was copied together with this
record from a name that was taken. -/
inductive Taken : List WorkStep → String → Nat → Prop where
  | own (steps : List WorkStep) (source name : String) (sheet : Sheet) (place : Nat)
      (found : (empty.run steps).names.get? source = some (.record sheet place)) :
      Taken (steps ++ [.tasksOf source name]) name place
  | together (steps : List WorkStep) (source name : String) (way : CopyWay) (sheet : Sheet)
      (old place : Nat) (found : (empty.run steps).names.get? source = some (.map old))
      (owned : (empty.run steps).Holds (.record sheet old)) (taken : Taken steps source old)
      (copied : (empty.run (steps ++ [.clone source name way])).names.get? name =
        some (.map place)) :
      Taken (steps ++ [.clone source name way]) name place
  | later (steps : List WorkStep) (step : WorkStep) (name : String) (place : Nat)
      (taken : Taken steps name place) : Taken (steps ++ [step]) name place

theorem isolated_run (steps : List WorkStep) : (empty.run steps).Isolated :=
  isolated_empty.run steps

theorem move_of_last (steps : List WorkStep) (step : WorkStep) :
    (empty.run steps).Move step (empty.run (steps ++ [step])) := by
  rw [run_concat]
  exact (empty.run steps).move_of_advance step

theorem place_lt_of_named (steps : List WorkStep) (name : String) (place : Nat)
    (found : (empty.run steps).names.get? name = some (.map place)) :
    place < (empty.run steps).store.size :=
  (isolated_run steps).bounded _ (.named name found) place List.mem_cons_self

/-- A name for the cell of a record was taken from the record. The induction is on the steps from
the last one on. -/
theorem taken_of_names (steps : List WorkStep) (name : String) (sheet : Sheet) (place : Nat)
    (found : (empty.run steps).names.get? name = some (.map place))
    (held : (empty.run steps).Holds (.record sheet place)) : Taken steps name place := by
  induction steps using List.reverseRecOn generalizing name sheet place with
  | nil => cases found
  | append_singleton init step ih =>
      have move := move_of_last init step
      have isolated := isolated_run init
      have leads := isolated.leads_of_move step move
      cases isolated.names_of_move move name place found with
      | kept before =>
          have inside := place_lt_of_named init name place before
          have owned := (leads.fresh sheet place held).resolve_right (Nat.not_le.mpr inside)
          exact .later init step name place (ih name sheet place before owned)
      | taken source owner known bound =>
          subst known
          exact .own init source name owner place bound
      | made beyond unnamed together =>
          obtain ⟨source, way, old, was, rfl, bound, owned⟩ := together sheet held
          exact .together init source name way was old place bound owned
            (ih source was old bound owned) found

/-- A record that was named once keeps its cell, and the cell has no other owner. -/
theorem owner_of_everNamed (steps : List WorkStep) (sheet : Sheet) (place : Nat)
    (named : EverNamed steps sheet place) : place < (empty.run steps).store.size ∧
      ∀ other, (empty.run steps).Holds (.record other place) → other = sheet := by
  obtain ⟨before, after, owner, rfl, found⟩ := named
  have isolated := isolated_run before
  have held : (empty.run before).Holds (.record sheet place) := .named owner found
  have inside := isolated.place_lt sheet place held
  obtain ⟨grows, earlier⟩ := isolated.held_before_run after
  rw [run_append]
  refine ⟨Nat.lt_of_lt_of_le inside grows, ?_⟩
  intro other owned
  exact isolated.single other sheet place (earlier other place owned inside) held

theorem everNamed_concat (init : List WorkStep) (step : WorkStep) (sheet : Sheet) (place : Nat)
    (named : EverNamed (init ++ [step]) sheet place) : EverNamed init sheet place ∨
      ∃ owner, (empty.run (init ++ [step])).names.get? owner = some (.record sheet place) := by
  obtain ⟨before, after, owner, split, found⟩ := named
  rcases List.eq_nil_or_concat after with rfl | ⟨rest, last, rfl⟩
  · rw [List.append_nil] at split
    exact Or.inr ⟨owner, split ▸ found⟩
  · rw [List.concat_eq_append, ← List.append_assoc] at split
    obtain ⟨same, -⟩ := List.append_inj' split rfl
    exact Or.inl ⟨before, rest, owner, same, found⟩

theorem takenFrom_concat (init : List WorkStep) (step : WorkStep) (name : String) (sheet : Sheet)
    (place : Nat) (taken : TakenFrom init name sheet place) :
    TakenFrom (init ++ [step]) name sheet place := by
  obtain ⟨before, source, after, rfl, found⟩ := taken
  exact ⟨before, source, after ++ [step], List.append_assoc _ _ _, found⟩

/-- A name for the cell of a record that was named once was taken from this record. -/
theorem takenFrom_of_names (steps : List WorkStep) (name : String) (sheet : Sheet) (place : Nat)
    (found : (empty.run steps).names.get? name = some (.map place))
    (named : EverNamed steps sheet place) : TakenFrom steps name sheet place := by
  induction steps using List.reverseRecOn with
  | nil => cases found
  | append_singleton init step ih =>
      have move := move_of_last init step
      have isolated := isolated_run init
      -- A cell from before the step is owned by a record that was named before the step.
      have earlier (inside : place < (empty.run init).store.size) : EverNamed init sheet place := by
        rcases everNamed_concat init step sheet place named with before | ⟨owner, now⟩
        · exact before
        · rcases named_record_of_move move isolated owner sheet place now with old | ⟨new, -⟩
          · exact ⟨init, [], owner, (List.append_nil init).symm, old⟩
          · exact absurd inside (Nat.not_lt.mpr new)
      cases isolated.names_of_move move name place found with
      | kept before =>
          have inside := place_lt_of_named init name place before
          exact takenFrom_concat init step name sheet place (ih before (earlier inside))
      | taken source owner known bound =>
          have owned : (empty.run init).Holds (.record owner place) := .named source bound
          have before := earlier (isolated.place_lt owner place owned)
          obtain rfl := (owner_of_everNamed init sheet place before).2 owner owned
          exact ⟨init, source, [], by rw [known], bound⟩
      | made beyond unnamed together =>
          rcases everNamed_concat init step sheet place named with before | ⟨owner, now⟩
          · exact absurd (owner_of_everNamed init sheet place before).1 (Nat.not_lt.mpr beyond)
          · have owned : (empty.run init).Holds (.record sheet place) :=
              .named owner (unnamed owner sheet place now)
            exact absurd owned (isolated.not_holds_of_le sheet place beyond)

/-- No record owns a cell that a program made from entries of its own. -/
theorem not_holds_of_madeByCaller (steps : List WorkStep) (place : Nat)
    (made : MadeByCaller steps place) (sheet : Sheet) :
    ¬ (empty.run steps).Holds (.record sheet place) := by
  obtain ⟨before, target, items, after, next, reply, rfl, done, found⟩ := made
  obtain ⟨tasks, collected, same⟩ := Success.bind_eq_ok_iff.mp done
  cases same
  have isolated := isolated_run before
  have ran : (empty.run before).advance (.map target items) =
      (empty.run before).bindMap target tasks := by
    rw [advance, done]
  have leads := ran ▸ isolated.advance (.map target items)
  have newest : place = (empty.run before).store.size := by
    rw [bindMap, get?_bind, if_pos rfl] at found
    cases found
    rfl
  subst newest
  intro held
  have inside : (empty.run before).store.size <
      ((empty.run before).bindMap target tasks).store.size := by
    rw [bindMap, bind, Store.size_add]
    exact Nat.lt_succ_self _
  have split : (empty.run (before ++ .map target items :: after)) =
      ((empty.run before).bindMap target tasks).run after := by
    rw [run_append, ← ran]
    rfl
  rw [split] at held
  have owned := (leads.held_before_run after).2 sheet _ held inside
  exact isolated.not_holds_bindMap target tasks
    ((empty.run before).held_of_collect items tasks collected) sheet owned

/-- Two names never stand for records with the same cell. -/
theorem name_of_record (steps : List WorkStep) (one two : String) (first second : Sheet)
    (place : Nat) (left : (empty.run steps).names.get? one = some (.record first place))
    (right : (empty.run steps).names.get? two = some (.record second place)) : one = two := by
  induction steps using List.reverseRecOn with
  | nil => cases left
  | append_singleton init step ih =>
      have move := move_of_last init step
      have isolated := isolated_run init
      have absent (name : String) (sheet : Sheet) (new : (empty.run init).store.size ≤ place) :
          (empty.run init).names.get? name ≠ some (.record sheet place) := fun old =>
        isolated.not_holds_of_le sheet place new (.named name old)
      rcases named_record_of_move move isolated one first place left with before | ⟨new, target⟩
      · rcases named_record_of_move move isolated two second place right with old | ⟨new, -⟩
        · exact ih before old
        · exact absurd before (absent one first new)
      · rcases named_record_of_move move isolated two second place right with old | ⟨-, same⟩
        · exact absurd old (absent two second new)
        · exact Option.some.inj (target.symm.trans same)

/-- A program has run these steps, and one more step leads to the next workspace. Records and cells
of the program are apart, and a record that was there shows the same afterwards, unless its own cell
was changed through a name that was taken from it. A record that never had a name is changed through
the copy of such a name at most. -/
structure Apart (steps : List WorkStep) (space : Workspace) (step : WorkStep)
    (next : Workspace) : Prop where
  names : ∀ one two first second place, space.names.get? one = some (.record first place) →
    space.names.get? two = some (.record second place) → one = two
  owners : ∀ first second place, space.Holds (.record first place) →
    space.Holds (.record second place) → first = second
  callers : ∀ place, MadeByCaller steps place → ∀ sheet, ¬ space.Holds (.record sheet place)
  inside : ∀ item, space.Holds item → ∀ cell ∈ item.cells, cell < space.store.size
  made : ∀ sheet place, next.Holds (.record sheet place) →
    space.Holds (.record sheet place) ∨ space.store.size ≤ place
  fresh : ∀ owner sheet place, next.names.get? owner = some (.record sheet place) →
    space.names.get? owner = some (.record sheet place) ∨
      space.store.size ≤ place ∧ step.target? = some owner
  fixed : ∀ before after place, space.Holds (.record before place) →
    next.Holds (.record after place) → after = before
  bound : ∀ name item, space.names.get? name = some item →
    next.names.get? name = some item ∨ step.target? = some name
  shown : ∀ sheet place, space.Holds (.record sheet place) → space.SameView next sheet place ∨
    ∃ name, step.changed? = some name ∧ space.names.get? name = some (.map place) ∧
      (TakenFrom steps name sheet place ∨ ¬ EverNamed steps sheet place ∧ Taken steps name place)
  nested : ∀ item, space.Holds item → next.attributesOf item = space.attributesOf item ∨
    ∃ name place, step.changed? = some name ∧ space.names.get? name = some (.map place) ∧
      space.store.Reaches item place
  failed : ∀ error, space.step step = .error error → next = space

/-- A step changes what a record shows only through a name that was taken from this record. -/
theorem records_are_isolated (steps : List WorkStep) (step : WorkStep) :
    Apart steps (empty.run steps) step (empty.run (steps ++ [step])) := by
  have isolated := isolated_run steps
  have move := move_of_last steps step
  have leads := isolated.leads_of_move step move
  exact {
    names := name_of_record steps
    owners := isolated.single
    callers := not_holds_of_madeByCaller steps
    inside := isolated.bounded
    made := leads.fresh
    fresh := named_record_of_move move isolated
    fixed := by
      intro before after place held owned
      have inside := isolated.place_lt before place held
      have earlier := (leads.fresh after place owned).resolve_right (Nat.not_le.mpr inside)
      exact isolated.single after before place earlier held
    bound := name_of_move move isolated
    shown := by
      intro sheet place held
      have inside := isolated.place_lt sheet place held
      rcases cell_of_move move isolated place inside with same | ⟨name, changed, found⟩
      · exact Or.inl (sameView_of_cell isolated leads.grows sheet place held same)
      · refine Or.inr ⟨name, changed, found, ?_⟩
        by_cases named : EverNamed steps sheet place
        · exact Or.inl (takenFrom_of_names steps name sheet place found named)
        · exact Or.inr ⟨named, taken_of_names steps name sheet place found held⟩
    nested := attributesOf_of_move move isolated leads.grows
    failed := by
      intro error refused
      rw [run_concat, advance, refused] }

/-- This program writes out the cell of a record that stands in this cell, and reads it back. The
identifier of the record is no number, so the copy differs and is no endless comparison. Another
record keeps the copied record, which then loses its copy of itself. -/
def mirroring : List WorkStep :=
  let zeros := Counters.keys.toList.map fun key => (key, .int 0)
  let record (id : Value) := [("id", id), ("status", .text "IN_PROGRESS"),
    ("is_savepoint", .bool false), ("savepoint_format", .null), ("trigger_timestamp", .int 0),
    ("checkpoint_type", .text "CHECKPOINT")] ++ zeros
  let task := [("id", .text "vertex"), ("status", .text "COMPLETED")] ++ zeros
  [.new "record" .inProgress ⟨record (.float .invalid), some .empty⟩,
    .tasksOf "record" "own",
    .put "own" (.text "self") "record",
    .clone "own" "copy" .transferred,
    .new "outer" .inProgress ⟨record (.int 8), some (.named "copy")⟩,
    .remove "copy" (.text "self"),
    .task "task" ⟨task, none⟩]

/-- The copied name was never taken from a record, and yet it changes what the copied record shows.
No name stands for that record. -/
theorem mirrored_record_changed :
    let space := empty.run mirroring
    let next := empty.run (mirroring ++ [.put "copy" (.text "vertex") "task"])
    ∃ sheet place, space.Holds (.record sheet place) ∧ next.Holds (.record sheet place) ∧
      space.names.get? "copy" = some (.map place) ∧ ¬ space.SameView next sheet place ∧
        ∀ source spot, ¬ TakenFrom mirroring "copy" source spot := by
  intro space next
  obtain ⟨sheet, kept⟩ : ∃ sheet, (space.store.cell 3).values = [.record sheet 1] := ⟨_, rfl⟩
  have member : .record sheet 1 ∈ (space.store.cell 3).values := kept ▸ List.mem_singleton_self _
  have still : next.store.cell 3 = space.store.cell 3 := rfl
  refine ⟨sheet, 1, .kept 3 member, .kept 3 (still ▸ member), rfl, ?_, ?_⟩
  · intro view
    have sizes : (next.store.cell 1).size ≠ (space.store.cell 1).size := by decide
    exact sizes (congrArg Table.size view.tasks)
  · intro source spot taken
    obtain ⟨before, owner, after, split, -⟩ := taken
    have asked : .tasksOf owner "copy" ∈ mirroring := by
      rw [split]
      exact List.mem_append_right before List.mem_cons_self
    simp [mirroring] at asked

end Workspace

end CheckpointReport
