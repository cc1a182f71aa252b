/-
This file tells when two records of a workspace are equal, after which changes they stay so, and
which steps make a record that is equal to another one.
-/

import CheckpointReport.Proofs.Workspace.Duplicate
import CheckpointReport.Proofs.Workspace.Frame

namespace CheckpointReport

namespace Workspace

/-- A name stands for the cell of a record, so the tasks of the record are changed through it. -/
def OwnCell (space : Workspace) (name : String) (item : Item) : Prop :=
  ∃ place ∈ item.cells, space.names.get? name = some (.map place)

/-- Records whose attributes and tasks have their declared types are compared by their contents, and
this is as their written forms are compared. Equal items have equal hashes, whatever their types and
whatever function makes the hashes. -/
structure ComparesContents (space : Workspace) : Prop where
  shown : ∀ sheet place, space.Holds (.record sheet place) → sheet.WellTyped →
    (∀ entry ∈ (space.store.cell place).entries, (∃ name, entry.1 = .text name) ∧
      ∃ task : TaskReport, entry.2 = .task (.ofReport task) ∧ task.WellTyped) →
    ∃ tasks, space.Shows (.record sheet place) ⟨sheet, tasks⟩
  written : ∀ item report, space.Shows item report → space.encodeItem item = .ok report.members
  compared : ∀ first second one two, space.Shows first one → space.Shows second two →
    space.store.compare first second = .ok (one.encode.same two.encode)
  told : ∀ a b first second one two, space.names.get? a = some first →
    space.names.get? b = some second → space.Shows first one → space.Shows second two →
    space.step (.compare a b) = .ok (space, .compared (one.encode.same two.encode)
      (one.sheet.hashed.map Prod.snd) (two.sheet.hashed.map Prod.snd))
  agreeing : ∀ first second one two, space.Shows first one → space.Shows second two →
    (space.Equal first second ↔ one.AgreesWith two)
  writtenAlike : ∀ first second one two, space.Shows first one → space.Shows second two →
    (space.Equal first second ↔ one.WrittenAlike two)
  reflexive : ∀ item report, space.Shows item report → space.Equal item item
  symmetric : ∀ first second one two, space.Shows first one → space.Shows second two →
    space.Equal first second → space.Equal second first
  transitive : ∀ first second third one two three, space.Shows first one →
    space.Shows second two → space.Shows third three →
    space.Equal first second → space.Equal second third → space.Equal first third
  hashable : ∀ hasher item report, space.Shows item report →
    item.hash hasher = .ok (hasher.hash (report.sheet.hashed.map Prod.snd))
  hashed : ∀ hasher first second, space.Holds first → space.Holds second →
    space.Equal first second → first.hash hasher = second.hash hasher

/-- No change of a cell is seen in a hash. A typed task that is put into the cell of a record or
removed from it is shown afterwards, and it ends the equality with another record unless it stood
there already. -/
structure ChangesEquality (space : Workspace) : Prop where
  hashes : ∀ hasher step, step.changed? ≠ none → ∀ name,
    (space.advance step).hashOf hasher name = space.hashOf hasher name
  put : ∀ first one name source key task, space.Shows first one → space.OwnCell name first →
    space.names.get? source = some (.task (.ofReport task)) → task.WellTyped →
    let next := space.advance (.put name (.text key) source)
    next.Shows first ⟨one.sheet, one.tasks.put (.text key) task⟩ ∧
      ∀ second two, space.Shows second two → first ≠ second → next.Shows second two ∧
        (space.Equal first second →
          (next.Equal first second ↔ one.tasks.get? (.text key) = some task))
  removed : ∀ first one name key task, space.Shows first one → space.OwnCell name first →
    one.tasks.get? (.text key) = some task →
    let next := space.advance (.remove name (.text key))
    next.Shows first ⟨one.sheet, one.tasks.remove (.text key)⟩ ∧
      ∀ second two, space.Shows second two → first ≠ second → next.Shows second two ∧
        (space.Equal first second → ¬ next.Equal first second)

/-- A record is made again by these steps, and the new record is equal to the original. -/
structure RepeatsRecords (space : Workspace) : Prop where
  replaced : ∀ source target item report, space.names.get? source = some item →
    space.Shows item report →
    space.Repeats (.replace source target ⟨[], none⟩) .done target item report
  cloned : ∀ source target way item report, space.names.get? source = some item →
    space.Shows item report →
    space.Repeats (.clone source target way) (.cloned true) target item report
  recoded : ∀ source target item report, space.names.get? source = some item →
    space.Shows item report → space.Repeats (.recode source target) .done target item report

/-- After a change of its cell a record is compared by its new tasks. -/
theorem shows_of_update {space next : Workspace} (isolated : space.Isolated)
    (afterwards : next.Isolated) {first : Item} {one : Report} {place : Nat}
    (owner : space.Shows first one) (own : place ∈ first.cells) (f : Cell → Cell)
    (tasks : Table Key TaskReport) (changed : f (cellOf one.tasks) = cellOf tasks)
    (typed : TasksWellTyped tasks) (ran : next = space.update place f) :
    next.Shows first ⟨one.sheet, tasks⟩ ∧
      ∀ second two, space.Shows second two → first ≠ second → next.Shows second two ∧
        (next.Equal first second ↔ (⟨one.sheet, tasks⟩ : Report).AgreesWith two) := by
  have shown : next.Shows first ⟨one.sheet, tasks⟩ :=
    ran ▸ owner.update isolated own f tasks changed typed
  refine ⟨shown, ?_⟩
  intro second two other apart
  have still : next.Shows second two := ran ▸ owner.update_of_ne isolated own f other apart
  exact ⟨still, shown.equal_iff afterwards still⟩

namespace Isolated

variable {space : Workspace} (isolated : space.Isolated)
include isolated

/-- Each law comes from what the two records show. -/
theorem comparesContents : space.ComparesContents where
  shown := by
    intro sheet place held attributes typed
    obtain ⟨tasks, cell, fine⟩ := exists_cellOf _ typed
    exact ⟨tasks, .record ⟨sheet, tasks⟩ place held cell ⟨attributes, fine⟩⟩
  written := fun item report shown => shown.encodeItem
  compared := fun first second one two left right => left.compare_eq isolated right
  told := by
    intro a b first second one two left right shown other
    apply Success.bind_eq_ok_iff.mpr
    refine ⟨first, (space.item_eq_ok_iff a first).mpr left, ?_⟩
    apply Success.bind_eq_ok_iff.mpr
    refine ⟨second, (space.item_eq_ok_iff b second).mpr right, ?_⟩
    apply Success.bind_eq_ok_iff.mpr
    refine ⟨_, shown.compare_eq isolated other, ?_⟩
    apply Success.bind_eq_ok_iff.mpr
    refine ⟨_, shown.hashedValues_eq, ?_⟩
    apply Success.bind_eq_ok_iff.mpr
    exact ⟨_, other.hashedValues_eq, rfl⟩
  agreeing := fun first second one two left right => left.equal_iff isolated right
  writtenAlike := by
    intro first second one two left right
    rw [left.equal_iff isolated right, one.agreesWith_iff two left.wellTyped right.wellTyped]
  reflexive := by
    intro item report shown
    exact (shown.equal_iff isolated shown).mpr (.refl report)
  symmetric := by
    intro first second one two left right equal
    have agrees := (left.equal_iff isolated right).mp equal
    exact (right.equal_iff isolated left).mpr agrees.symm
  transitive := by
    intro first second third one two three left middle right equal following
    have agrees := (left.equal_iff isolated middle).mp equal
    have others := (middle.equal_iff isolated right).mp following
    exact (left.equal_iff isolated right).mpr (agrees.trans others)
  hashable := fun hasher item report shown => shown.hash_eq hasher
  hashed := fun hasher first second left right equal => equal.hash_eq isolated hasher left right

/-- A change is followed into the one record that owns the cell. -/
theorem changesEquality : space.ChangesEquality where
  hashes := by
    intro hasher step changed name
    rw [hashOf, hashOf, item, item, names_of_changed isolated step changed]
  put := by
    intro first one name source key task owner own known well next
    obtain ⟨place, member, found⟩ := own
    obtain ⟨shown, others⟩ := shows_of_update isolated (isolated.advance _) owner member _ _
      (cellOf_put one.tasks (.text key) task) (owner.wellTyped.tasks.put key task well)
      (space.advance_put name source key place _ found known)
    refine ⟨shown, ?_⟩
    intro second two other apart
    obtain ⟨still, told⟩ := others second two other apart
    refine ⟨still, ?_⟩
    intro equal
    have agrees := (owner.equal_iff isolated other).mp equal
    rw [told, agrees.put_iff]
  removed := by
    intro first one name key task owner own present next
    obtain ⟨place, member, found⟩ := own
    have stored : (space.store.cell place).get? (.text key) = some (.task (.ofReport task)) := by
      cases owner with
      | record _ spot held cell typed =>
          obtain rfl := List.mem_singleton.mp member
          rw [cell, get?_cellOf, present, Option.map_some]
    obtain ⟨shown, others⟩ := shows_of_update isolated (isolated.advance _) owner member _ _
      (cellOf_remove one.tasks (.text key)) (owner.wellTyped.tasks.remove (.text key))
      (space.advance_remove name key place _ found stored)
    refine ⟨shown, ?_⟩
    intro second two other apart
    obtain ⟨still, told⟩ := others second two other apart
    refine ⟨still, ?_⟩
    intro equal
    have agrees := (owner.equal_iff isolated other).mp equal
    rw [told, agrees.remove_iff, present]
    exact Option.some_ne_none task

/-- The new record stands in a cell of its own with the same tasks. -/
theorem repeatsRecords : space.RepeatsRecords where
  replaced := by
    intro source target item report found shown
    cases shown with
    | record _ place held cell typed =>
        exact repeats_of_replace (isolated.place_lt _ place held) cell typed source target found
  cloned := by
    intro source target way item report found shown
    cases shown with
    | record _ place held cell typed =>
        exact repeats_of_clone (isolated.place_lt _ place held) cell typed source target way found
  recoded := by
    intro source target item report found shown
    cases shown with
    | record _ place held cell typed =>
        exact repeats_of_recode (isolated.place_lt _ place held) cell typed source target found

end Isolated

/-- Equality is equality of contents after any steps, whether they failed or not. -/
theorem equality_is_equality_of_contents (steps : List WorkStep) :
    let space := Workspace.empty.run steps
    space.ComparesContents ∧ space.ChangesEquality ∧ space.RepeatsRecords := by
  intro space
  have isolated : space.Isolated := isolated_run steps
  exact ⟨isolated.comparesContents, isolated.changesEquality, isolated.repeatsRecords⟩

/-- This task was acknowledged by nobody. -/
def idleTask : TaskReport where
  id := .int 8
  status := .inProgress
  counters := Counters.map Value.int ⟨-1, 0, 0, 0, 0, 0, 0, 1, 0⟩
  within := (Counters.within_int _).mpr (by decide)

/-- A record is read, made again from its attributes and copied. Its cell has a name, and so has a
task. -/
def tripling : List WorkStep :=
  [.decode "record" failedSavepoint.encode,
    .replace "record" "twin" ⟨[], none⟩,
    .clone "record" "copy" .transferred,
    .tasksOf "record" "own",
    .task "idle" ⟨idleTask.members, none⟩]

/-- The three records are equal until the cell of the first one changes. Its hash is that of its copy,
and it stays. -/
theorem tripled_until_changed :
    let space := empty.run tripling
    let written := space.advance (.put "own" (.text "other") "idle")
    let removed := space.advance (.remove "own" (.text "vertex"))
    ∃ record twin copy, space.names.get? "record" = some record ∧
      space.names.get? "twin" = some twin ∧ space.names.get? "copy" = some copy ∧
      space.Equal record twin ∧ space.Equal copy twin ∧
      ¬ written.Equal record copy ∧ ¬ removed.Equal record copy ∧
      (∃ hash, record.hash .ofResidues = .ok hash ∧ copy.hash .ofResidues = .ok hash ∧
        written.hashOf .ofResidues "record" = .ok hash ∧
        removed.hashOf .ofResidues "record" = .ok hash) ∧
      space.Repeats (.recode "record" "again") .done "again" record failedSavepoint := by
  intro space written removed
  obtain ⟨compares, changes, repeats⟩ := equality_is_equality_of_contents tripling
  have shown (name : String) (place : Nat)
      (found : space.names.get? name = some (.record failedSavepoint.sheet place))
      (cell : space.store.cell place = cellOf failedSavepoint.tasks) :
      space.Shows (.record failedSavepoint.sheet place) failedSavepoint :=
    .record failedSavepoint place (.named name found) cell failedSavepoint_wellTyped
  have record := shown "record" 0 rfl rfl
  have twin := shown "twin" 1 rfl rfl
  have copy := shown "copy" 2 rfl rfl
  have twins := (compares.agreeing _ _ _ _ record twin).mpr (.refl failedSavepoint)
  have equal := (compares.agreeing _ _ _ _ record copy).mpr (.refl failedSavepoint)
  have back := compares.symmetric _ _ _ _ record copy equal
  have others := compares.transitive _ _ _ _ _ _ copy record twin back twins
  have own : space.OwnCell "own" (.record failedSavepoint.sheet 0) :=
    ⟨0, List.mem_singleton_self 0, rfl⟩
  have idle : idleTask.WellTyped := ⟨⟨_, rfl⟩, (Counters.areIntegers_iff _).mpr ⟨_, rfl⟩⟩
  have apart : Item.record failedSavepoint.sheet 0 ≠ .record failedSavepoint.sheet 2 := by
    intro same
    cases same
  obtain ⟨-, put⟩ := changes.put _ _ "own" "idle" "other" idleTask record own rfl idle
  obtain ⟨-, remove⟩ := changes.removed _ _ "own" "vertex" _ record own rfl
  refine ⟨_, _, _, rfl, rfl, rfl, twins, others, ?_, ?_, ?_, ?_⟩
  · intro still
    cases ((put _ _ copy apart).2 equal).mp still
  · exact (remove _ _ copy apart).2 equal
  · have hash := compares.hashable .ofResidues _ _ record
    have shared := compares.hashed .ofResidues _ _ (.named "record" rfl) (.named "copy" rfl) equal
    have known : space.item "record" = .ok (.record failedSavepoint.sheet 0) := rfl
    have named : space.hashOf .ofResidues "record" =
        .ok (Hasher.ofResidues.hash (failedSavepoint.sheet.hashed.map Prod.snd)) := by
      rw [hashOf, known]
      exact hash
    refine ⟨_, hash, shared.symm.trans hash, ?_, ?_⟩
    · exact (changes.hashes .ofResidues (.put "own" (.text "other") "idle")
        (Option.some_ne_none _) "record").trans named
    · exact (changes.hashes .ofResidues (.remove "own" (.text "vertex"))
        (Option.some_ne_none _) "record").trans named
  · exact repeats.recoded "record" "again" _ _ rfl record

end Workspace

end CheckpointReport
