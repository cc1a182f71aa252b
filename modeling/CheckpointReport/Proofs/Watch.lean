/-
This file tells which records a watch holds. A record stays as it was taken, whatever becomes of
the snapshot, until a later summary takes its name.
-/

import CheckpointReport.Proofs.Success
import CheckpointReport.Watch

namespace CheckpointReport

/-- These steps write to the snapshot when they succeed. -/
def WatchStep.changes : WatchStep → Bool
  | .set _ _ => true
  | .setType _ => true
  | .putTask _ _ => true
  | .setTask _ _ _ => true
  | .removeTask _ => true
  | _ => false

namespace Watch

/-- The steps are taken in turn, and those that fail are passed over. -/
def run (watch : Watch) (steps : List WatchStep) : Watch := steps.foldl advance watch

/-- The record is the summary of the snapshot as it stands at this step. -/
def Takes (watch : Watch) (step : WatchStep) (name : String) (report : Report) : Prop :=
  ∃ detail, step = .summarize name detail ∧ (watch.source.summarize detail).result = .ok report

/-- A step takes a record under a name, or it changes the snapshot alone, or it leaves everything as
it was. -/
inductive Move (watch : Watch) (step : WatchStep) : Watch → Prop where
  | stays (idle : ∀ name report, ¬ watch.Takes step name report) : watch.Move step watch
  | changes (before after : Snapshot) (known : step.changes = true)
      (held : watch.source = .snapshot before) : watch.Move step (watch.withSnapshot after)
  | takes (name : String) (report : Report) (taken : watch.Takes step name report) :
      watch.Move step { watch with records := watch.records.put name report }

section Steps

variable (watch : Watch) (step : WatchStep)

theorem not_takes_of_changes (changes : step.changes = true) (name : String) (report : Report) :
    ¬ watch.Takes step name report := by
  rintro ⟨detail, rfl, -⟩
  cases changes

theorem move_of_look (looks : ∀ target detail, step ≠ .summarize target detail) :
    watch.Move step watch := by
  refine .stays ?_
  rintro name report ⟨detail, same, -⟩
  exact looks name detail same

/-- A change that succeeds found a snapshot and left the records alone. -/
theorem move_of_change (changes : step.changes = true)
    (f : Snapshot → Except WatchError Snapshot) (next : Watch) (reply : WatchReply)
    (done : watch.change f = .ok (next, reply)) : watch.Move step next := by
  obtain ⟨before, held, done⟩ := Success.bind_eq_ok_iff.mp done
  obtain ⟨after, -, done⟩ := Success.bind_eq_ok_iff.mp done
  cases done
  refine .changes before after changes ?_
  unfold snapshot at held
  split at held
  · rename_i taken found
    rw [found, Except.ok.inj held]
  · cases held

/-- A step that succeeds makes one of these moves. -/
theorem move_of_step (next : Watch) (reply : WatchReply)
    (done : (watch.step step).1 = .ok (next, reply)) : watch.Move step next := by
  cases step with
  | set field value =>
      obtain ⟨name, -, done⟩ := Success.bind_eq_ok_iff.mp done
      exact watch.move_of_change _ rfl _ next reply done
  | setType type => exact watch.move_of_change _ rfl _ next reply done
  | putTask key progress => exact watch.move_of_change _ rfl _ next reply done
  | setTask key field value => exact watch.move_of_change _ rfl _ next reply done
  | removeTask key => exact watch.move_of_change _ rfl _ next reply done
  | view =>
      obtain ⟨snapshot, -, done⟩ := Success.bind_eq_ok_iff.mp done
      obtain ⟨view, -, done⟩ := Success.bind_eq_ok_iff.mp done
      cases done
      exact watch.move_of_look _ (by simp)
  | summarize target detail =>
      change watch.keep target (watch.source.summarize detail).result = .ok (next, reply) at done
      cases summed : (watch.source.summarize detail).result with
      | error refusal =>
          rw [summed] at done
          cases done
      | ok report =>
          rw [summed] at done
          cases done
          exact .takes target report ⟨detail, rfl, summed⟩
  | «show» of =>
      change (watch.record of).map _ = .ok (next, reply) at done
      cases found : watch.record of with
      | error error =>
          rw [found] at done
          cases done
      | ok report =>
          rw [found] at done
          cases done
          exact watch.move_of_look _ (by simp)
  | compare one two =>
      obtain ⟨first, -, done⟩ := Success.bind_eq_ok_iff.mp done
      obtain ⟨second, -, done⟩ := Success.bind_eq_ok_iff.mp done
      cases done
      exact watch.move_of_look _ (by simp)

theorem advance_of_ok (next : Watch) (reply : WatchReply)
    (done : (watch.step step).1 = .ok (next, reply)) : watch.advance step = next := by
  rw [advance, done]

theorem advance_of_error (error : WatchError) (failed : (watch.step step).1 = .error error) :
    watch.advance step = watch := by
  rw [advance, failed]

/-- A step that fails takes no record, so it is a move as well. -/
theorem move_of_advance : watch.Move step (watch.advance step) := by
  cases result : (watch.step step).1 with
  | ok done =>
      obtain ⟨next, reply⟩ := done
      rw [watch.advance_of_ok step next reply result]
      exact watch.move_of_step step next reply result
  | error error =>
      rw [watch.advance_of_error step error result]
      refine .stays ?_
      rintro name report ⟨detail, rfl, summed⟩
      change watch.keep name (watch.source.summarize detail).result = .error error at result
      rw [summed] at result
      cases result

variable {watch step}

/-- A step takes one record at most. -/
theorem Takes.unique {one two : String} {first second : Report} (left : watch.Takes step one first)
    (right : watch.Takes step two second) : one = two ∧ first = second := by
  obtain ⟨detail, rfl, summed⟩ := left
  obtain ⟨_, same, again⟩ := right
  cases same
  exact ⟨rfl, Except.ok.inj (summed.symm.trans again)⟩

/-- A name stands for the record that the step takes, or else for what it stood for before. -/
theorem Move.get?_iff {next : Watch} (move : watch.Move step next) (name : String)
    (report : Report) :
    next.records.get? name = some report ↔
      watch.Takes step name report ∨
        watch.records.get? name = some report ∧ ∀ other, ¬ watch.Takes step name other := by
  cases move with
  | stays idle => simp [idle]
  | changes before after known held =>
      have idle := watch.not_takes_of_changes step known
      simp [idle, withSnapshot]
  | takes target made taken =>
      simp only [Table.get?_put, Keyed.identity_string, Key.text.injEq]
      by_cases same : target = name
      · subst same
        rw [if_pos rfl, Option.some.injEq]
        constructor
        · rintro rfl
          exact Or.inl taken
        · rintro (again | ⟨-, idle⟩)
          · exact (taken.unique again).2
          · exact absurd taken (idle made)
      · have idle (other : Report) : ¬ watch.Takes step name other :=
          fun again => same (taken.unique again).1
        rw [if_neg same]
        simp [idle]

/-- Only a change is seen in what the records are taken from. -/
theorem Move.source_eq {next : Watch} (move : watch.Move step next)
    (still : step.changes = false) : next.source = watch.source := by
  cases move with
  | stays idle => rfl
  | changes before after known held =>
      rw [known] at still
      cases still
  | takes name report taken => rfl

end Steps

/-- None of the steps takes a record under the name. -/
def Spares (watch : Watch) (name : String) (steps : List WatchStep) : Prop :=
  ∀ before step after, steps = before ++ step :: after →
    ∀ report, ¬ (watch.run before).Takes step name report

/-- One of the steps takes the record under the name, and no later one takes another there. -/
def TakesLast (watch : Watch) (name : String) (report : Report) (steps : List WatchStep) : Prop :=
  ∃ before step after, steps = before ++ step :: after ∧
    (watch.run before).Takes step name report ∧
      ((watch.run before).advance step).Spares name after

variable (watch : Watch) (name : String) (report : Report) (step : WatchStep)
  (steps : List WatchStep)

/-- A name is spared by the first step and by the rest. -/
theorem spares_cons_iff : watch.Spares name (step :: steps) ↔
    (∀ report, ¬ watch.Takes step name report) ∧ (watch.advance step).Spares name steps := by
  constructor
  · intro spared
    refine ⟨spared [] step steps rfl, ?_⟩
    intro before later after same
    exact spared (step :: before) later after (congrArg (step :: ·) same)
  · rintro ⟨first, others⟩ before later after same
    cases before with
    | nil =>
        cases same
        exact first
    | cons _ before =>
        cases same
        exact others before later after rfl

/-- The last record is taken by the first step or by the rest. -/
theorem takesLast_cons_iff : watch.TakesLast name report (step :: steps) ↔
    watch.Takes step name report ∧ (watch.advance step).Spares name steps ∨
      (watch.advance step).TakesLast name report steps := by
  constructor
  · rintro ⟨before, taking, after, same, taken, spared⟩
    cases before with
    | nil =>
        cases same
        exact Or.inl ⟨taken, spared⟩
    | cons _ before =>
        cases same
        exact Or.inr ⟨before, taking, after, rfl, taken, spared⟩
  · rintro (⟨taken, spared⟩ | ⟨before, taking, after, same, taken, spared⟩)
    · exact ⟨[], step, steps, rfl, taken, spared⟩
    · exact ⟨step :: before, taking, after, congrArg (step :: ·) same, taken, spared⟩

/-- A name stands for the record that was last taken under it, or for the one that was there before
all steps. The induction is on the steps from the first one on. -/
theorem get?_run_iff : (watch.run steps).records.get? name = some report ↔
    watch.records.get? name = some report ∧ watch.Spares name steps ∨
      watch.TakesLast name report steps := by
  induction steps generalizing watch with
  | nil =>
      have spared : watch.Spares name [] := by
        intro before step after same
        cases before <;> cases same
      have untaken : ¬ watch.TakesLast name report [] := by
        rintro ⟨before, step, after, same, -⟩
        cases before <;> cases same
      simp only [spared, untaken, and_true, or_false]
      rfl
  | cons step steps ih =>
      rw [show watch.run (step :: steps) = (watch.advance step).run steps from rfl, ih,
        (watch.move_of_advance step).get?_iff, spares_cons_iff, takesLast_cons_iff, or_and_right, and_assoc, or_assoc,
        or_left_comm]

/-- A record is shown exactly when it was the last one to be taken under its name, and it is shown
as it was taken. The snapshot may have changed since. -/
theorem shown_iff_taken :
    ((watch.run steps).step (.show name)).1 = .ok (watch.run steps, .record report) ↔
      watch.records.get? name = some report ∧ watch.Spares name steps ∨
        watch.TakesLast name report steps := by
  rw [← get?_run_iff]
  change ((watch.run steps).record name).map _ = _ ↔ _
  rw [record]
  cases (watch.run steps).records.get? name with
  | none => simp [known, Except.map]
  | some found => simp [known, Except.map]

/-- A summary gives the same result again as long as nothing has changed in between. -/
theorem summarize_run (still : ∀ step ∈ steps, step.changes = false) (detail : Bool) :
    (watch.run steps).source.summarize detail = watch.source.summarize detail := by
  induction steps generalizing watch with
  | nil => rfl
  | cons step steps ih =>
      obtain ⟨first, others⟩ := List.forall_mem_cons.mp still
      change ((watch.advance step).run steps).source.summarize detail = _
      rw [ih (watch.advance step) others, (watch.move_of_advance step).source_eq first]

end Watch

end CheckpointReport
