/-
This file tells what one step does to the names and the cells of a workspace. A name comes to stand
for the cell of a record only when the cell is asked of the record or copied together with it.
-/

import CheckpointReport.Proofs.Workspace.Isolation
import Mathlib.Data.List.Induction

namespace CheckpointReport

namespace Workspace

/-- A failed step is followed by the next one. -/
def run (space : Workspace) (steps : List WorkStep) : Workspace := steps.foldl advance space

theorem run_append (space : Workspace) (first second : List WorkStep) :
    space.run (first ++ second) = (space.run first).run second :=
  List.foldl_append

theorem run_concat (space : Workspace) (steps : List WorkStep) (step : WorkStep) :
    space.run (steps ++ [step]) = (space.run steps).advance step :=
  space.run_append steps [step]

/-- A step that fails is a move that stays. -/
theorem move_of_advance (space : Workspace) (step : WorkStep) :
    space.Move step (space.advance step) := by
  rw [advance]
  cases done : space.step step with
  | error cause => exact .stays
  | ok result => exact space.move_of_step result.1 step result.2 done

theorem isolated_empty : Workspace.empty.Isolated := by
  have nothing (item : Item) : ¬ Workspace.empty.Holds item := by
    intro held
    cases held with
    | named name found => cases found
    | kept place member => cases member
  exact ⟨fun item held => absurd held (nothing item), fun first _ place held =>
    absurd held (nothing _)⟩

namespace Isolated

variable {space : Workspace} (isolated : space.Isolated)
include isolated

theorem leads_of_advance (step : WorkStep) : space.Leads (space.advance step) :=
  isolated.leads_of_move step (space.move_of_advance step)

theorem advance (step : WorkStep) : (space.advance step).Isolated :=
  isolated.isolated_of_leads (isolated.leads_of_advance step)

theorem run (steps : List WorkStep) : (space.run steps).Isolated := by
  induction steps generalizing space with
  | nil => exact isolated
  | cons step rest ih => exact ih (isolated.advance step)

/-- A record with a cell from before a run was held before the run. -/
theorem held_before_run (steps : List WorkStep) :
    space.store.size ≤ (space.run steps).store.size ∧
      ∀ sheet place, (space.run steps).Holds (.record sheet place) → place < space.store.size →
        space.Holds (.record sheet place) := by
  induction steps generalizing space with
  | nil => exact ⟨Nat.le_refl _, fun sheet place held _ => held⟩
  | cons step rest ih =>
      have leads := isolated.leads_of_advance step
      obtain ⟨grows, before⟩ := ih (isolated.advance step)
      refine ⟨Nat.le_trans leads.grows grows, ?_⟩
      intro sheet place held inside
      have next := before sheet place held (Nat.lt_of_lt_of_le inside leads.grows)
      exact (leads.fresh sheet place next).resolve_right (Nat.not_le.mpr inside)

end Isolated

theorem name_of_bind (space : Workspace) (target : String) (item : Item) (name : String)
    (other : Item) (found : (space.bind target item).names.get? name = some other) :
    (name = target ∧ other = item) ∨ space.names.get? name = some other := by
  rw [get?_bind] at found
  split at found
  · rename_i same
    exact Or.inl ⟨same.symm, (Option.some.inj found).symm⟩
  · exact Or.inr found

section Moves

variable {space next : Workspace} {step : WorkStep} (move : space.Move step next)
include move

/-- A step keeps all names, or it binds its target. A record that it binds is new. -/
theorem bound_of_move (isolated : space.Isolated) : next.names = space.names ∨
    ∃ target item, step.target? = some target ∧ next.names = (space.bind target item).names ∧
      ∀ sheet place, item = .record sheet place → space.store.size ≤ place := by
  cases move with
  | stays => exact Or.inl rfl
  | makesTask target task known =>
      exact Or.inr ⟨target, _, known, rfl, fun _ _ same => by cases same⟩
  | makesMap target items tasks known held =>
      exact Or.inr ⟨target, _, known ▸ rfl, rfl, fun _ _ same => by cases same⟩
  | makesRecord target made tasks known held =>
      refine Or.inr ⟨target, _, known, rfl, ?_⟩
      intro sheet place same
      cases same
      exact Nat.le_refl _
  | puts name source given spot key item known found held => exact Or.inl rfl
  | removes name given spot key known found => exact Or.inl rfl
  | copies source target way item known found =>
      refine Or.inr ⟨target, _, known ▸ rfl, rfl, ?_⟩
      intro sheet place same
      obtain ⟨among, shift, revise, extended, closed, copies⟩ :=
        isolated.copied_of_holds way item (.named source found)
      rw [same] at copies
      cases copies with
      | record old cell => exact (extended.fresh cell (closed cell List.mem_cons_self)).1
  | takes source target taken spot known found =>
      exact Or.inr ⟨target, _, known ▸ rfl, rfl, fun _ _ same => by cases same⟩

/-- A step leaves all names but its target alone. -/
theorem name_of_move (isolated : space.Isolated) (name : String) (item : Item)
    (found : space.names.get? name = some item) :
    next.names.get? name = some item ∨ step.target? = some name := by
  rcases bound_of_move move isolated with same | ⟨target, other, known, same, -⟩
  · exact Or.inl (same ▸ found)
  · rw [same, get?_bind]
    by_cases here : target = name
    · exact Or.inr (here ▸ known)
    · exact Or.inl (by rw [if_neg here, found])

/-- A name that comes to stand for a record is the target of the step, and the record is new. -/
theorem named_record_of_move (isolated : space.Isolated) (owner : String) (sheet : Sheet)
    (place : Nat) (after : next.names.get? owner = some (.record sheet place)) :
    space.names.get? owner = some (.record sheet place) ∨
      space.store.size ≤ place ∧ step.target? = some owner := by
  rcases bound_of_move move isolated with same | ⟨target, item, known, same, fresh⟩
  · exact Or.inl (same ▸ after)
  · rw [same] at after
    rcases name_of_bind space target item owner _ after with ⟨rfl, made⟩ | before
    · exact Or.inr ⟨fresh sheet place made.symm, known⟩
    · exact Or.inl before

/-- A cell is changed through a name for it only. -/
theorem cell_of_move (isolated : space.Isolated) (place : Nat) (inside : place < space.store.size) :
    next.store.cell place = space.store.cell place ∨
      ∃ name, step.changed? = some name ∧ space.names.get? name = some (.map place) := by
  cases move with
  | stays => exact Or.inl rfl
  | makesTask target sheet known => exact Or.inl rfl
  | makesMap target items tasks known held =>
      exact Or.inl (space.store.cell_add_of_ne tasks place (Nat.ne_of_lt inside))
  | makesRecord target sheet tasks known held =>
      exact Or.inl (space.store.cell_add_of_ne tasks place (Nat.ne_of_lt inside))
  | puts name source given spot key item known found held =>
      by_cases same : place = spot
      · exact Or.inr ⟨name, known ▸ rfl, same ▸ found⟩
      · exact Or.inl (space.store.cell_update_of_ne spot place _ same)
  | removes name given spot key known found =>
      by_cases same : place = spot
      · exact Or.inr ⟨name, known ▸ rfl, same ▸ found⟩
      · exact Or.inl (space.store.cell_update_of_ne spot place _ same)
  | copies source target way item known found =>
      obtain ⟨_, _, _, copied⟩ := isolated.copied_of_holds way item (.named source found)
      exact Or.inl (copied.extended.old place inside)
  | takes source target sheet spot known found => exact Or.inl rfl

end Moves

/-- These are the ways in which a name stands for a cell after a step. The cell was asked of a
record, or it is new. A new cell belongs to a record only when both were copied together. -/
inductive Names (space : Workspace) (step : WorkStep) (next : Workspace) (name : String)
    (place : Nat) : Prop where
  | kept (found : space.names.get? name = some (.map place))
  | taken (source : String) (sheet : Sheet) (known : step = .tasksOf source name)
      (found : space.names.get? source = some (.record sheet place))
  | made (beyond : space.store.size ≤ place)
      (unnamed : ∀ owner sheet spot, next.names.get? owner = some (.record sheet spot) →
        space.names.get? owner = some (.record sheet spot))
      (together : ∀ sheet, next.Holds (.record sheet place) → ∃ source way old was,
        step = .clone source name way ∧ space.names.get? source = some (.map old) ∧
          space.Holds (.record was old))

namespace Isolated

variable {space : Workspace} (isolated : space.Isolated)
include isolated

/-- No record owns a cell that a program has just made from entries. -/
theorem not_holds_bindMap (target : String) (tasks : Cell)
    (held : ∀ item ∈ tasks.values, space.Holds item) (sheet : Sheet) :
    ¬ (space.bindMap target tasks).Holds (.record sheet space.store.size) := by
  intro record
  rcases holds_of_bind _ target _ _ record with before | same
  · rcases space.holds_of_add tasks _ before with old | among
    · exact isolated.not_holds_of_le sheet _ (Nat.le_refl _) old
    · exact isolated.not_holds_of_le sheet _ (Nat.le_refl _) (held _ among)
  · cases same

/-- A name for a cell was there before, or the step made it in one of the listed ways. -/
theorem names_of_move {next : Workspace} {step : WorkStep} (move : space.Move step next)
    (name : String) (place : Nat) (after : next.names.get? name = some (.map place)) :
    space.Names step next name place := by
  cases move with
  | stays => exact .kept after
  | makesTask target task known =>
      rcases name_of_bind _ target _ name _ after with ⟨-, same⟩ | before
      · cases same
      · exact .kept before
  | makesMap target items tasks known held =>
      rcases name_of_bind _ target _ name _ after with ⟨-, same⟩ | before
      · cases same
        refine .made (Nat.le_refl _) ?_ ?_
        · intro owner sheet spot bound
          rcases name_of_bind _ target _ owner _ bound with ⟨-, other⟩ | before
          · cases other
          · exact before
        · intro sheet record
          exact absurd record (isolated.not_holds_bindMap target tasks held sheet)
      · exact .kept before
  | makesRecord target made tasks known held =>
      rcases name_of_bind _ target _ name _ after with ⟨-, same⟩ | before
      · cases same
      · exact .kept before
  | puts target source given spot key item known found held => exact .kept after
  | removes target given spot key known found => exact .kept after
  | copies source target way item known found =>
      have held : space.Holds item := .named source found
      obtain ⟨among, shift, revise, copied⟩ := isolated.copied_of_holds way item held
      have origin := space.held_of_copy target item _ _ among shift revise held copied
      obtain ⟨extended, closed, copies⟩ := copied
      rcases name_of_bind _ target _ name _ after with ⟨rfl, same⟩ | before
      · rw [← same] at copies
        cases copies with
        | map old =>
            have inside : old ∈ among := closed old List.mem_cons_self
            have beyond := (extended.fresh old inside).1
            refine .made beyond ?_ ?_
            · intro owner sheet spot bound
              rcases name_of_bind _ name _ owner _ bound with ⟨-, other⟩ | before
              · cases other.trans same.symm
              · exact before
            · intro sheet record
              -- The record is copied from the owner of the cell that the new cell is copied from.
              obtain ⟨made, was, within, copied⟩ :=
                (origin _ record).resolve_left (isolated.not_holds_of_le sheet _ beyond)
              generalize moved : shift old = spot at copied
              cases copied with
              | record original cell =>
                  have among := within cell List.mem_cons_self
                  obtain rfl := extended.apart old inside cell among moved
                  exact ⟨source, way, old, original, known, found, was⟩
      · exact .kept before
  | takes source target taken spot known found =>
      rcases name_of_bind _ target _ name _ after with ⟨rfl, same⟩ | before
      · cases same
        exact .taken source taken known found
      · exact .kept before

end Isolated

end Workspace

end CheckpointReport
