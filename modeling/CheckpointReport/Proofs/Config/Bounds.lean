/-
This file lists the bounds of a configuration of integers in the order of its check. It proves that
the first broken bound is reported, and that a client refuses the same configurations.
-/

import CheckpointReport.Client.Construction
import CheckpointReport.Proofs.Report.Typed
import CheckpointReport.Proofs.Retry
import CheckpointReport.Proofs.Rule

namespace CheckpointReport

open Rule

/-- The numbers of this configuration are integers, and two of its values may be any. -/
structure IntegerConfig where
  address : String
  restPort : Int
  encrypted : Value
  timeout : Int
  userAgent : Value
  maxAttempts : Int
  initialDelay : Int
  maxDelay : Int
  statuses : List Int

namespace IntegerConfig

def retry (whole : IntegerConfig) : Retry where
  maxAttempts := .int whole.maxAttempts
  initialDelay := .int whole.initialDelay
  maxDelay := .int whole.maxDelay
  statuses := whole.statuses.map .int

def config (whole : IntegerConfig) : Config where
  address := .text whole.address
  restPort := .int whole.restPort
  encrypted := whole.encrypted
  timeout := .int whole.timeout
  userAgent := whole.userAgent
  retry := whole.retry

def retryBounds (whole : IntegerConfig) : List (Rule Violation) :=
  [⟨1 ≤ whole.maxAttempts, .attempts⟩, ⟨0 ≤ whole.initialDelay, .initialDelay⟩,
    ⟨whole.initialDelay ≤ whole.maxDelay, .maxDelay⟩,
    ⟨∀ status ∈ whole.statuses, 500 ≤ status ∧ status ≤ 599, .statuses⟩]

/-- This is the order of all the bounds of a configuration. -/
def bounds (whole : IntegerConfig) : List (Rule Violation) :=
  ⟨whole.address ≠ "", .address⟩ :: ⟨0 < whole.restPort ∧ whole.restPort < 65536, .restPort⟩ ::
    ⟨whole.encrypted.IsFlag, .encrypted⟩ :: ⟨0 < whole.timeout, .timeout⟩ :: whole.retryBounds

/-- All the bounds are kept. -/
structure KeepsBounds (whole : IntegerConfig) : Prop where
  address : whole.address ≠ ""
  restPort : 0 < whole.restPort ∧ whole.restPort < 65536
  encrypted : whole.encrypted.IsFlag
  timeout : 0 < whole.timeout
  attempts : 1 ≤ whole.maxAttempts
  initialDelay : 0 ≤ whole.initialDelay
  maxDelay : whole.initialDelay ≤ whole.maxDelay
  statuses : ∀ status ∈ whole.statuses, 500 ≤ status ∧ status ≤ 599

theorem allHold_bounds_iff (whole : IntegerConfig) : AllHold whole.bounds ↔ whole.KeepsBounds := by
  simp only [bounds, retryBounds, allHold_cons_iff]
  constructor
  · rintro ⟨address, restPort, encrypted, timeout, attempts, initialDelay, maxDelay, statuses, -⟩
    exact ⟨address, restPort, encrypted, timeout, attempts, initialDelay, maxDelay, statuses⟩
  · intro keeps
    exact ⟨keeps.address, keeps.restPort, keeps.encrypted, keeps.timeout, keeps.attempts,
      keeps.initialDelay, keeps.maxDelay, keeps.statuses, List.forall_mem_nil _⟩

end IntegerConfig

theorem Value.isSome_flag?_iff (value : Value) : value.flag?.isSome = true ↔ value.IsFlag := by
  cases value <;> simp [flag?, IsFlag]

/-- A bound that can be told has one rule. -/
theorem Violation.unless_follows (violation : Violation) (told : Bool) (bound : Prop)
    (same : told = true ↔ bound) :
    Follows (violation.unless (some told)) [⟨bound, .violated violation⟩] := by
  refine .single _ ?_ ?_
  · simp only [Retry.unless_eq_ok_iff, Option.some.injEq]
    exact (exists_const Unit).trans same
  · intro breach failed
    cases told with
    | true => cases failed
    | false =>
        cases failed
        rfl

theorem isServerStatus?_int (status : Int) :
    isServerStatus? (.int status) = some (decide (500 ≤ status ∧ status ≤ 599)) := by
  have order : status < 600 ↔ status ≤ 599 := by omega
  simp [isServerStatus?, Value.number?, order]

theorem Retry.checkStatuses_cons (status : Value) (rest : List Value) :
    checkStatuses (status :: rest) =
      Violation.statuses.unless (isServerStatus? status) >>= fun _ => checkStatuses rest := by
  rw [checkStatuses]
  cases Violation.statuses.unless (isServerStatus? status) <;> rfl

/-- The statuses are checked one by one, and all of them have the same violation. -/
theorem Retry.checkStatuses_follows (statuses : List Int) :
    Follows (checkStatuses (statuses.map .int))
      [⟨∀ status ∈ statuses, 500 ≤ status ∧ status ≤ 599, .violated .statuses⟩] := by
  let ruleOf (status : Int) : Rule Breach := ⟨500 ≤ status ∧ status ≤ 599, .violated .statuses⟩
  have chain : Follows (checkStatuses (statuses.map .int)) (statuses.map ruleOf) := by
    induction statuses with
    | nil => exact .ok ()
    | cons status rest ih =>
        rw [List.map_cons, checkStatuses_cons, isServerStatus?_int]
        exact (Violation.unless_follows _ _ _ decide_eq_true_iff).cons fun _ _ => ih
  exact chain.merge _ List.forall_mem_map (List.forall_mem_map.mpr fun _ _ => rfl)

namespace IntegerConfig

variable (whole : IntegerConfig)

theorem retry_follows : Follows whole.retry.check (whole.retryBounds.map (rename .violated)) := by
  refine (Violation.unless_follows .attempts _ _ ?_).cons fun _ _ => ?_
  · simp
  refine (Violation.unless_follows .initialDelay _ _ ?_).cons fun _ _ => ?_
  · simp
  refine (Violation.unless_follows .maxDelay _ _ ?_).cons fun _ _ => ?_
  · simp
  exact Retry.checkStatuses_follows whole.statuses

/-- No value that may be any is compared with a number, so each bound can be told. -/
theorem check_follows : Follows whole.config.check (whole.bounds.map (rename .violated)) := by
  refine (Violation.unless_follows .address _ _ ?_).cons fun _ _ => ?_
  · exact bne_iff_ne
  refine (Violation.unless_follows .restPort _ _ ?_).cons fun _ _ => ?_
  · simp
  refine (Violation.unless_follows .encrypted _ _ ?_).cons fun _ _ => ?_
  · exact whole.encrypted.isSome_flag?_iff
  refine (Violation.unless_follows .timeout _ _ ?_).cons fun _ _ => ?_
  · simp
  exact whole.retry_follows

theorem validate_follows : Follows whole.config.validate
    (whole.bounds.map (rename fun violation => .plain .badValue violation.message)) := by
  have renamed := whole.check_follows.mapError Breach.complaint
  rw [List.map_map] at renamed
  exact renamed

theorem approve_follows : Follows whole.config.approve
    (whole.bounds.map (rename fun violation => .plain (.failure .invalid) violation.message)) := by
  have renamed := whole.validate_follows.mapError Complaint.refused
  rw [List.map_map] at renamed
  exact renamed

section Check

variable {whole : IntegerConfig} {ε : Type} {check : Except ε Unit} {report : Violation → ε}

/-- A check with renamed bounds passes when all of them are kept, and it reports the first broken
one by its new name. -/
theorem passes_iff (follows : Follows check (whole.bounds.map (rename report))) :
    check = .ok () ↔ whole.KeepsBounds := by
  rw [follows.eq_ok_iff, allHold_rename_iff, whole.allHold_bounds_iff]

theorem fails_iff (follows : Follows check (whole.bounds.map (rename report))) (failure : ε) :
    check = .error failure ↔
      ∃ violation, FirstBroken whole.bounds violation ∧ failure = report violation :=
  (follows.eq_error_iff failure).trans (firstBroken_rename_iff report whole.bounds failure)

end Check

end IntegerConfig

end CheckpointReport
