/-
This file proves that integer delays double until they reach the greatest one, and it bounds what a
request waits in all.
-/

import CheckpointReport.Proofs.Transport.Origin
import Mathlib.Algebra.Order.BigOperators.Group.List

namespace CheckpointReport

/-- These integers are the delays after the attempts. They double, and the greatest one caps them. -/
structure Retry.Doubles (retry : Retry) (initial greatest : Int) (delays : Nat → Int) : Prop where
  computed : ∀ attempt : Nat, 1 ≤ attempt → retry.delay attempt = .ok (.int (delays attempt))
  first : delays 1 = initial
  next : ∀ attempt, 1 ≤ attempt → delays (attempt + 1) = min greatest (2 * delays attempt)

namespace Retry

/-- A power of two that is capped once is the same as a doubling that is capped each time. -/
theorem exists_doubles (retry : Retry) (initial greatest : Int)
    (initially : retry.initialDelay = .int initial) (capping : retry.maxDelay = .int greatest)
    (positive : 0 ≤ initial) (ordered : initial ≤ greatest) :
    ∃ delays, retry.Doubles initial greatest delays := by
  refine ⟨fun attempt => min greatest (initial * 2 ^ (attempt - 1)), ?_, ?_, ?_⟩
  · intro attempt first
    exact retry.delay_int initial greatest attempt initially capping first
  · simpa using ordered
  · intro attempt first
    obtain ⟨times, rfl⟩ := Nat.exists_eq_add_of_le' first
    have doubled : initial * 2 ^ (times + 1) = 2 * (initial * 2 ^ times) := by
      rw [pow_succ, mul_comm 2, mul_assoc]
    simp only [Nat.add_sub_cancel, doubled]
    omega

variable {retry : Retry} {initial greatest : Int} {delays : Nat → Int}

namespace Doubles

section Bounds

variable (doubles : retry.Doubles initial greatest delays)
variable (positive : 0 ≤ initial) (ordered : initial ≤ greatest)
include doubles positive ordered

/-- Doubling a delay that is not negative does not lead below it. -/
theorem within (attempt : Nat) (first : 1 ≤ attempt) :
    initial ≤ delays attempt ∧ delays attempt ≤ greatest := by
  induction attempt, first using Nat.le_induction with
  | base =>
      rw [doubles.first]
      exact ⟨le_refl initial, ordered⟩
  | succ attempt first ih =>
      rw [doubles.next attempt first]
      omega

theorem mono (earlier later : Nat) (first : 1 ≤ earlier) (order : earlier ≤ later) :
    delays earlier ≤ delays later := by
  induction later, order using Nat.le_induction with
  | base => exact le_refl (delays earlier)
  | succ later order ih =>
      have bounds := doubles.within positive ordered later (le_trans first order)
      rw [doubles.next later (le_trans first order)]
      omega

end Bounds

/-- A positive delay grows by one at least while it is below the greatest one. -/
theorem least (doubles : retry.Doubles initial greatest delays) (positive : 0 < initial)
    (ordered : initial ≤ greatest) (attempt : Nat) (first : 1 ≤ attempt) :
    min greatest attempt ≤ delays attempt := by
  induction attempt, first using Nat.le_induction with
  | base =>
      rw [doubles.first]
      omega
  | succ attempt first ih =>
      rw [doubles.next attempt first]
      omega

theorem reaches (doubles : retry.Doubles initial greatest delays) (positive : 0 < initial)
    (ordered : initial ≤ greatest) (attempt : Nat) (late : greatest ≤ attempt) :
    delays attempt = greatest := by
  have first : 1 ≤ attempt := by omega
  have least := doubles.least positive ordered attempt first
  have within := doubles.within (Int.le_of_lt positive) ordered attempt first
  omega

/-- The first delays are in order. -/
theorem sorted (doubles : retry.Doubles initial greatest delays) (positive : 0 ≤ initial)
    (ordered : initial ≤ greatest) (count : Nat) :
    ((List.range' 1 count).map delays).Pairwise (· ≤ ·) := by
  rw [List.pairwise_map]
  apply List.Pairwise.imp_of_mem _ (List.pairwise_le_range' 1)
  intro earlier later member _ order
  exact doubles.mono positive ordered earlier later (List.mem_range'_1.mp member).1 order

/-- The greatest delay bounds each of the first delays and so their sum. -/
theorem sum_le (doubles : retry.Doubles initial greatest delays) (positive : 0 ≤ initial)
    (ordered : initial ≤ greatest) (count : Nat) :
    ((List.range' 1 count).map delays).sum ≤ count * greatest := by
  have bounded := List.sum_le_card_nsmul ((List.range' 1 count).map delays) greatest
    (List.forall_mem_map.mpr fun attempt member =>
      (doubles.within positive ordered attempt (List.mem_range'_1.mp member).1).2)
  rwa [List.length_map, List.length_range', nsmul_eq_mul] at bounded

/-- The pauses of a request are the first delays. -/
theorem sleeps (doubles : retry.Doubles initial greatest delays) (path : String)
    (script : Script) (get : Get) (count : Nat)
    (ends : EndsAfter retry path 1 script get count) :
    get.sleeps = ((List.range' 1 count).map delays).map .int := by
  have computed : List.Forall₂ (fun (attempt : Nat) delay => retry.delay attempt = .ok delay)
      (List.range' 1 count) (((List.range' 1 count).map delays).map .int) := by
    rw [List.map_map, List.forall₂_map_right_iff, List.forall₂_same]
    intro attempt member
    exact doubles.computed attempt (List.mem_range'_1.mp member).1
  have slept := Success.mapM_eq_ok_iff.mpr ends.sleeps
  exact Except.ok.inj (slept.symm.trans (Success.mapM_eq_ok_iff.mpr computed))

end Doubles

end Retry

/-- A request pauses after so many of its attempts, and it makes one more. -/
theorem Transport.sleeps_of_doubles (transport : Transport) (endpoint : String)
    (limit initial greatest : Int) (delays : Nat → Int)
    (limited : transport.config.retry.maxAttempts.number? = some (.int limit))
    (valid : transport.config.retry.check = .ok ())
    (doubles : transport.config.retry.Doubles initial greatest delays) :
    ∃ count : Nat, count ≤ limit - 1 ∧
      (transport.get endpoint).sleeps = ((List.range' 1 count).map delays).map .int := by
  cases state : transport.closed with
  | true =>
      have allowed := (Retry.bounds_of_check _ limit limited valid).1
      refine ⟨0, by omega, ?_⟩
      rw [Transport.get, state]
      rfl
  | false =>
      obtain ⟨count, asked, ends⟩ := transport.endsAfter_of_isOpen endpoint state
      have few := (requests_of_check _ (pathOf endpoint) limit limited transport.script valid).1
      rw [← transport.get_of_isOpen endpoint state, asked] at few
      exact ⟨count, by omega, doubles.sleeps _ _ _ count ends⟩

/-- The integer delays of a checked retry double until the greatest one caps them for good. So no
pause of a request is shorter than an earlier one, and together they are no longer than the greatest
delay taken once for each attempt but the last. -/
theorem delays_double_until_capped (retry : Retry) (limit initial greatest : Int)
    (limited : retry.maxAttempts.number? = some (.int limit))
    (initially : retry.initialDelay = .int initial) (capping : retry.maxDelay = .int greatest)
    (valid : retry.check = .ok ()) :
    ∃ delays : Nat → Int, retry.Doubles initial greatest delays ∧
      (∀ attempt, 1 ≤ attempt → initial ≤ delays attempt ∧ delays attempt ≤ greatest) ∧
      (∀ earlier later, 1 ≤ earlier → earlier ≤ later → delays earlier ≤ delays later) ∧
      (0 < initial → ∃ reached : Nat, ∀ attempt, reached ≤ attempt → delays attempt = greatest) ∧
      ∀ (transport : Transport) (endpoint : String), transport.config.retry = retry →
        ∃ pauses : List Int, (transport.get endpoint).sleeps = pauses.map .int ∧
          pauses.Pairwise (· ≤ ·) ∧ pauses.sum ≤ (limit - 1) * greatest := by
  obtain ⟨positive, ordered⟩ := retry.delays_of_check initial greatest initially capping valid
  obtain ⟨delays, doubles⟩ := retry.exists_doubles initial greatest initially capping positive ordered
  refine ⟨delays, doubles, doubles.within positive ordered, doubles.mono positive ordered, ?_, ?_⟩
  · intro growing
    exact ⟨greatest.toNat, fun attempt late =>
      doubles.reaches growing ordered attempt (Int.toNat_le.mp late)⟩
  · rintro transport endpoint rfl
    obtain ⟨count, few, slept⟩ :=
      transport.sleeps_of_doubles endpoint limit initial greatest delays limited valid doubles
    refine ⟨_, slept, doubles.sorted positive ordered count, ?_⟩
    calc
      ((List.range' 1 count).map delays).sum ≤ count * greatest :=
        doubles.sum_le positive ordered count
      _ ≤ (limit - 1) * greatest :=
        mul_le_mul_of_nonneg_right few (le_trans positive ordered)

/-- The patient client waits for one second and then for two, out of at most two minutes. -/
theorem patient_pauses :
    patient.config.retry.check = .ok () ∧
      ∃ pauses : List Int, (patient.get "//jobs").sleeps = pauses.map .int ∧
        pauses.Pairwise (· ≤ ·) ∧ pauses.sum ≤ 120 := by
  have valid : patient.config.retry.check = .ok () := by decide
  obtain ⟨-, -, -, -, -, paused⟩ :=
    delays_double_until_capped patient.config.retry 3 1 60 rfl rfl rfl valid
  exact ⟨valid, paused patient "//jobs" rfl⟩

end CheckpointReport
