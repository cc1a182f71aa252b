/-
This file tells what the attempts, the delays and the statuses of a retry are when its numbers are
integers or when it was checked.
-/

import CheckpointReport.Proofs.Number
import CheckpointReport.Proofs.Success
import CheckpointReport.Retry

namespace CheckpointReport

/-- A status that equals a server status is one, whatever the kind of the number. -/
theorem isServerStatus?_of_same (listed : Value) (status : Int)
    (server : isServerStatus? listed = some true) (same : listed.same (.int status) = true) :
    500 ≤ status ∧ status < 600 := by
  obtain ⟨number, isNumber, equal⟩ := listed.number?_of_same_int status same
  have value : number.rational? = some (status : ℚ) := number.rational?_of_same status equal
  rw [isServerStatus?, isNumber, Option.map_some, Option.some.injEq, Bool.and_eq_true,
    Number.atMost_rational _ _ _ _ (Number.rational?_int 500) value,
    Number.less_rational _ _ _ _ value (Number.rational?_int 600)] at server
  exact ⟨Int.cast_le.mp server.1, Int.cast_lt.mp server.2⟩

namespace Retry

theorem covers_iff (retry : Retry) (status : Int) :
    retry.covers (some status) = true ↔
      ∃ listed ∈ retry.statuses, listed.same (.int status) = true := by
  simp [covers]

/-- With a number for a limit it is always known whether another attempt is allowed. -/
theorem allows_number (retry : Retry) (limit : Number) (attempt : Int) (status : Option Int)
    (limited : retry.maxAttempts.number? = some limit) :
    retry.allows attempt status =
      .ok (!limit.atMost (.int attempt) && retry.covers status) := by
  have number : retry.maxAttempts.asNumber = .ok limit := by
    rw [Value.asNumber, limited]
  change (retry.maxAttempts.asNumber >>= _) = _
  rw [number]
  rfl

theorem allows_eq (retry : Retry) (limit attempt : Int) (status : Option Int)
    (limited : retry.maxAttempts.number? = some (.int limit)) :
    retry.allows attempt status = .ok (decide (attempt < limit) && retry.covers status) := by
  have order : (!Number.atMost (.int limit) (.int attempt)) = decide (attempt < limit) := by
    rw [Number.atMost_int, ← decide_not]
    exact decide_eq_decide.mpr Int.not_le
  rw [retry.allows_number (.int limit) attempt status limited, order]

/-- A number is doubled once for each attempt after the first one and then capped. -/
theorem delay_eq (retry : Retry) (initial greatest : Number) (times : Nat)
    (initially : retry.initialDelay.number? = some initial)
    (capping : retry.maxDelay.number? = some greatest) :
    retry.delay (times + 1 : Nat) =
      match doubled? initial times with
      | some number => .ok (if number.less greatest then .ofNumber number else retry.maxDelay)
      | none => .error .range := by
  have exponent : ((times + 1 : Nat) : Int) - 1 = times := by omega
  have fits : Misfit.range.unless
      (decide (0 ≤ (times : Int)) || (smallPower? times).isSome) = .ok () := by
    simp [Misfit.unless]
  have single : retry.initialDelay.length? = none := by
    cases known : retry.initialDelay with
    | text content =>
        rw [known] at initially
        cases initially
    | list items =>
        rw [known] at initially
        cases initially
    | _ => rfl
  have start : retry.initialDelay.asNumber = .ok initial := by
    rw [Value.asNumber, initially]
  have bound : retry.maxDelay.asNumber = .ok greatest := by
    rw [Value.asNumber, capping]
  rw [delay, exponent]
  simp only [fits, single, doubled, capped, start, bound, bind, Except.bind, pure, Except.pure]
  cases doubled? initial times <;> rfl

theorem doubled?_int (whole : Int) (times : Nat) :
    doubled? (.int whole) times = some (.int (whole * 2 ^ times)) := by
  simp [doubled?]

theorem doubled?_float (part : Binary64) (times : Nat) :
    doubled? (.float part) times =
      if 1024 ≤ times then none else some (.float (part.mul (.powerOfTwo times))) := by
  rw [doubled?, if_pos (Int.natCast_nonneg times), largePower?]
  by_cases large : 1024 ≤ times
  · rw [if_pos (by omega), if_pos large]
    rfl
  · rw [if_neg (by omega), if_neg large]
    rfl

/-- Integer delays are doubled and capped exactly, so each of them has a value. -/
theorem delay_int (retry : Retry) (initial greatest : Int) (attempt : Nat)
    (initially : retry.initialDelay = .int initial) (capping : retry.maxDelay = .int greatest)
    (positive : 1 ≤ attempt) :
    retry.delay attempt = .ok (.int (min greatest (initial * 2 ^ (attempt - 1)))) := by
  obtain ⟨times, rfl⟩ := Nat.exists_eq_add_of_le' positive
  rw [retry.delay_eq (.int initial) (.int greatest) times (congrArg Value.number? initially)
    (congrArg Value.number? capping), doubled?_int, Nat.add_sub_cancel, capping]
  dsimp only
  rw [Number.less_int]
  by_cases below : initial * 2 ^ times < greatest
  · rw [Int.min_eq_right (Int.le_of_lt below), if_pos (decide_eq_true below), Value.ofNumber]
  · rw [Int.min_eq_left (Int.not_lt.mp below), if_neg (by simpa using below)]

/-- A delay that starts with a binary64 number has no value after so many attempts. -/
def Outgrows (retry : Retry) (attempt : Nat) : Prop :=
  (∃ part, retry.initialDelay = .float part) ∧ 1025 ≤ attempt

/-- A delay between numbers lacks a value only where it outgrows the range of binary64. -/
theorem delay_number (retry : Retry) (initial greatest : Number) (attempt : Nat)
    (initially : retry.initialDelay.number? = some initial)
    (capping : retry.maxDelay.number? = some greatest) (positive : 1 ≤ attempt) :
    (retry.Outgrows attempt ∧ retry.delay attempt = .error .range) ∨
      (¬ retry.Outgrows attempt ∧ ∃ delay, retry.delay attempt = .ok delay) := by
  obtain ⟨times, rfl⟩ := Nat.exists_eq_add_of_le' positive
  rw [retry.delay_eq initial greatest times initially capping]
  cases initial with
  | int whole =>
      have exact : ¬ retry.Outgrows (times + 1) := by
        intro outgrows
        obtain ⟨⟨part, known⟩, -⟩ := outgrows
        rw [known] at initially
        cases initially
      rw [doubled?_int]
      exact Or.inr ⟨exact, _, rfl⟩
  | float part =>
      have known : retry.initialDelay = .float part := by
        cases same : retry.initialDelay with
        | float other =>
            rw [same] at initially
            cases initially
            rfl
        | _ =>
            rw [same] at initially
            cases initially
      rw [doubled?_float]
      by_cases large : 1024 ≤ times
      · rw [if_pos large]
        exact Or.inl ⟨⟨⟨part, known⟩, by omega⟩, rfl⟩
      · rw [if_neg large]
        refine Or.inr ⟨?_, _, rfl⟩
        intro outgrows
        exact large (Nat.le_of_succ_le_succ outgrows.2)

theorem unless_eq_ok_iff (violation : Violation) (holds : Option Bool) (result : Unit) :
    violation.unless holds = .ok result ↔ holds = some true := by
  rcases holds with _ | _ | _ <;> simp [Violation.unless]

theorem checkStatuses_eq_ok_iff (statuses : List Value) (result : Unit) :
    checkStatuses statuses = .ok result ↔
      ∀ listed ∈ statuses, isServerStatus? listed = some true := by
  induction statuses with
  | nil => simp [checkStatuses]
  | cons listed rest ih =>
      rw [List.forall_mem_cons, ← ih, ← unless_eq_ok_iff .statuses _ (), checkStatuses]
      cases Violation.statuses.unless (isServerStatus? listed) <;> simp

theorem numeric?_eq_some_iff (test : Number → Number → Bool) (first second : Value) (flag : Bool) :
    Value.numeric? test first second = some flag ↔
      ∃ one two, first.number? = some one ∧ second.number? = some two ∧ test one two = flag := by
  rw [Value.numeric?]
  cases first.number? <;> cases second.number? <;> simp

/-- These are the numbers of a retry, and they keep the bounds of its check. -/
structure KeepsBounds (retry : Retry) (limit initial greatest : Number) : Prop where
  attempts : retry.maxAttempts.number? = some limit
  initialDelay : retry.initialDelay.number? = some initial
  maxDelay : retry.maxDelay.number? = some greatest
  allowed : limit.less (.int 1) = false
  positive : initial.less (.int 0) = false
  ordered : greatest.less initial = false
  statuses : ∀ listed ∈ retry.statuses, isServerStatus? listed = some true

/-- A check compares every number of a retry. -/
theorem numbers_of_check (retry : Retry) (valid : retry.check = .ok ()) :
    ∃ limit initial greatest, retry.KeepsBounds limit initial greatest := by
  simp only [check, Success.bind_eq_ok_iff, unless_eq_ok_iff, checkStatuses_eq_ok_iff,
    numeric?_eq_some_iff] at valid
  obtain ⟨-, ⟨one, limit, ⟨⟩, limited, allowed⟩, -, ⟨zero, initial, ⟨⟩, initially, positive⟩, -,
    ⟨lower, greatest, again, capping, above⟩, statuses⟩ := valid
  obtain rfl : initial = lower := Option.some.inj (initially.symm.trans again)
  exact ⟨limit, initial, greatest, limited, initially, capping, by simpa using allowed,
    by simpa using positive, by simpa using above, statuses⟩

/-- The attempts and the delays of a retry are given by numbers. -/
structure IsNumeric (retry : Retry) : Prop where
  attempts : ∃ limit, retry.maxAttempts.number? = some limit
  initialDelay : ∃ initial, retry.initialDelay.number? = some initial
  maxDelay : ∃ greatest, retry.maxDelay.number? = some greatest

theorem isNumeric_of_check (retry : Retry) (valid : retry.check = .ok ()) : retry.IsNumeric := by
  obtain ⟨limit, initial, greatest, keeps⟩ := retry.numbers_of_check valid
  exact ⟨⟨limit, keeps.attempts⟩, ⟨initial, keeps.initialDelay⟩, ⟨greatest, keeps.maxDelay⟩⟩

/-- The check of a retry tests the limit and each listed status. -/
theorem bounds_of_check (retry : Retry) (limit : Int)
    (limited : retry.maxAttempts.number? = some (.int limit)) (valid : retry.check = .ok ()) :
    1 ≤ limit ∧ ∀ listed ∈ retry.statuses, isServerStatus? listed = some true := by
  obtain ⟨number, _, _, keeps⟩ := retry.numbers_of_check valid
  obtain rfl : .int limit = number := Option.some.inj (limited.symm.trans keeps.attempts)
  exact ⟨by simpa using keeps.allowed, keeps.statuses⟩

/-- The check of a retry puts integer delays in order. -/
theorem delays_of_check (retry : Retry) (initial greatest : Int)
    (initially : retry.initialDelay = .int initial) (capping : retry.maxDelay = .int greatest)
    (valid : retry.check = .ok ()) : 0 ≤ initial ∧ initial ≤ greatest := by
  obtain ⟨_, first, last, keeps⟩ := retry.numbers_of_check valid
  obtain rfl : .int initial = first :=
    Option.some.inj ((congrArg Value.number? initially).symm.trans keeps.initialDelay)
  obtain rfl : .int greatest = last :=
    Option.some.inj ((congrArg Value.number? capping).symm.trans keeps.maxDelay)
  exact ⟨by simpa using keeps.positive, by simpa using keeps.ordered⟩

end Retry

end CheckpointReport
