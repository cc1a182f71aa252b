/-
This file compares a request with its reference. The reference looks for the first attempt that
ends the request and reads the answer to this attempt only.
-/

import CheckpointReport.Proofs.Retry
import CheckpointReport.Transport
import Mathlib.Data.List.TakeWhile
import Mathlib.Order.Nat

namespace CheckpointReport

/-- The attempts count from one. Beyond the script each attempt is ended by the same exception. -/
def Script.answer (script : Script) (attempt : Nat) : Answer :=
  script[attempt - 1]?.getD (.raised .exhausted)

namespace Answer

/-- A lost connection is always worth another attempt, a response only with a listed status, and
an exception never. -/
def Repeatable (retry : Retry) : Answer → Prop
  | .unreachable _ => True
  | .response (some status) _ => ∃ listed ∈ retry.statuses, listed.same (.int status) = true
  | .response none _ => False
  | .raised _ => False

/-- This is what the last answer alone tells the caller. -/
def conclusion : Answer → Except GetError Members
  | .raised exception => .error (.raised exception)
  | .unreachable detail => .error (.failed (.unreachable detail))
  | .response status body =>
      match body.payload status with
      | .error failure => .error (.failed failure)
      | .ok payload =>
          match sortAnswer (.ofMembers payload) status with
          | .success => .ok payload
          | .failure failure => .error (.failed failure)
          | .lost => .error .overlongMessage

/-- Only a lost connection and the status of a failing server are worth another attempt. -/
def Transient (answer : Answer) : Prop :=
  (∃ detail, answer = .unreachable detail) ∨
    ∃ status body, answer = .response (some status) body ∧ 500 ≤ status ∧ status < 600

end Answer

theorem Script.answer_drop (script : Script) (attempt : Nat) :
    Script.answer (script.drop 1) (attempt + 1) = script.answer (attempt + 2) := by
  simp [Script.answer]

theorem Script.answer_beyond (script : Script) :
    script.answer (script.length + 1) = .raised .exhausted := by
  simp [Script.answer]

/-- The last attempt is the first one that has reached the limit or may not be repeated. -/
def IsLast (retry : Retry) (limit : Int) (script : Script) (last : Nat) : Prop :=
  IsLeast {attempt : Nat | 1 ≤ attempt ∧
    (limit ≤ attempt ∨ ¬ (script.answer attempt).Repeatable retry)} last

/-- Every script has a last attempt, since it runs out. -/
theorem exists_isLast (retry : Retry) (limit : Int) (script : Script) :
    ∃ last, IsLast retry limit script last := by
  classical
  have ends : ¬ (script.answer (script.length + 1)).Repeatable retry := by
    rw [script.answer_beyond]
    exact not_false
  exact ⟨_, Nat.isLeast_find ⟨script.length + 1, Nat.succ_pos _, Or.inr ends⟩⟩

/-- All attempts before the last one are repeated. -/
theorem IsLast.repeats {retry : Retry} {limit : Int} {script : Script} {last : Nat}
    (isLast : IsLast retry limit script last) (step : Nat) (before : step + 1 < last) :
    ((1 + step : Nat) : Int) < limit ∧ (script.answer (step + 1)).Repeatable retry := by
  have continues : ¬ (limit ≤ (step + 1 : Nat) ∨
      ¬ (script.answer (step + 1)).Repeatable retry) := by
    intro ends
    have least : last ≤ step + 1 := isLast.2 ⟨Nat.succ_pos step, ends⟩
    omega
  rw [not_or, not_not, Int.not_le] at continues
  rw [Nat.add_comm]
  exact continues

/-- A repeatable answer to a checked client blames the connection or the server. -/
theorem Answer.transient_of_repeatable (retry : Retry) (answer : Answer)
    (server : ∀ listed ∈ retry.statuses, isServerStatus? listed = some true)
    (repeatable : answer.Repeatable retry) : answer.Transient := by
  cases answer with
  | unreachable detail => exact Or.inl ⟨detail, rfl⟩
  | raised exception => cases repeatable
  | response status body =>
      cases status with
      | none => cases repeatable
      | some status =>
          obtain ⟨listed, member, same⟩ := repeatable
          have bounds := isServerStatus?_of_same listed status (server listed member) same
          exact Or.inr ⟨status, body, rfl, bounds⟩

/-- A call that concludes has waited between its requests and not after the last one. -/
structure Concluded (get : Get) (path : String) (delays : List Value) (last : Answer)
    (script : Script) : Prop where
  requests : get.requests = List.replicate (delays.length + 1) path
  sleeps : get.sleeps = delays
  result : get.result = last.conclusion
  script : get.script = script

section Attempts

variable (retry : Retry) (path : String) (limit : Int)
variable (limited : retry.maxAttempts.number? = some (.int limit))

/-- A script that has run out gives one more answer. -/
theorem attempts_answer (attempt : Nat) (script : Script) :
    attempts retry path attempt script =
      attempts retry path attempt (script.answer 1 :: script.drop 1) := by
  cases script <;> rfl

theorem settled_concluded (attempt : Nat) (status : Option Int) (body : Body) (script : Script) :
    Concluded (settled path attempt status body script) path [] (.response status body)
      script := by
  have result : (settle path attempt status body).1 = (Answer.response status body).conclusion := by
    rw [settle, Answer.conclusion]
    cases body.payload status with
    | error failure => rfl
    | ok payload =>
        dsimp only
        cases sortAnswer (.ofMembers payload) status <;> rfl
  exact ⟨rfl, rfl, result, rfl⟩

include limited

/-- The last attempt is concluded from its own answer. -/
theorem attempts_final (attempt : Nat) (answer : Answer) (rest : Script)
    (ends : limit ≤ attempt ∨ ¬ answer.Repeatable retry) :
    Concluded (attempts retry path attempt (answer :: rest)) path [] answer rest := by
  cases answer with
  | raised exception => exact ⟨rfl, rfl, rfl, rfl⟩
  | unreachable detail =>
      have reached : limit ≤ attempt := ends.resolve_right fun final => final trivial
      rw [attempts, retry.allows_eq limit attempt none limited, decide_eq_false (by omega)]
      exact ⟨rfl, rfl, rfl, rfl⟩
  | response status body =>
      cases status with
      | none => exact settled_concluded path attempt none body rest
      | some status =>
          have refused : (decide ((attempt : Int) < limit) && retry.covers (some status)) =
              false := by
            rw [Bool.and_eq_false_iff, decide_eq_false_iff_not, Int.not_lt, Bool.eq_false_iff, Ne,
              retry.covers_iff status]
            exact ends
          rw [attempts, retry.allows_eq limit attempt (some status) limited, refused]
          exact settled_concluded path attempt (some status) body rest

/-- An attempt that may be repeated is followed by the next one when its delay has a value. -/
theorem attempts_repeated (attempt : Nat) (answer : Answer) (rest : Script)
    (below : attempt < limit) (repeatable : answer.Repeatable retry) :
    ∃ entry, attempts retry path attempt (answer :: rest) =
      repeated retry path attempt entry rest (attempts retry path (attempt + 1) rest) := by
  cases answer with
  | raised exception => cases repeatable
  | unreachable detail =>
      refine ⟨.retriedUnreachable path attempt, ?_⟩
      rw [attempts, retry.allows_eq limit attempt none limited, decide_eq_true below]
      rfl
  | response status body =>
      cases status with
      | none => cases repeatable
      | some status =>
          have covered : retry.covers (some status) = true :=
            (retry.covers_iff status).mpr repeatable
          refine ⟨.retriedBusy path attempt status, ?_⟩
          rw [attempts, retry.allows_eq limit attempt (some status) limited, decide_eq_true below,
            covered]
          rfl

/-- A run of attempts that may be repeated leads to the conclusion of the first other one. The
induction is on the delays, since each of them stands for one attempt that is repeated. -/
theorem attempts_concluded (delays : List Value) (attempt : Nat) (script : Script)
    (repeats : ∀ step < delays.length,
      ((attempt + step : Nat) : Int) < limit ∧ (script.answer (step + 1)).Repeatable retry)
    (ends : limit ≤ (attempt + delays.length : Nat) ∨
      ¬ (script.answer (delays.length + 1)).Repeatable retry)
    (delayed : List.Forall₂ (fun (attempt : Nat) delay => retry.delay attempt = .ok delay)
      (List.range' attempt delays.length) delays) :
    Concluded (attempts retry path attempt script) path delays
      (script.answer (delays.length + 1)) (script.drop (delays.length + 1)) := by
  induction delays generalizing attempt script with
  | nil =>
      rw [attempts_answer]
      exact attempts_final retry path limit limited attempt _ _ ends
  | cons delay delays ih =>
      obtain ⟨below, repeatable⟩ := repeats 0 (Nat.succ_pos _)
      rw [List.length_cons, List.range'_succ] at delayed
      obtain ⟨waited, others⟩ := List.forall₂_cons.mp delayed
      have following := ih (attempt + 1) (script.drop 1)
        (by
          intro step inside
          have next := repeats (step + 1) (Nat.succ_lt_succ inside)
          rw [script.answer_drop]
          exact ⟨by omega, next.2⟩)
        (by
          rw [script.answer_drop, Nat.add_right_comm]
          exact ends)
        others
      obtain ⟨entry, continued⟩ :=
        attempts_repeated retry path limit limited attempt _ (script.drop 1) below repeatable
      rw [attempts_answer, continued, repeated, waited]
      rw [script.answer_drop, List.drop_drop, Nat.add_comm 1] at following
      exact {
        requests := congrArg (List.cons path) following.requests
        sleeps := congrArg (List.cons delay) following.sleeps
        result := following.result
        script := following.script }

/-- Whatever the delays are, every request but the last one follows a repeatable answer. -/
theorem attempts_requests (attempt : Nat) (script : Script) :
    ∃ count, (attempts retry path attempt script).requests = List.replicate (count + 1) path ∧
      ∀ step < count,
        ((attempt + step : Nat) : Int) < limit ∧ (script.answer (step + 1)).Repeatable retry := by
  induction script generalizing attempt with
  | nil => exact ⟨0, rfl, fun step inside => absurd inside (Nat.not_lt_zero step)⟩
  | cons answer rest ih =>
      by_cases continues : (attempt : Int) < limit ∧ answer.Repeatable retry
      · obtain ⟨entry, continued⟩ :=
          attempts_repeated retry path limit limited attempt answer rest continues.1 continues.2
        rw [continued, repeated]
        cases retry.delay attempt with
        | error cause => exact ⟨0, rfl, fun step inside => absurd inside (Nat.not_lt_zero step)⟩
        | ok delay =>
            obtain ⟨count, requests, repeats⟩ := ih (attempt + 1)
            refine ⟨count + 1, congrArg (List.cons path) requests, ?_⟩
            intro step inside
            cases step with
            | zero => exact continues
            | succ step =>
                have next := repeats step (Nat.lt_of_succ_lt_succ inside)
                exact ⟨by omega, next.2⟩
      · have ends : limit ≤ attempt ∨ ¬ answer.Repeatable retry := by
          rw [← Int.not_lt, ← not_and_or]
          exact continues
        have final := attempts_final retry path limit limited attempt answer rest ends
        exact ⟨0, final.requests, fun step inside => absurd inside (Nat.not_lt_zero step)⟩

/-- Each delay before the last attempt stands for one attempt that is repeated. -/
theorem concluded_of_isLast (script : Script) (last : Nat)
    (isLast : IsLast retry limit script last) (delays : List Value)
    (delayed : List.Forall₂ (fun (attempt : Nat) delay => retry.delay attempt = .ok delay)
      (List.range' 1 (last - 1)) delays) :
    delays.length + 1 = last ∧
      Concluded (attempts retry path 1 script) path delays (script.answer last)
        (script.drop last) := by
  have count : delays.length = last - 1 := by
    rw [← delayed.length_eq, List.length_range']
  have positive : 1 ≤ last := isLast.1.1
  have total : delays.length + 1 = last := by omega
  have repeats : ∀ step < delays.length,
      ((1 + step : Nat) : Int) < limit ∧ (script.answer (step + 1)).Repeatable retry := by
    intro step inside
    exact isLast.repeats step (by omega)
  have ends : limit ≤ (1 + delays.length : Nat) ∨
      ¬ (script.answer (delays.length + 1)).Repeatable retry := by
    rw [Nat.add_comm, total]
    exact isLast.1.2
  have concluded := attempts_concluded retry path limit limited delays 1 script repeats ends
    (count ▸ delayed)
  rw [total] at concluded
  exact ⟨total, concluded⟩

/-- The bounds of a checked retry hold for the requests, whatever becomes of the delays. -/
theorem requests_of_check (script : Script) (valid : retry.check = .ok ()) :
    (attempts retry path 1 script).requests.length ≤ limit ∧
      ∀ attempt, 1 ≤ attempt → attempt < (attempts retry path 1 script).requests.length →
        (script.answer attempt).Transient := by
  obtain ⟨positive, server⟩ := retry.bounds_of_check limit limited valid
  obtain ⟨count, requests, repeats⟩ := attempts_requests retry path limit limited 1 script
  rw [requests, List.length_replicate]
  constructor
  · cases count with
    | zero => exact positive
    | succ count =>
        have below := (repeats count (Nat.lt_succ_self count)).1
        omega
  · intro attempt first inside
    obtain ⟨step, rfl⟩ := Nat.exists_eq_add_of_le' first
    have repeatable := (repeats step (Nat.lt_of_succ_lt_succ inside)).2
    exact Answer.transient_of_repeatable retry _ server repeatable

end Attempts

/-- The path of an endpoint is what follows its slashes. -/
theorem pathOf_spec (endpoint : String) :
    (∃ slashes, endpoint.toList = List.replicate slashes '/' ++ (pathOf endpoint).toList) ∧
      (pathOf endpoint).toList.head? ≠ some '/' := by
  have path : (pathOf endpoint).toList = endpoint.toList.dropWhile (· = '/') :=
    String.toList_ofList
  rw [path]
  constructor
  · refine ⟨(endpoint.toList.takeWhile (· = '/')).length, ?_⟩
    have slashes : endpoint.toList.takeWhile (· = '/') =
        List.replicate (endpoint.toList.takeWhile (· = '/')).length '/' := by
      rw [List.eq_replicate_iff]
      exact ⟨rfl, fun c member => by simpa using List.mem_takeWhile_imp member⟩
    rw [← slashes, List.takeWhile_append_dropWhile]
  · intro slash
    have kept := List.head?_dropWhile_not (fun c => decide (c = '/')) endpoint.toList
    rw [slash] at kept
    simp at kept

/-- A request equals its reference. It goes on to the first attempt that is the last one allowed
or whose answer may not be repeated, and this answer alone is its result. It waits after every
other attempt, provided that each delay has a value, which integer delays do. A checked client
repeats a request only after a lost connection or the status of a failing server. -/
theorem get_eq_reference (transport : Transport) (endpoint : String) (limit : Int)
    (isOpen : transport.closed = false)
    (limited : transport.config.retry.maxAttempts.number? = some (.int limit)) :
    let retry := transport.config.retry
    let script := transport.script
    let get := transport.get endpoint
    (∃ last, IsLast retry limit script last ∧
      ∀ delays,
        (List.range' 1 (last - 1)).mapM (fun attempt : Nat => retry.delay attempt) = .ok delays →
        get.requests = List.replicate last (pathOf endpoint) ∧ get.sleeps = delays ∧
          get.result = (script.answer last).conclusion ∧ get.script = script.drop last) ∧
    ((∃ slashes, endpoint.toList = List.replicate slashes '/' ++ (pathOf endpoint).toList) ∧
      (pathOf endpoint).toList.head? ≠ some '/') ∧
    (∀ initial greatest, retry.initialDelay = .int initial → retry.maxDelay = .int greatest →
      ∀ attempt : Nat, 1 ≤ attempt → ∃ delay, retry.delay attempt = .ok delay) ∧
    (retry.check = .ok () →
      get.requests.length ≤ limit ∧
        ∀ attempt, 1 ≤ attempt → attempt < get.requests.length →
          (script.answer attempt).Transient) := by
  intro retry script get
  have opened : get = attempts retry (pathOf endpoint) 1 script := by
    change transport.get endpoint = _
    rw [Transport.get, isOpen]
    rfl
  refine ⟨?_, pathOf_spec endpoint, ?_, ?_⟩
  · obtain ⟨last, isLast⟩ := exists_isLast retry limit script
    refine ⟨last, isLast, ?_⟩
    intro delays delayed
    have steps := Success.mapM_eq_ok_iff.mp delayed
    obtain ⟨total, concluded⟩ := concluded_of_isLast retry (pathOf endpoint) limit limited script
      last isLast delays steps
    rw [opened]
    exact ⟨total ▸ concluded.requests, concluded.sleeps, concluded.result, concluded.script⟩
  · intro initial greatest initially capping attempt positive
    exact ⟨_, retry.delay_int initial greatest attempt initially capping positive⟩
  · intro valid
    rw [opened]
    exact requests_of_check retry (pathOf endpoint) limit limited script valid

/-- This client may try three times. Its script loses the connection, meets a busy server and ends
with a missing page that carries a message. -/
def patient : Transport where
  config := { Config.standard with
    retry := { Retry.standard with initialDelay := .int 1, maxDelay := .int 60 } }
  owned := true
  closed := false
  script := [.unreachable "refused", .response (some 503) (.value .null),
    .response (some 404) (.value (.ofMembers [("errors", .list [.text "Job not found"])]))]

theorem patient_isLast : IsLast patient.config.retry 3 patient.script 3 := by
  refine ⟨⟨by omega, Or.inl (by omega)⟩, ?_⟩
  intro attempt found
  obtain ⟨first, early | final⟩ := found
  · omega
  · by_contra before
    have either : attempt = 1 ∨ attempt = 2 := by omega
    rcases either with rfl | rfl
    · exact final trivial
    · exact final ⟨.int 503, by simp [patient, Retry.standard], rfl⟩

/-- The third attempt is the last one, after pauses of one second and two. Its answer alone decides,
and the attempts stay within their limit. -/
theorem patient_get :
    (patient.get "//jobs").requests = List.replicate 3 (pathOf "//jobs") ∧
      (patient.get "//jobs").sleeps = [.int 1, .int 2] ∧
      (patient.get "//jobs").result = .error (.failed (.notFound ["Job not found"])) ∧
      patient.config.retry.check = .ok () ∧ (patient.get "//jobs").requests.length ≤ 3 := by
  obtain ⟨⟨last, isLast, reference⟩, -, -, checked⟩ :=
    get_eq_reference patient "//jobs" 3 rfl rfl
  obtain rfl := IsLeast.unique isLast patient_isLast
  obtain ⟨requests, sleeps, result, -⟩ := reference [.int 1, .int 2] (by rfl)
  have valid : patient.config.retry.check = .ok () := by decide
  exact ⟨requests, sleeps, result.trans (by rfl), valid, Int.ofNat_le.mp (checked valid).1⟩

end CheckpointReport
