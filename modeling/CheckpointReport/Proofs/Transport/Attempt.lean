/-
This file takes one attempt of a request apart. An attempt ends the request or is repeated, whatever
value limits the attempts.
-/

import CheckpointReport.Proofs.Table
import CheckpointReport.Proofs.Transport.Reference

namespace CheckpointReport

/-- A payload is read exactly when the body is an object made of members. Its keys are those that
decoding leaves apart. -/
theorem Body.payload_eq_ok_iff (body : Body) (status : Option Int) (payload : Members) :
    body.payload status = .ok payload ↔ body.json? = some (.ofMembers payload) := by
  rw [Body.payload]
  cases body.json? with
  | none => simp
  | some root =>
      rw [Option.some.injEq, ← Value.members?_eq_some_iff]
      cases root with
      | object entries =>
          dsimp only
          cases Value.members? (.object entries) <;> simp
      | _ => simp [Value.members?]

/-- The retry allows another attempt after this answer to an attempt. -/
def Answer.Repeats (retry : Retry) (attempt : Nat) : Answer → Prop
  | .unreachable _ => retry.allows attempt none = .ok true
  | .response (some status) _ => retry.allows attempt (some status) = .ok true
  | .response none _ => False
  | .raised _ => False

/-- With a number for a limit an attempt is repeated below the limit only. -/
theorem Answer.repeats_iff (retry : Retry) (limit : Number) (attempt : Nat) (answer : Answer)
    (limited : retry.maxAttempts.number? = some limit) :
    answer.Repeats retry attempt ↔
      limit.atMost (.int attempt) = false ∧ answer.Repeatable retry := by
  cases answer with
  | raised exception => simp [Repeats, Repeatable]
  | unreachable detail =>
      rw [Repeats, retry.allows_number limit attempt none limited]
      simp [Repeatable, Retry.covers]
  | response status body =>
      cases status with
      | none => simp [Repeats, Repeatable]
      | some status =>
          rw [Repeats, retry.allows_number limit attempt (some status) limited, Repeatable,
            ← retry.covers_iff]
          simp

/-- Nobody can tell whether this answer allows another attempt. -/
def Answer.Undecided (retry : Retry) (attempt : Nat) : Answer → Prop
  | .unreachable _ => ∃ cause, retry.allows attempt none = .error cause
  | .response (some status) _ => ∃ cause, retry.allows attempt (some status) = .error cause
  | .response none _ => False
  | .raised _ => False

/-- With a number as limit it is always known whether an attempt may be repeated. -/
theorem Answer.not_undecided (retry : Retry) (limit : Number) (attempt : Nat) (answer : Answer)
    (limited : retry.maxAttempts.number? = some limit) : ¬ answer.Undecided retry attempt := by
  have told (status : Option Int) : ¬ ∃ cause, retry.allows attempt status = .error cause := by
    rw [retry.allows_number limit attempt status limited]
    exact fun unknown => nomatch unknown
  cases answer with
  | raised exception => exact not_false
  | unreachable detail => exact told none
  | response status body =>
      cases status with
      | none => exact not_false
      | some status => exact told (some status)

/-- The warning of a repeated attempt tells the path, the attempt and why it is repeated. -/
inductive Answer.Warned (path : String) (attempt : Nat) : Answer → Entry → Prop
  | lost (detail : String) :
      Answer.Warned path attempt (.unreachable detail) (.retriedUnreachable path attempt)
  | busy (status : Int) (body : Body) :
      Answer.Warned path attempt (.response (some status) body) (.retriedBusy path attempt status)

/-- The last attempt tells the journal of a payload or of a failure. Any other exception is left to
the caller. -/
inductive Closing (path : String) (attempt : Nat) : Except GetError Members → List Entry → Prop
  | returned (payload : Members) : Closing path attempt (.ok payload) [.answered path attempt]
  | failed (failure : Failure) (entry : Entry) (level : entry.level = .error) :
      Closing path attempt (.error (.failed failure)) [entry]
  | raised (exception : Raised) : Closing path attempt (.error (.raised exception)) []
  | misfit (cause : Misfit) : Closing path attempt (.error (.misfit cause)) []
  | overlong : Closing path attempt (.error .overlongMessage) []

theorem settle_closing (path : String) (attempt : Nat) (status : Option Int) (body : Body) :
    Closing path attempt (settle path attempt status body).1
      (settle path attempt status body).2 := by
  rw [settle]
  split
  · exact .failed _ _ rfl
  · split
    · exact .returned _
    · exact .failed _ _ rfl
    · exact .overlong

/-- An attempt is repeated, or it ends the request. Its own answer is concluded then, unless nobody
can tell whether it is repeated. -/
theorem attempts_cons (retry : Retry) (path : String) (attempt : Nat) (answer : Answer)
    (rest : Script) :
    (answer.Repeats retry attempt ∧ ∃ entry, answer.Warned path attempt entry ∧
        attempts retry path attempt (answer :: rest) =
          repeated retry path attempt entry rest (attempts retry path (attempt + 1) rest)) ∨
      (¬ answer.Repeats retry attempt ∧ ¬ answer.Undecided retry attempt ∧
        ∃ log, Closing path attempt answer.conclusion log ∧
          attempts retry path attempt (answer :: rest) =
            lastAttempt path answer.conclusion log rest) ∨
      (answer.Undecided retry attempt ∧ ¬ answer.Repeats retry attempt ∧ ∃ cause,
        attempts retry path attempt (answer :: rest) = undecided path cause rest) := by
  have settles (status : Option Int) (body : Body) :
      ∃ log, Closing path attempt (Answer.response status body).conclusion log ∧
        settled path attempt status body rest =
          lastAttempt path (Answer.response status body).conclusion log rest := by
    rw [← (settled_concluded path attempt status body rest).result]
    exact ⟨_, settle_closing path attempt status body, rfl⟩
  cases answer with
  | raised exception => exact Or.inr (Or.inl ⟨not_false, not_false, _, .raised exception, rfl⟩)
  | unreachable detail =>
      rw [attempts, Answer.Repeats, Answer.Undecided]
      cases retry.allows attempt none with
      | error cause => exact Or.inr (Or.inr ⟨⟨cause, rfl⟩, by simp, cause, rfl⟩)
      | ok again =>
          cases again with
          | true => exact Or.inl ⟨rfl, _, .lost detail, rfl⟩
          | false => exact Or.inr (Or.inl ⟨by simp, by simp, _, .failed _ _ rfl, rfl⟩)
  | response status body =>
      cases status with
      | none => exact Or.inr (Or.inl ⟨not_false, not_false, settles none body⟩)
      | some status =>
          rw [attempts, Answer.Repeats, Answer.Undecided]
          cases retry.allows attempt (some status) with
          | error cause => exact Or.inr (Or.inr ⟨⟨cause, rfl⟩, by simp, cause, rfl⟩)
          | ok again =>
              cases again with
              | true => exact Or.inl ⟨rfl, _, .busy status body, rfl⟩
              | false => exact Or.inr (Or.inl ⟨by simp, by simp, settles (some status) body⟩)

/-- The retry stumbles over an answer when nobody can tell whether it is repeated, or after which
delay. -/
def Answer.Stumbles (retry : Retry) (attempt : Nat) (answer : Answer) : Prop :=
  answer.Undecided retry attempt ∨
    answer.Repeats retry attempt ∧ ∃ cause, retry.delay attempt = .error cause

/-- So many answers are repeated by a request, each of them after its delay. One more answer ends the
request, and it is concluded if the retry does not stumble over it. -/
structure EndsAfter (retry : Retry) (path : String) (attempt : Nat) (script : Script) (get : Get)
    (count : Nat) : Prop where
  requests : get.requests = List.replicate (count + 1) path
  sleeps : List.Forall₂ (fun (attempt : Nat) delay => retry.delay attempt = .ok delay)
    (List.range' attempt count) get.sleeps
  rest : get.script = script.drop (count + 1)
  repeats : ∀ step < count, (script.answer (step + 1)).Repeats retry (attempt + step)
  concludes : ¬ (script.answer (count + 1)).Stumbles retry (attempt + count) →
    ¬ (script.answer (count + 1)).Repeats retry (attempt + count) ∧
      get.result = (script.answer (count + 1)).conclusion
  stumbles : (script.answer (count + 1)).Stumbles retry (attempt + count) →
    ∃ cause, get.result = .error (.misfit cause) ∧
      ((script.answer (count + 1)).Repeats retry (attempt + count) →
        retry.delay (attempt + count : Nat) = .error cause)

/-- An attempt that is not followed by another one ends the request. -/
theorem endsAfter_first (retry : Retry) (path : String) (attempt : Nat) (script : Script)
    (result : Except GetError Members) (log : List Entry)
    (concludes : ¬ (script.answer 1).Stumbles retry attempt →
      ¬ (script.answer 1).Repeats retry attempt ∧ result = (script.answer 1).conclusion)
    (stumbles : (script.answer 1).Stumbles retry attempt →
      ∃ cause, result = .error (.misfit cause) ∧
        ((script.answer 1).Repeats retry attempt → retry.delay attempt = .error cause)) :
    EndsAfter retry path attempt script (lastAttempt path result log (script.drop 1)) 0 where
  requests := rfl
  sleeps := .nil
  rest := rfl
  repeats := fun step inside => absurd inside (Nat.not_lt_zero step)
  concludes := concludes
  stumbles := stumbles

/-- A repeated attempt is followed by the request that is left. -/
theorem endsAfter_next (retry : Retry) (path : String) (attempt count : Nat) (answer : Answer)
    (rest : Script) (get : Get) (entry : Entry) (delay : Value)
    (repeats : answer.Repeats retry attempt) (delayed : retry.delay attempt = .ok delay)
    (ends : EndsAfter retry path (attempt + 1) rest get count) :
    EndsAfter retry path attempt (answer :: rest) (get.after path entry delay) (count + 1) := by
  have shifted (step : Nat) : attempt + (step + 1) = attempt + 1 + step := by omega
  exact {
    requests := congrArg (List.cons path) ends.requests
    sleeps := by
      rw [List.range'_succ]
      exact .cons delayed ends.sleeps
    rest := ends.rest
    repeats := by
      intro step inside
      cases step with
      | zero => exact repeats
      | succ step =>
          rw [shifted]
          exact ends.repeats step (Nat.lt_of_succ_lt_succ inside)
    concludes := by
      rw [shifted]
      exact ends.concludes
    stumbles := by
      rw [shifted]
      exact ends.stumbles }

/-- Every request ends after some answers. The induction is on the script, and each answer is an
attempt of its own. -/
theorem attempts_endsAfter (retry : Retry) (path : String) (attempt : Nat) (script : Script) :
    ∃ count, EndsAfter retry path attempt script (attempts retry path attempt script) count := by
  induction script generalizing attempt with
  | nil =>
      have fine : ¬ (Answer.raised .exhausted).Stumbles retry attempt :=
        fun stumbles => stumbles.elim id fun both => both.1
      exact ⟨0, endsAfter_first retry path attempt [] _ [] (fun _ => ⟨not_false, rfl⟩)
        fun stumbles => absurd stumbles fine⟩
  | cons answer rest ih =>
      have first := endsAfter_first retry path attempt (answer :: rest)
      obtain ⟨repeats, entry, -, continued⟩ | ⟨final, told, log, -, ended⟩ |
          ⟨unknown, final, cause, ended⟩ :=
        attempts_cons retry path attempt answer rest
      · cases delayed : retry.delay attempt with
        | error cause =>
            rw [continued, repeated, delayed]
            have stumbles : answer.Stumbles retry attempt := Or.inr ⟨repeats, cause, delayed⟩
            exact ⟨0, first _ [entry] (fun fine => absurd stumbles fine)
              fun _ => ⟨cause, rfl, fun _ => delayed⟩⟩
        | ok delay =>
            obtain ⟨count, ends⟩ := ih (attempt + 1)
            rw [continued, repeated, delayed]
            exact ⟨count + 1,
              endsAfter_next retry path attempt count answer rest _ entry delay repeats delayed ends⟩
      · have fine : ¬ answer.Stumbles retry attempt :=
          fun stumbles => stumbles.elim told fun both => final both.1
        rw [ended]
        exact ⟨0, first _ log (fun _ => ⟨final, rfl⟩) fun stumbles => absurd stumbles fine⟩
      · rw [ended]
        exact ⟨0, first _ [] (fun fine => absurd (Or.inl unknown) fine)
          fun _ => ⟨cause, rfl, fun repeats => absurd repeats final⟩⟩

/-- A request of an open transport is a run of attempts. -/
theorem Transport.get_of_isOpen (transport : Transport) (endpoint : String)
    (isOpen : transport.closed = false) :
    transport.get endpoint =
      attempts transport.config.retry (pathOf endpoint) 1 transport.script := by
  rw [Transport.get, isOpen]
  rfl

/-- A request leaves the connection open, however it ends. -/
theorem attempts_closes (retry : Retry) (path : String) (attempt : Nat) (script : Script) :
    (attempts retry path attempt script).closes = 0 := by
  induction script generalizing attempt with
  | nil => rfl
  | cons answer rest ih =>
      obtain ⟨-, entry, -, continued⟩ | ⟨-, -, log, -, ended⟩ | ⟨-, -, cause, ended⟩ :=
        attempts_cons retry path attempt answer rest
      · rw [continued, repeated]
        cases retry.delay attempt with
        | ok delay => exact ih (attempt + 1)
        | error cause => rfl
      · rw [ended]
        rfl
      · rw [ended]
        rfl

/-- A request does not write about a history or a summary. -/
def Entry.IsOfRequest : Entry → Prop
  | .summarized _ _ _ _ => False
  | .history _ _ => False
  | _ => True

theorem Answer.Warned.isOfRequest {path : String} {attempt : Nat} {answer : Answer} {entry : Entry}
    (warned : answer.Warned path attempt entry) : entry.IsOfRequest := by
  cases warned <;> exact trivial

/-- The last entries of a call belong to its request. -/
theorem Closing.isOfRequest {path : String} {attempt : Nat} {result : Except GetError Members}
    {log : List Entry} (closing : Closing path attempt result log) :
    ∀ entry ∈ log, entry.IsOfRequest := by
  cases closing with
  | returned payload => exact List.forall_mem_singleton.mpr trivial
  | failed failure entry level =>
      rw [List.forall_mem_singleton]
      cases entry with
      | summarized id source type tasks => cases level
      | history job records => cases level
      | _ => exact trivial
  | _ => exact List.forall_mem_nil _

/-- The attempts of a request write about the request only. -/
theorem attempts_log (retry : Retry) (path : String) (attempt : Nat) (script : Script) :
    ∀ entry ∈ (attempts retry path attempt script).log, entry.IsOfRequest := by
  induction script generalizing attempt with
  | nil => exact List.forall_mem_nil _
  | cons answer rest ih =>
      obtain ⟨-, entry, warned, continued⟩ | ⟨-, -, log, closing, ended⟩ | ⟨-, -, cause, ended⟩ :=
        attempts_cons retry path attempt answer rest
      · rw [continued, repeated]
        cases retry.delay attempt with
        | ok delay => exact List.forall_mem_cons.mpr ⟨warned.isOfRequest, ih (attempt + 1)⟩
        | error cause => exact List.forall_mem_singleton.mpr warned.isOfRequest
      · rw [ended]
        exact closing.isOfRequest
      · rw [ended]
        exact List.forall_mem_nil _

theorem Transport.get_log (transport : Transport) (endpoint : String) :
    ∀ entry ∈ (transport.get endpoint).log, entry.IsOfRequest := by
  rw [Transport.get]
  split
  · exact List.forall_mem_nil _
  · exact attempts_log _ _ _ _

end CheckpointReport
