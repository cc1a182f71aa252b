/-
This file tells what a failure says about the answer that ended its request. No earlier answer is
left in it.
-/

import CheckpointReport.Proofs.Transport.Outcome
import CheckpointReport.Proofs.Transport.Status

namespace CheckpointReport

/-- Only a response may have a status. -/
def Answer.status? : Answer → Option Int
  | .response status _ => status
  | .unreachable _ => none
  | .raised _ => none

/-- No response came since the connection was lost. -/
def Answer.IsLost (answer : Answer) : Prop := ∃ detail, answer = .unreachable detail

/-- Each family belongs to a range of statuses of its own, or to a lost connection. The protocol is
blamed for responses only. -/
def Family.Fits : Family → Answer → Prop
  | .transport, answer => answer.IsLost
  | .server, answer => ∃ status, answer.status? = some status ∧ 500 ≤ status
  | .notFound, answer => answer.status? = some 404
  | .invalid, answer =>
      ∃ status, answer.status? = some status ∧ 400 ≤ status ∧ status < 500 ∧ status ≠ 404
  | .protocol, answer => ∃ status body, answer = .response status body

/-- While a transport is open, its failures have the causes of their families. -/
def Family.cause? : Family → Option String
  | .transport => some "network"
  | .server => some "server_transient"
  | _ => none

/-- Whatever a failure tells besides its message is true of this answer. -/
structure Failure.TrueOf (failure : Failure) (answer : Answer) : Prop where
  status : failure.status? = answer.status?
  cause : failure.cause? = failure.family.cause?
  family : failure.family.Fits answer

/-- A lost connection fits no family but its own. -/
theorem Family.fits_lost_iff (family : Family) (answer : Answer) (fits : family.Fits answer) :
    family = .transport ↔ answer.IsLost := by
  constructor
  · rintro rfl
    exact fits
  · intro lost
    obtain ⟨detail, rfl⟩ := lost
    cases family with
    | transport => rfl
    | server =>
        obtain ⟨status, known, -⟩ := fits
        cases known
    | notFound => cases fits
    | invalid =>
        obtain ⟨status, known, -⟩ := fits
        cases known
    | protocol =>
        obtain ⟨status, body, same⟩ := fits
        cases same

namespace Failure

/-- The protocol may be blamed for any response. -/
theorem trueOf_of_protocol {failure : Failure} {status : Option Int} (body : Body)
    (blamed : failure.family = .protocol) (told : failure.status? = status)
    (causeless : failure.cause? = none) : failure.TrueOf (.response status body) where
  status := told
  cause := by
    rw [blamed]
    exact causeless
  family := by
    rw [blamed]
    exact ⟨status, body, rfl⟩

/-- A status is sorted into the family that it fits. -/
theorem trueOf_ofStatus (status : Int) (messages : List String) (body : Body) :
    (ofStatus status messages).TrueOf (.response (some status) body) := by
  unfold ofStatus
  split
  · rename_i known
    subst known
    exact ⟨rfl, rfl, rfl⟩
  · rename_i other
    split
    · rename_i failing
      exact ⟨rfl, rfl, status, rfl, failing⟩
    · rename_i working
      split
      · rename_i refused
        exact ⟨rfl, rfl, status, rfl, refused, Int.not_le.mp working, other⟩
      · exact trueOf_of_protocol body rfl rfl rfl

theorem trueOf_unreadable (status : Option Int) (body : Body) :
    (unreadableFailure status).TrueOf (.response status body) := by
  cases status with
  | none => exact trueOf_of_protocol body rfl rfl rfl
  | some status =>
      rw [unreadableFailure]
      split
      · exact trueOf_of_protocol body rfl rfl rfl
      · exact trueOf_ofStatus status [] body

/-- A status of the client or of the server speaks through the messages. -/
theorem ofStatus_message (status : Int) (messages : List String) (blamed : 400 ≤ status) :
    (ofStatus status messages).message = joined messages := by
  unfold ofStatus
  split
  · rfl
  · split
    · rfl
    · rfl

theorem isSuccess_iff (status : Int) : isSuccess status = true ↔ 200 ≤ status ∧ status < 300 := by
  simp [isSuccess]

end Failure

/-- The failure to read a body is true of the response that brought it. -/
theorem Body.payload_trueOf (body : Body) (status : Option Int) (failure : Failure)
    (refused : body.payload status = .error failure) :
    failure.TrueOf (.response status body) := by
  rw [Body.payload] at refused
  split at refused
  · cases refused
    exact Failure.trueOf_unreadable status body
  · split at refused
    · split at refused
      · cases refused
      · cases refused
        exact Failure.trueOf_of_protocol body rfl rfl rfl
    · cases refused
      exact Failure.trueOf_of_protocol body rfl rfl rfl

/-- A failure that is sorted out by the status is true of the answer. -/
theorem sortAnswer_trueOf (payload : Value) (status : Option Int) (body : Body)
    (failure : Failure) (sorted : sortAnswer payload status = .failure failure) :
    failure.TrueOf (.response status body) := by
  cases status with
  | none =>
      cases sorted
      exact Failure.trueOf_of_protocol body rfl rfl rfl
  | some status =>
      rw [sortAnswer.eq_def] at sorted
      dsimp only at sorted
      split at sorted
      · cases sorted
      · split at sorted
        · cases sorted
          exact Failure.trueOf_ofStatus status _ body
        · cases sorted

/-- Only a known status between 200 and 299 is a success. -/
theorem sortAnswer_eq_success_iff (payload : Value) (status : Option Int) :
    sortAnswer payload status = .success ↔
      ∃ known, status = some known ∧ 200 ≤ known ∧ known < 300 := by
  cases status with
  | none => simp [sortAnswer]
  | some status =>
      rw [sortAnswer.eq_def]
      dsimp only
      by_cases fine : Failure.isSuccess status = true
      · rw [if_pos fine]
        exact iff_of_true rfl ⟨status, rfl, (Failure.isSuccess_iff status).mp fine⟩
      · rw [if_neg fine]
        refine iff_of_false ?_ ?_
        · cases errorMessages? payload <;> simp
        · rintro ⟨known, same, success⟩
          cases same
          exact fine ((Failure.isSuccess_iff status).mpr success)

namespace Answer

/-- The failure that an answer leads to is true of this answer. -/
theorem conclusion_trueOf (answer : Answer) (failure : Failure)
    (failed : answer.conclusion = .error (.failed failure)) : failure.TrueOf answer := by
  cases answer with
  | raised exception => cases failed
  | unreachable detail =>
      cases failed
      exact ⟨rfl, rfl, detail, rfl⟩
  | response status body =>
      rw [conclusion] at failed
      cases read : body.payload status with
      | error refused =>
          rw [read] at failed
          cases failed
          exact body.payload_trueOf status failure read
      | ok payload =>
          rw [read] at failed
          dsimp only at failed
          split at failed
          · cases failed
          · rename_i sorted
            cases failed
            exact sortAnswer_trueOf _ status body failure sorted
          · cases failed

/-- A connection is blamed when it was lost, and only then. -/
theorem blames_connection_iff (answer : Answer) :
    (∃ failure, answer.conclusion = .error (.failed failure) ∧ failure.family = .transport) ↔
      answer.IsLost := by
  constructor
  · rintro ⟨failure, failed, blamed⟩
    have told := answer.conclusion_trueOf failure failed
    exact (failure.family.fits_lost_iff answer told.family).mp blamed
  · rintro ⟨detail, rfl⟩
    exact ⟨.unreachable detail, rfl, rfl⟩

/-- A payload comes from a success alone, and it is the body of this success. -/
theorem conclusion_eq_ok_iff (answer : Answer) (payload : Members) :
    answer.conclusion = .ok payload ↔ ∃ status body, answer = .response (some status) body ∧
      200 ≤ status ∧ status < 300 ∧ body.json? = some (.ofMembers payload) := by
  constructor
  · intro concluded
    cases answer with
    | raised exception => cases concluded
    | unreachable detail => cases concluded
    | response status body =>
        rw [conclusion] at concluded
        cases read : body.payload status with
        | error refused =>
            rw [read] at concluded
            cases concluded
        | ok other =>
            rw [read] at concluded
            dsimp only at concluded
            split at concluded
            · rename_i sorted
              cases concluded
              obtain ⟨known, rfl, above, below⟩ := (sortAnswer_eq_success_iff _ status).mp sorted
              exact ⟨known, body, rfl, above, below, (body.payload_eq_ok_iff _ payload).mp read⟩
            · cases concluded
            · cases concluded
  · intro given
    obtain ⟨status, body, rfl, above, below, decoded⟩ := given
    have sorted : sortAnswer (.ofMembers payload) (some status) = .success :=
      (sortAnswer_eq_success_iff _ _).mpr ⟨status, rfl, above, below⟩
    rw [conclusion, Body.payload_of_json? decoded]
    dsimp only
    rw [sorted]

/-- A short answer that fails after its body was read has a message for its errors. -/
theorem conclusion_message (status : Int) (body : Body) (payload : Members)
    (short : (Answer.response (some status) body).IsShort)
    (decoded : body.json? = some (.ofMembers payload)) (blamed : 400 ≤ status) :
    ∃ failure texts,
      (Answer.response (some status) body).conclusion = .error (.failed failure) ∧
        List.Forall₂ (fun item text => item.display? = some text) (errorItems (.ofMembers payload))
          texts ∧
        failure.message = Failure.joined texts := by
  have legible := (Value.legible_iff_isShort _).mpr (short _ decoded)
  obtain ⟨texts, shown⟩ := errorMessages?_of_legible payload legible
  have failing : ¬ (200 ≤ status ∧ status < 300) := by omega
  exact ⟨_, texts, conclusion_worded failing decoded shown, Success.mapM_eq_some_iff.mp shown,
    Failure.ofStatus_message status texts blamed⟩

end Answer

namespace Transport

/-- The last answer is the one to the last request. -/
def lastAnswer (transport : Transport) (endpoint : String) : Answer :=
  transport.script.answer (transport.get endpoint).requests.length

/-- The retry stumbles over the last answer. -/
def Stumbles (transport : Transport) (endpoint : String) : Prop :=
  (transport.lastAnswer endpoint).Stumbles transport.config.retry
    (transport.get endpoint).requests.length

variable (transport : Transport) (endpoint : String)

theorem endsAfter_of_isOpen (isOpen : transport.closed = false) :
    ∃ count, (transport.get endpoint).requests.length = 1 + count ∧
      EndsAfter transport.config.retry (pathOf endpoint) 1 transport.script
        (transport.get endpoint) count := by
  have opened := transport.get_of_isOpen endpoint isOpen
  obtain ⟨count, ends⟩ :=
    attempts_endsAfter transport.config.retry (pathOf endpoint) 1 transport.script
  rw [← opened] at ends
  refine ⟨count, ?_, ends⟩
  rw [ends.requests, List.length_replicate, Nat.add_comm]

/-- The last answer alone is the result, unless the retry stumbles over it. -/
theorem result_of_isOpen (isOpen : transport.closed = false) :
    (transport.Stumbles endpoint →
      ∃ cause, (transport.get endpoint).result = .error (.misfit cause)) ∧
    (¬ transport.Stumbles endpoint →
      (transport.get endpoint).result = (transport.lastAnswer endpoint).conclusion) := by
  obtain ⟨count, asked, ends⟩ := transport.endsAfter_of_isOpen endpoint isOpen
  have last : transport.lastAnswer endpoint = transport.script.answer (count + 1) := by
    rw [lastAnswer, asked, Nat.add_comm]
  rw [Stumbles, last, asked]
  constructor
  · intro stumbles
    obtain ⟨cause, failed, -⟩ := ends.stumbles stumbles
    exact ⟨cause, failed⟩
  · exact fun fine => (ends.concludes fine).2

theorem isShort_lastAnswer (short : ∀ answer ∈ transport.script, answer.IsShort) :
    (transport.lastAnswer endpoint).IsShort :=
  transport.script.forall_answer Answer.IsShort trivial short _

/-- A limit or a delay that does not fit is the result only when the retry stumbles. -/
theorem stumbles_iff_misfit (isOpen : transport.closed = false)
    (short : ∀ answer ∈ transport.script, answer.IsShort) :
    transport.Stumbles endpoint ↔
      ∃ cause, (transport.get endpoint).result = .error (.misfit cause) := by
  obtain ⟨stumbling, concluded⟩ := transport.result_of_isOpen endpoint isOpen
  refine ⟨stumbling, ?_⟩
  intro misfit
  obtain ⟨cause, failed⟩ := misfit
  by_contra fine
  have told := (transport.lastAnswer endpoint).conclusion_tells
    (transport.isShort_lastAnswer endpoint short)
  rw [← concluded fine, failed] at told
  cases told

/-- A retry between numbers stumbles only over a delay that outgrows its range. -/
theorem stumbles_iff_outgrows (isOpen : transport.closed = false)
    (short : ∀ answer ∈ transport.script, answer.IsShort)
    (numeric : transport.config.retry.IsNumeric) :
    transport.Stumbles endpoint ↔ transport.Outgrows := by
  obtain ⟨limit, limited⟩ := numeric.attempts
  have opened := transport.get_of_isOpen endpoint isOpen
  rw [transport.stumbles_iff_misfit endpoint isOpen short,
    transport.outgrows_iff limit limited]
  obtain ⟨delays, -, final, inside, concluded⟩ | ⟨float, failed, repeats⟩ :=
    attempts_outcome transport.config.retry (pathOf endpoint) numeric 1 (le_refl 1)
      transport.script (fun _ => by omega)
  · rw [← opened] at concluded
    refine iff_of_false ?_ ?_
    · intro misfit
      obtain ⟨cause, failed⟩ := misfit
      have told := (transport.script.answer (delays.length + 1)).conclusion_tells
        (transport.script.forall_answer Answer.IsShort trivial short _)
      rw [← concluded.result, failed] at told
      cases told
    · intro outgrows
      exact final (outgrows.2.2 delays.length (inside outgrows.2.1))
  · exact iff_of_true ⟨.range, opened ▸ failed⟩ ⟨isOpen, float, repeats⟩

end Transport

/-- The result of a request speaks of its last answer. A failure tells the status of this answer and
belongs to a family that the answer fits. Unless the retry stumbles, a lost connection is blamed
exactly when it ended the request, a payload is the body of a success, and the errors in the body
are the message. A retry between numbers stumbles only when its delay outgrows binary64. -/
theorem result_tells_lastAnswer (transport : Transport) (endpoint : String)
    (isOpen : transport.closed = false)
    (short : ∀ answer ∈ transport.script, answer.IsShort) :
    let get := transport.get endpoint
    let last := transport.lastAnswer endpoint
    (1 ≤ get.requests.length ∧ get.script = transport.script.drop get.requests.length) ∧
    (∀ failure, get.result = .error (.failed failure) → failure.TrueOf last) ∧
    (¬ transport.Stumbles endpoint →
      ((∃ failure, get.result = .error (.failed failure) ∧ failure.family = .transport) ↔
        last.IsLost) ∧
      (∀ payload, get.result = .ok payload ↔
        ∃ status body, last = .response (some status) body ∧
          200 ≤ status ∧ status < 300 ∧ body.json? = some (.ofMembers payload)) ∧
      ∀ status body payload, last = .response (some status) body → 400 ≤ status →
        body.json? = some (.ofMembers payload) →
          ∃ failure texts, get.result = .error (.failed failure) ∧
            List.Forall₂ (fun item text => item.display? = some text)
              (errorItems (.ofMembers payload)) texts ∧
            failure.message = Failure.joined texts) ∧
    (transport.Stumbles endpoint ↔ ∃ cause, get.result = .error (.misfit cause)) ∧
    (transport.config.retry.IsNumeric → (transport.Stumbles endpoint ↔ transport.Outgrows)) := by
  intro get last
  obtain ⟨-, concluded⟩ := transport.result_of_isOpen endpoint isOpen
  have misfit := transport.stumbles_iff_misfit endpoint isOpen short
  refine ⟨?_, ?_, ?_, misfit, transport.stumbles_iff_outgrows endpoint isOpen short⟩
  · obtain ⟨count, asked, ends⟩ := transport.endsAfter_of_isOpen endpoint isOpen
    have first : 1 ≤ (transport.get endpoint).requests.length := asked ▸ Nat.le_add_right 1 count
    refine ⟨first, ?_⟩
    rw [ends.rest, asked, Nat.add_comm]
  · intro failure failed
    have fine : ¬ transport.Stumbles endpoint := by
      rw [misfit]
      rintro ⟨cause, other⟩
      cases failed.symm.trans other
    exact last.conclusion_trueOf failure ((concluded fine).symm.trans failed)
  · intro fine
    have told : get.result = last.conclusion := concluded fine
    rw [told]
    refine ⟨last.blames_connection_iff, last.conclusion_eq_ok_iff, ?_⟩
    intro status body payload answered blamed decoded
    have readable : last.IsShort := transport.isShort_lastAnswer endpoint short
    rw [answered] at readable ⊢
    exact Answer.conclusion_message status body payload readable decoded blamed

theorem patient_isShort : ∀ answer ∈ patient.script, answer.IsShort := by
  have readable (status : Int) (value : Value) (legible : value.Legible) :
      (Answer.response (some status) (.value value)).IsShort := by
    intro root read
    cases read
    exact (Value.legible_iff_isShort value).mp legible
  rw [patient, List.forall_mem_cons, List.forall_mem_cons, List.forall_mem_singleton]
  exact ⟨trivial, readable 503 _ rfl, readable 404 _ rfl⟩

/-- Neither the lost connection nor the busy server is left in what this client is told. -/
theorem patient_tells :
    patient.closed = false ∧ (∀ answer ∈ patient.script, answer.IsShort) ∧
      patient.config.retry.IsNumeric ∧
        ∃ failure, (patient.get "jobs").result = .error (.failed failure) ∧
          failure.TrueOf (patient.lastAnswer "jobs") ∧ failure.status? = some 404 ∧
            failure.message = "Job not found" := by
  have numeric : patient.config.retry.IsNumeric := Retry.isNumeric_of_check _ (by decide)
  obtain ⟨-, trueOf, fine, -, outgrows⟩ :=
    result_tells_lastAnswer patient "jobs" rfl patient_isShort
  have within : ¬ patient.Stumbles "jobs" := by
    rw [outgrows numeric]
    intro grows
    obtain ⟨part, same⟩ := grows.float
    cases same
  obtain ⟨failure, texts, failed, shown, worded⟩ :=
    (fine within).2.2 404 _ [("errors", .list [.text "Job not found"])] rfl (by decide) rfl
  have told := trueOf failure failed
  cases shown with
  | cons first others =>
      cases first
      cases others
      exact ⟨rfl, patient_isShort, numeric, failure, failed, told, told.status, worded⟩

/-- This client never reaches its server, and it may try once more than the delay can be computed
for. -/
def unreached : Transport where
  config := { Config.standard with retry := { Retry.standard with maxAttempts := .int 1026 } }
  owned := true
  closed := false
  script := List.replicate 1026 (.unreachable "down")

theorem unreached_isShort : ∀ answer ∈ unreached.script, answer.IsShort := by
  intro answer member
  rw [List.eq_of_mem_replicate member]
  exact trivial

theorem unreached_answer (attempt : Nat) (first : 1 ≤ attempt) (inside : attempt ≤ 1026) :
    unreached.script.answer attempt = .unreachable "down" := by
  have answered := Script.answer_replicate 1026 (.unreachable "down") [] attempt first inside
  rwa [List.append_nil] at answered

theorem unreached_outgrows : unreached.Outgrows :=
  Transport.outgrows_of_lost _ "down" rfl rfl fun attempt first inside =>
    unreached_answer attempt first (by omega)

theorem unreached_isLost : (unreached.lastAnswer "jobs").IsLost := by
  have valid : unreached.config.retry.check = .ok () := by decide
  obtain ⟨count, asked, -⟩ := unreached.endsAfter_of_isOpen "jobs" rfl
  have bounded := (requests_of_check unreached.config.retry "jobs" 1026 rfl unreached.script valid).1
  have first : 1 ≤ (unreached.get "jobs").requests.length := asked ▸ Nat.le_add_right 1 count
  exact ⟨"down", unreached_answer _ first (Int.ofNat_le.mp bounded)⟩

/-- The connection is lost at last, but it is not blamed. -/
theorem unreached_unblamed :
    unreached.closed = false ∧ unreached.config.check = .ok () ∧
      (∀ answer ∈ unreached.script, answer.IsShort) ∧ (unreached.lastAnswer "jobs").IsLost ∧
        ¬ ∃ failure, (unreached.get "jobs").result = .error (.failed failure) ∧
          failure.family = .transport := by
  have valid : unreached.config.check = .ok () := by decide
  refine ⟨rfl, valid, unreached_isShort, unreached_isLost, ?_⟩
  have numeric := Retry.isNumeric_of_check _ (unreached.config.retry_of_check valid)
  have stumbles := (unreached.stumbles_iff_outgrows "jobs" rfl unreached_isShort numeric).mpr
    unreached_outgrows
  obtain ⟨cause, failed⟩ := (unreached.stumbles_iff_misfit "jobs" rfl unreached_isShort).mp stumbles
  rintro ⟨failure, blamed, -⟩
  cases failed.symm.trans blamed

end CheckpointReport
