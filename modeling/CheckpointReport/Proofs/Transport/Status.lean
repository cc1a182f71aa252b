/-
This file compares the complaint about a failing answer with the one that its status alone asks for.
They differ in their messages only, unless the body was read but is no payload.
-/

import CheckpointReport.Complaint
import CheckpointReport.Proofs.Json.Legible
import CheckpointReport.Proofs.Transport.Attempt

namespace CheckpointReport

namespace Body

/-- A misshapen body can be read, but it is no object made of members. -/
def IsMisshapen (body : Body) : Prop :=
  ∃ root, body.json? = some root ∧ ∀ payload, root ≠ .ofMembers payload

/-- A wordless body is a payload with an error that has no text. -/
def IsWordless (body : Body) : Prop :=
  ∃ payload, body.json? = some (.ofMembers payload) ∧ errorMessages? (.ofMembers payload) = none

/-- Only the last two of these shapes have messages to look for. -/
inductive Shape (body : Body) : Prop
  | unreadable (none : body.json? = none)
  | misshapen (misshapen : body.IsMisshapen)
  | worded (payload : Members) (messages : List String)
      (read : body.json? = some (.ofMembers payload))
      (texts : errorMessages? (.ofMembers payload) = some messages)
  | wordless (wordless : body.IsWordless)

theorem shape (body : Body) : body.Shape := by
  cases read : body.json? with
  | none => exact .unreadable read
  | some root =>
      by_cases isPayload : ∃ payload, root = .ofMembers payload
      · obtain ⟨payload, rfl⟩ := isPayload
        cases texts : errorMessages? (.ofMembers payload) with
        | none => exact .wordless ⟨payload, read, texts⟩
        | some messages => exact .worded payload messages read texts
      · exact .misshapen ⟨root, read, not_exists.mp isPayload⟩

theorem not_isWordless_of_worded {body : Body} {payload : Members} {messages : List String}
    (read : body.json? = some (.ofMembers payload))
    (texts : errorMessages? (.ofMembers payload) = some messages) : ¬ body.IsWordless := by
  intro wordless
  obtain ⟨other, again, lost⟩ := wordless
  rw [← Option.some.inj (read.symm.trans again), texts] at lost
  cases lost

theorem IsMisshapen.not_payload {body : Body} (misshapen : body.IsMisshapen) (payload : Members) :
    body.json? ≠ some (.ofMembers payload) := by
  intro read
  obtain ⟨root, found, foreign⟩ := misshapen
  exact foreign payload (Option.some.inj (found.symm.trans read))

/-- The errors in bytes are all short enough to have a text. -/
theorem not_isWordless_bytes (encoded : List UInt8) : ¬ (Body.bytes encoded).IsWordless := by
  intro wordless
  obtain ⟨payload, read, lost⟩ := wordless
  obtain ⟨messages, texts⟩ := errorMessages?_of_legible payload (Json.ofBytes?_legible encoded _ read)
  cases lost.symm.trans texts

theorem payload_of_json? {body : Body} {payload : Members}
    (read : body.json? = some (.ofMembers payload)) (status : Option Int) :
    body.payload status = .ok payload :=
  (body.payload_eq_ok_iff status payload).mpr read

/-- The protocol is blamed for a misshapen body, whatever the status is. -/
theorem IsMisshapen.payload {body : Body} (misshapen : body.IsMisshapen) (status : Option Int) :
    ∃ failure, body.payload status = .error failure ∧
      failure.complaint = ⟨.failure .protocol, failure.message, status, none⟩ := by
  cases known : body.payload status with
  | ok payload =>
      exact absurd ((body.payload_eq_ok_iff status payload).mp known) (misshapen.not_payload payload)
  | error failure =>
      refine ⟨failure, rfl, ?_⟩
      obtain ⟨root, read, -⟩ := misshapen
      rw [Body.payload, read] at known
      dsimp only at known
      split at known
      · split at known
        · cases known
        · cases known
          rfl
      · cases known
        rfl

end Body

theorem Failure.isSuccess_eq_false {status : Int} (failing : ¬ (200 ≤ status ∧ status < 300)) :
    Failure.isSuccess status = false := by
  simpa [isSuccess] using failing

/-- The messages of a failure change nothing else in a complaint. -/
theorem Failure.ofStatus_sameKind (status : Int) (messages : List String) :
    (Failure.ofStatus status messages).complaint.SameKind (Failure.ofStatus status []).complaint := by
  unfold ofStatus
  split
  · exact ⟨rfl, rfl, rfl⟩
  · split
    · exact ⟨rfl, rfl, rfl⟩
    · split <;> exact ⟨rfl, rfl, rfl⟩

/-- The protocol is blamed for a status only below those of the client and of the server. -/
theorem Failure.ofStatus_protocol_iff (status : Int) (message : String) :
    (Complaint.mk (.failure .protocol) message (some status) none).SameKind
      (Failure.ofStatus status []).complaint ↔ status < 400 := by
  unfold ofStatus
  split
  · rename_i same
    subst same
    exact iff_of_false (fun kind => nomatch kind.1) (by decide)
  · split
    · exact iff_of_false (fun kind => nomatch kind.1) (by omega)
    · split
      · exact iff_of_false (fun kind => nomatch kind.1) (by omega)
      · exact iff_of_true ⟨rfl, rfl, rfl⟩ (by omega)

section Conclusion

variable {status : Int} (failing : ¬ (200 ≤ status ∧ status < 300))
include failing

/-- The status alone is always a failure without messages. -/
theorem sortAnswer_null : sortAnswer .null (some status) = .failure (.ofStatus status []) := by
  rw [sortAnswer.eq_def]
  simp [Failure.isSuccess_eq_false failing, errorMessages?, errorItems, Value.readable?]

theorem conclusion_unreadable {body : Body} (unreadable : body.json? = none) :
    (Answer.response (some status) body).conclusion =
      .error (.failed (.ofStatus status [])) := by
  simp [Answer.conclusion, Body.payload, unreadable, unreadableFailure,
    Failure.isSuccess_eq_false failing]

theorem conclusion_worded {body : Body} {payload : Members} {messages : List String}
    (read : body.json? = some (.ofMembers payload))
    (texts : errorMessages? (.ofMembers payload) = some messages) :
    (Answer.response (some status) body).conclusion =
      .error (.failed (.ofStatus status messages)) := by
  simp [Answer.conclusion, Body.payload_of_json? read, sortAnswer,
    Failure.isSuccess_eq_false failing, texts]

theorem conclusion_wordless {body : Body} (wordless : body.IsWordless) :
    (Answer.response (some status) body).conclusion = .error .overlongMessage := by
  obtain ⟨payload, read, lost⟩ := wordless
  simp [Answer.conclusion, Body.payload_of_json? read, sortAnswer,
    Failure.isSuccess_eq_false failing, lost]

end Conclusion

theorem conclusion_misshapen {body : Body} (misshapen : body.IsMisshapen) (status : Option Int) :
    ∃ failure, (Answer.response status body).conclusion = .error (.failed failure) ∧
      failure.complaint = ⟨.failure .protocol, failure.message, status, none⟩ := by
  obtain ⟨failure, refused, blamed⟩ := misshapen.payload status
  refine ⟨failure, ?_, blamed⟩
  rw [Answer.conclusion, refused]

/-- The last answer of a request is concluded when the retry refuses another attempt. -/
theorem attempts_settles (retry : Retry) (path : String) (attempt : Nat) (script : Script) :
    ∃ count, (attempts retry path attempt script).requests = List.replicate (count + 1) path ∧
      ∀ status body, script.answer (count + 1) = .response (some status) body →
        retry.allows (attempt + count : Nat) (some status) = .ok false →
          (attempts retry path attempt script).result =
            (Answer.response (some status) body).conclusion := by
  obtain ⟨count, ends⟩ := attempts_endsAfter retry path attempt script
  refine ⟨count, ends.requests, ?_⟩
  intro status body answered final
  have concludes := ends.concludes
  rw [answered] at concludes
  refine (concludes ?_).2
  intro stumbles
  rcases stumbles with ⟨cause, unknown⟩ | ⟨repeats, -⟩
  · cases final.symm.trans unknown
  · cases final.symm.trans repeats

namespace Transport

/-- A request ends with an answer that the retry does not repeat. -/
structure EndsWith (transport : Transport) (endpoint : String) (status : Int) (body : Body) :
    Prop where
  answered : transport.script.answer (transport.get endpoint).requests.length =
    .response (some status) body
  final : transport.config.retry.allows (transport.get endpoint).requests.length (some status) =
    .ok false

/-- The complaint of a request is the one that the status alone asks for, apart from its
message. -/
def ReportsStatus (transport : Transport) (endpoint : String) (status : Int) : Prop :=
  ∃ failure expected, (transport.get endpoint).result = .error (.failed failure) ∧
    sortAnswer .null (some status) = .failure expected ∧
      failure.complaint.SameKind expected.complaint

variable {transport : Transport} {endpoint : String} {status : Int} {body : Body}

/-- The result is what the last answer comes to. -/
theorem EndsWith.result (ends : transport.EndsWith endpoint status body)
    (isOpen : transport.closed = false) :
    (transport.get endpoint).result = (Answer.response (some status) body).conclusion := by
  have opened := transport.get_of_isOpen endpoint isOpen
  obtain ⟨count, requests, settles⟩ :=
    attempts_settles transport.config.retry (pathOf endpoint) 1 transport.script
  have asked : (transport.get endpoint).requests.length = count + 1 := by
    rw [opened, requests, List.length_replicate]
  obtain ⟨answered, final⟩ := ends
  rw [asked] at answered final
  rw [opened]
  exact settles status body answered (Nat.add_comm 1 count ▸ final)

theorem reportsStatus_iff (failing : ¬ (200 ≤ status ∧ status < 300))
    (failure : Failure) (failed : (transport.get endpoint).result = .error (.failed failure)) :
    transport.ReportsStatus endpoint status ↔
      failure.complaint.SameKind (Failure.ofStatus status []).complaint := by
  constructor
  · intro reports
    obtain ⟨other, expected, same, sorted, kind⟩ := reports
    cases failed.symm.trans same
    cases (sortAnswer_null failing).symm.trans sorted
    exact kind
  · exact fun kind => ⟨failure, _, failed, sortAnswer_null failing, kind⟩

/-- Each shape of a body settles whether its complaint is the one that the status asks for. -/
theorem EndsWith.reportsStatus_iff_shape (ends : transport.EndsWith endpoint status body)
    (isOpen : transport.closed = false) (failing : ¬ (200 ≤ status ∧ status < 300)) :
    transport.ReportsStatus endpoint status ↔
      ¬ (body.IsMisshapen ∧ 400 ≤ status) ∧ ¬ body.IsWordless := by
  have result := ends.result isOpen
  cases body.shape with
  | unreadable none =>
      rw [reportsStatus_iff failing _ (result.trans (conclusion_unreadable failing none))]
      refine iff_of_true (Failure.ofStatus_sameKind status []) ⟨?_, ?_⟩
      · intro both
        obtain ⟨root, read, -⟩ := both.1
        cases none.symm.trans read
      · intro wordless
        obtain ⟨payload, read, -⟩ := wordless
        cases none.symm.trans read
  | misshapen misshapen =>
      obtain ⟨failure, refused, blamed⟩ := conclusion_misshapen misshapen (some status)
      have worded : ¬ body.IsWordless := by
        intro wordless
        obtain ⟨payload, read, -⟩ := wordless
        exact misshapen.not_payload payload read
      rw [reportsStatus_iff failing _ (result.trans refused), blamed,
        Failure.ofStatus_protocol_iff, ← Int.not_le]
      exact ⟨fun below => ⟨fun both => below both.2, worded⟩,
        fun fine above => fine.1 ⟨misshapen, above⟩⟩
  | worded payload messages read texts =>
      rw [reportsStatus_iff failing _ (result.trans (conclusion_worded failing read texts))]
      exact iff_of_true (Failure.ofStatus_sameKind status messages)
        ⟨fun both => both.1.not_payload payload read, Body.not_isWordless_of_worded read texts⟩
  | wordless wordless =>
      refine iff_of_false ?_ fun fine => fine.2 wordless
      intro reports
      obtain ⟨failure, -, failed, -⟩ := reports
      cases failed.symm.trans (result.trans (conclusion_wordless failing wordless))

end Transport

/-- The status of a failing answer decides the kind of the complaint, unless the body is misshapen
while the status blames the client or the server. The protocol is then blamed in place of them. No
body of bytes lacks a message. The keys of a body are those that decoding leaves apart. -/
theorem status_decides_unless_misshapen (transport : Transport) (endpoint : String) (status : Int)
    (body : Body) (isOpen : transport.closed = false)
    (ends : transport.EndsWith endpoint status body)
    (failing : ¬ (200 ≤ status ∧ status < 300)) :
    (transport.ReportsStatus endpoint status ↔
      ¬ (body.IsMisshapen ∧ 400 ≤ status) ∧ ¬ body.IsWordless) ∧
    (body.IsMisshapen → ∃ failure, (transport.get endpoint).result = .error (.failed failure) ∧
      failure.complaint = ⟨.failure .protocol, failure.message, some status, none⟩) ∧
    (body.IsWordless → (transport.get endpoint).result = .error .overlongMessage) ∧
    ∀ encoded, body = .bytes encoded → ¬ body.IsWordless := by
  have result := ends.result isOpen
  refine ⟨ends.reportsStatus_iff_shape isOpen failing, ?_, ?_, ?_⟩
  · intro misshapen
    rw [result]
    exact conclusion_misshapen misshapen (some status)
  · exact fun wordless => result.trans (conclusion_wordless failing wordless)
  · intro encoded same
    rw [same]
    exact Body.not_isWordless_bytes encoded

/-- The connection is lost and then the server is busy, before the job turns out to be unknown. -/
def mislaid (body : List UInt8) : Transport where
  config := Config.standard
  owned := true
  closed := false
  script := [.unreachable "down", .response (some 503) (.bytes []),
    .response (some 404) (.bytes body)]

/-- The list in this body hides that the job is unknown. -/
theorem mislaid_hidden :
    (mislaid [0x5B, 0x5D]).closed = false ∧
      (mislaid [0x5B, 0x5D]).EndsWith "jobs" 404 (.bytes [0x5B, 0x5D]) ∧
        ¬ (mislaid [0x5B, 0x5D]).ReportsStatus "jobs" 404 := by
  have failed : ((mislaid [0x5B, 0x5D]).get "jobs").result =
      .error (.failed (.notObject (some 404))) := by rfl
  refine ⟨rfl, ⟨rfl, rfl⟩, ?_⟩
  intro reports
  obtain ⟨kind, -⟩ := (Transport.reportsStatus_iff (by decide) _ failed).mp reports
  cases kind

/-- An object without members hides no status. -/
theorem mislaid_reported : (mislaid [0x7B, 0x7D]).ReportsStatus "jobs" 404 := by
  have read : (Body.bytes [0x7B, 0x7D]).json? = some (.ofMembers []) := by rfl
  have ends : (mislaid [0x7B, 0x7D]).EndsWith "jobs" 404 (.bytes [0x7B, 0x7D]) := ⟨rfl, rfl⟩
  obtain ⟨reports, -, -, worded⟩ :=
    status_decides_unless_misshapen _ "jobs" 404 _ rfl ends (by decide)
  exact reports.mpr ⟨fun both => both.1.not_payload [] read, worded _ rfl⟩

end CheckpointReport
