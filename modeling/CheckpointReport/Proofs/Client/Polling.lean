/-
This file proves that a polling client gets back the records that were summed up. Attempts may be
lost on the way, as long as fewer are lost than are allowed.
-/

import CheckpointReport.Proofs.Client.Closing
import CheckpointReport.Proofs.Report.RoundTrip
import CheckpointReport.Proofs.Summary.Typed
import CheckpointReport.Proofs.Transport.Outcome

namespace CheckpointReport

/-- A transport recovers when its script loses fewer attempts than are allowed before it gets a
body with success. Its delays are integers. -/
structure Transport.Recovers (transport : Transport) (lost : Nat) (body : Body) : Prop where
  isOpen : transport.closed = false
  valid : transport.config.check = .ok ()
  initialDelay : transport.config.retry.initialDelay.IsInteger
  maxDelay : transport.config.retry.maxDelay.IsInteger
  allowed : ∃ limit, transport.config.retry.maxAttempts.number? = some limit ∧
    Number.less (.int lost) limit = true
  script : ∃ retried status rest, retried.length = lost ∧
    (∀ answer ∈ retried, answer.Repeatable transport.config.retry) ∧
      Failure.isSuccess status = true ∧
        transport.script = retried ++ .response (some status) body :: rest

/-- A success is read whatever its attempt is, since no checked retry lists its status. -/
theorem Answer.not_repeatable_of_success (retry : Retry) (status : Int) (body : Body)
    (valid : retry.check = .ok ()) (success : Failure.isSuccess status = true) :
    ¬ (Answer.response (some status) body).Repeatable retry := by
  obtain ⟨_, _, _, keeps⟩ := retry.numbers_of_check valid
  intro repeatable
  obtain ⟨listed, member, same⟩ := repeatable
  have bounds := isServerStatus?_of_same listed status (keeps.statuses listed member) same
  simp only [Failure.isSuccess, Bool.and_eq_true, decide_eq_true_eq] at success
  omega

theorem Answer.conclusion_of_success (status : Int) (body : Body) (payload : Members)
    (success : Failure.isSuccess status = true) (read : body.json? = some (.ofMembers payload)) :
    (Answer.response (some status) body).conclusion = .ok payload := by
  rw [conclusion, (body.payload_eq_ok_iff (some status) payload).mpr read]
  dsimp only
  rw [sortAnswer, if_pos success]

/-- A recovering transport asks once for each lost attempt and once more. -/
theorem Transport.Recovers.get {transport : Transport} {lost : Nat} {body : Body}
    (recovers : transport.Recovers lost body) (endpoint : String) (payload : Members)
    (read : body.json? = some (.ofMembers payload)) :
    (transport.get endpoint).result = .ok payload ∧
      (transport.get endpoint).requests = List.replicate (lost + 1) (pathOf endpoint) := by
  obtain ⟨retried, status, rest, rfl, repeatable, success, scripted⟩ := recovers.script
  obtain ⟨limit, limited, below⟩ := recovers.allowed
  have checked := transport.config.retry_of_check recovers.valid
  have reached := limit.atMost_of_int_less retried.length below
  have repeats (step : Nat) (inside : step < retried.length) :
      (transport.script.answer (step + 1)).Repeats transport.config.retry (1 + step) := by
    have found : transport.script.answer (step + 1) = retried[step] := by
      rw [scripted, Script.answer, Nat.add_sub_cancel, List.getElem?_append_left inside,
        List.getElem?_eq_getElem inside, Option.getD_some]
    rw [Answer.repeats_iff _ limit _ _ limited, found]
    refine ⟨?_, repeatable _ (List.getElem_mem inside)⟩
    rw [Bool.eq_false_iff] at reached ⊢
    intro early
    exact reached (limit.atMost_int_mono _ _ (by omega) early)
  have last : transport.script.answer (retried.length + 1) = .response (some status) body := by
    rw [scripted]
    simp [Script.answer]
  have final (attempt : Nat) : ¬ (transport.script.answer (retried.length + 1)).Repeats
      transport.config.retry attempt := by
    rw [Answer.repeats_iff _ limit _ _ limited, last]
    intro repeats
    exact Answer.not_repeatable_of_success _ status body checked success repeats.2
  have opened := transport.get_of_isOpen endpoint recovers.isOpen
  obtain ⟨delays, before, ends, -, concluded⟩ | ⟨⟨part, float⟩, -⟩ :=
    attempts_outcome transport.config.retry (pathOf endpoint)
      (transport.config.retry.isNumeric_of_check checked) 1 (le_refl 1) transport.script
      (fun _ => by omega)
  · have same : delays.length = retried.length := by
      rcases Nat.lt_trichotomy delays.length retried.length with less | same | more
      · exact absurd (repeats _ less) ends
      · exact same
      · exact absurd (before _ more) (final _)
    rw [same, last] at concluded
    rw [opened]
    exact ⟨concluded.result.trans (Answer.conclusion_of_success status body payload success read),
      same ▸ concluded.requests⟩
  · obtain ⟨number, integer⟩ := recovers.initialDelay
    cases integer.symm.trans float

/-- Nothing is dropped from an endpoint that starts with no slash. -/
theorem pathOf_of_head (endpoint : String) (starts : endpoint.toList.head? ≠ some '/') :
    pathOf endpoint = endpoint := by
  have kept : endpoint.toList.dropWhile (· = '/') = endpoint.toList := by
    cases known : endpoint.toList with
    | nil => rfl
    | cons c rest =>
        rw [known, List.head?_cons] at starts
        exact List.dropWhile_cons_of_neg (by simpa using starts)
  rw [pathOf, kept, String.ofList_toList]

theorem pathOf_checkpointsPath (job : String) :
    pathOf (checkpointsPath job) = checkpointsPath job :=
  pathOf_of_head _ (by simp [checkpointsPath])

theorem pathOf_detailsPath (job number : String) :
    pathOf (detailsPath job number) = detailsPath job number :=
  pathOf_of_head _ (by simp [detailsPath, checkpointsPath])

/-- A history of written records is read back. -/
theorem decodeHistory_encode (reports : List Report)
    (typed : ∀ report ∈ reports, report.WellTyped) :
    decodeHistory [(historyKey, .list (reports.map Report.encode))] = .ok reports := by
  have decoded : (reports.map Report.encode).mapM Report.decode = .ok reports := by
    rw [Success.mapM_eq_ok_iff, List.forall₂_map_left_iff, List.forall₂_same]
    intro report member
    exact report.decode_encode (typed report member)
  simp [decodeHistory, findEntry, decoded]

namespace Client

section Recovery

variable (client : Client) (job : Value) (id : String) (lost : Nat) (body : Body)
variable (isOpen : client.closed = false) (named : jobId? job = some id)
variable (recovers : client.transport.Recovers lost body)
include isOpen named recovers

/-- A history of typed records is returned once an answer comes through. -/
theorem history_recovers (reports : List Report) (typed : ∀ report ∈ reports, report.WellTyped)
    (read : body.json? =
      some (.ofMembers [(historyKey, .list (reports.map Report.encode))])) :
    (client.history job).result = .ok (.records reports) ∧
      (client.history job).requests = List.replicate (lost + 1) (checkpointsPath id) := by
  obtain ⟨result, requests⟩ := recovers.get (checkpointsPath id) _ read
  have decoded : ((client.transport.get (checkpointsPath id)).map decodeRecords).result =
      .ok reports := by
    change decodeRecords (client.transport.get (checkpointsPath id)).result = _
    rw [result]
    exact decodeHistory_encode reports typed
  rw [client.history_of_known isOpen job id named, withHistory, decoded]
  exact ⟨rfl, requests.trans (congrArg _ (pathOf_checkpointsPath id))⟩

/-- An identifier whose numeral is too long has no path, so nothing is asked for. -/
theorem details_recovers (checkpoint : Value) (number : Int) (report : Report)
    (typed : report.WellTyped) (counted : checkpointId? checkpoint = some number)
    (read : body.json? = some report.encode) :
    (client.details job checkpoint).result =
        (if Text.fitsNumeral number then .ok (.record report) else .error .overlongId) ∧
      ∀ numeral, Text.numeral? number = some numeral →
        (client.details job checkpoint).requests =
          List.replicate (lost + 1) (detailsPath id numeral) := by
  cases fits : Text.fitsNumeral number with
  | false =>
      rw [client.details_of_overlong isOpen job checkpoint id number named counted fits]
      refine ⟨rfl, ?_⟩
      intro numeral written
      rw [Text.numeral?, fits] at written
      cases written
  | true =>
      obtain ⟨result, requests⟩ := recovers.get (detailsPath id (toString number)) _ read
      rw [client.details_of_known isOpen job checkpoint id number named counted fits]
      refine ⟨?_, ?_⟩
      · have decoded : Report.decode (.ofMembers report.members) = .ok report :=
          report.decode_encode typed
        change decodeDetails (client.transport.get _).result = _
        rw [result]
        simp [decodeDetails, decoded]
      · intro numeral written
        rw [Text.numeral?, fits] at written
        cases written
        exact requests.trans (congrArg _ (pathOf_detailsPath id (toString number)))

end Recovery

end Client

/-- A polling client gets back what was summed up, in order and with the tasks in order, however
many attempts are lost before. A single record is got back as well when its identifier has a
numeral. -/
theorem polling_returns_summaries (client : Client) (job : Value) (id : String)
    (taken : List (Snapshot × Bool)) (reports : List Report) (lost : Nat) (body : Body)
    (typed : ∀ item ∈ taken, item.1.WellTyped)
    (summed : List.Forall₂ (fun item report =>
      ((Source.snapshot item.1).summarize item.2).result = .ok report) taken reports)
    (isOpen : client.closed = false) (named : jobId? job = some id)
    (recovers : client.transport.Recovers lost body) :
    (body.json? = some (.ofMembers [(historyKey, .list (reports.map Report.encode))]) →
      (client.history job).result = .ok (.records reports) ∧
        (client.history job).requests = List.replicate (lost + 1) (checkpointsPath id)) ∧
    ∀ report ∈ reports, body.json? = some report.encode →
      ∀ checkpoint number, checkpointId? checkpoint = some number →
        (client.details job checkpoint).result =
            (if Text.fitsNumeral number then .ok (.record report) else .error .overlongId) ∧
          ∀ numeral, Text.numeral? number = some numeral →
            (client.details job checkpoint).requests =
              List.replicate (lost + 1) (detailsPath id numeral) := by
  have reported : ∀ report ∈ reports, report.WellTyped := by
    refine Success.forall_results summed ?_
    intro item member report done
    exact Report.wellTyped_of_summarize item.1 item.2 report (typed item member) done
  refine ⟨?_, ?_⟩
  · intro read
    exact client.history_recovers job id lost body isOpen named recovers reports reported read
  · intro report member read checkpoint number counted
    exact client.details_recovers job id lost body isOpen named recovers checkpoint number report
      (reported report member) counted read

/-- The attributes of the savepoint have their declared types. -/
theorem abandoned_wellTyped : abandoned.WellTyped where
  checkpointId := ⟨_, rfl⟩
  trigger := ⟨_, rfl⟩
  totalSubtasks := ⟨_, rfl⟩
  tasks := by
    intro entries same entry member
    cases same
    obtain rfl := List.mem_singleton.mp member
    exact ⟨_, rfl, ⟨_, rfl⟩, ⟨_, rfl⟩, ⟨_, rfl⟩, ⟨_, rfl⟩, ⟨_, rfl⟩, ⟨_, rfl⟩, ⟨_, rfl⟩, ⟨_, rfl⟩⟩
  acknowledged := ⟨_, rfl⟩
  latestAck := ⟨_, rfl⟩
  checkpointedSize := ⟨_, rfl⟩
  stateSize := ⟨_, rfl⟩
  processedData := ⟨_, rfl⟩
  persistedData := ⟨_, rfl⟩
  phase := ⟨⟨_, rfl⟩, Or.inr ⟨_, rfl⟩⟩

/-- This client loses its connection, meets a busy server and is answered at its third attempt. -/
def persistent (body : Body) : Client where
  transport := { patient with
    script := [.unreachable "refused", .response (some 503) (.value .null),
      .response (some 200) body] }
  closed := false

/-- A lost connection and a busy server are both tried again. -/
theorem persistent_recovers (body : Body) : (persistent body).transport.Recovers 2 body where
  isOpen := rfl
  valid := by
    change patient.config.check = .ok ()
    decide
  initialDelay := ⟨1, rfl⟩
  maxDelay := ⟨60, rfl⟩
  allowed := ⟨.int 3, rfl, by decide⟩
  script := by
    refine ⟨[.unreachable "refused", .response (some 503) (.value .null)], 200, [], rfl, ?_, rfl,
      rfl⟩
    rw [List.forall_mem_cons, List.forall_mem_singleton]
    exact ⟨trivial, .int 503, by simp [persistent, patient, Retry.standard], rfl⟩

/-- The record of the savepoint is returned after a lost connection and a busy server. -/
theorem abandoned_polled :
    ∃ report, ((Source.snapshot abandoned).summarize true).result = .ok report ∧
      ((persistent (.value (.ofMembers [(historyKey, .list [report.encode])]))).history
        (.text "00112233445566778899aabbccddeeff")).result = .ok (.records [report]) := by
  cases done : ((Source.snapshot abandoned).summarize true).result with
  | error refusal => cases done
  | ok report =>
      have typed : ∀ item ∈ [(abandoned, true)], item.1.WellTyped := by
        rw [List.forall_mem_singleton]
        exact abandoned_wellTyped
      have named : jobId? (.text "00112233445566778899aabbccddeeff") =
          some "00112233445566778899aabbccddeeff" := by decide
      exact ⟨report, rfl, ((polling_returns_summaries _ _ _ [(abandoned, true)] [report] 2 _ typed
        (.cons done .nil) rfl named (persistent_recovers _)).1 rfl).1⟩

end CheckpointReport
