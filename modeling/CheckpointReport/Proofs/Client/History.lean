/-
This file tells what a client makes of a history. Either every item becomes a record, or the first
bad one is all that is told.
-/

import CheckpointReport.Complaint
import CheckpointReport.Proofs.Client.Closing

namespace CheckpointReport

/-- This is what is told of a history that may be missing. Nothing but the history of a payload and
no item after the first bad one plays a part. -/
inductive HistoryTells : Option Value → Except ClientError (List Report) → Prop
  | missing : HistoryTells none (.ok [])
  | foreign (value : Value) (unlisted : ∀ items, value ≠ .list items) :
      HistoryTells (some value) (.error .historyNotList)
  | records (items : List Value) (reports : List Report)
      (each : List.Forall₂ (fun item report => Report.decode item = .ok report) items reports) :
      HistoryTells (some (.list items)) (.ok reports)
  | spoilt (before : List Value) (item : Value) (after : List Value) (malformed : Malformed)
      (fine : ∀ earlier ∈ before, ∃ report, Report.decode earlier = .ok report)
      (bad : Report.decode item = .error malformed) :
      HistoryTells (some (.list (before ++ item :: after))) (.error (.malformed malformed))

/-- A payload tells one thing of its history. -/
theorem historyTells_iff (payload : Members) (told : Except ClientError (List Report)) :
    HistoryTells (findEntry historyKey payload) told ↔ decodeHistory payload = told := by
  constructor
  · intro tells
    rw [decodeHistory]
    generalize findEntry historyKey payload = found at tells
    cases tells with
    | missing => rfl
    | foreign value unlisted =>
        cases value with
        | list items => exact absurd rfl (unlisted items)
        | _ => rfl
    | records items reports each =>
        simp only [Success.mapM_eq_ok_iff.mpr each]
    | spoilt before item after malformed fine bad =>
        have failed : (before ++ item :: after).mapM Report.decode = .error malformed :=
          Success.mapM_eq_error_iff.mpr ⟨before, item, after, rfl, fine, bad⟩
        simp only [failed]
  · rintro rfl
    rw [decodeHistory]
    cases findEntry historyKey payload with
    | none => exact .missing
    | some value =>
        cases value with
        | list items =>
            dsimp only
            cases decoded : items.mapM Report.decode with
            | ok reports => exact .records items reports (Success.mapM_eq_ok_iff.mp decoded)
            | error malformed =>
                obtain ⟨before, item, after, rfl, fine, bad⟩ := Success.mapM_eq_error_iff.mp decoded
                exact .spoilt before item after malformed fine bad
        | _ => exact .foreign _ fun items => Value.noConfusion

namespace Client

/-- The journal is told about the history after everything that the request wrote. -/
theorem withHistory_result (id : String) (exchange : Exchange ClientError (List Report)) :
    (withHistory id exchange).result = exchange.result.map Reply.records ∧
      (∀ reports, exchange.result = .ok reports →
        (withHistory id exchange).log = exchange.log ++ [.history id reports.length]) ∧
      ∀ error, exchange.result = .error error → (withHistory id exchange).log = exchange.log := by
  rw [withHistory]
  cases exchange.result with
  | ok reports =>
      refine ⟨rfl, ?_, fun error failed => by cases failed⟩
      intro others same
      cases same
      rfl
  | error error => exact ⟨rfl, fun reports done => (by cases done), fun _ _ => rfl⟩

end Client

/-- A client returns one record for each item of a history, in the order of the items, or it fails
as the first bad item does. A missing history is empty, and one that is no list is a failure of the
protocol. An entry about the history is written exactly when records are returned. The keys of the
payload are those that decoding leaves apart. -/
theorem history_all_or_nothing (client : Client) (job : Value) (id : String) (payload : Members)
    (isOpen : client.closed = false) (named : jobId? job = some id)
    (answered : (client.transport.get (checkpointsPath id)).result = .ok payload) :
    let get := client.transport.get (checkpointsPath id)
    let step := client.history job
    (∃ told, (∀ other, HistoryTells (findEntry historyKey payload) other ↔ other = told) ∧
      step.result = told.map Reply.records ∧
      (∀ reports, told = .ok reports → step.log = get.log ++ [.history id reports.length]) ∧
      ∀ error, told = .error error → step.log = get.log) ∧
    (∀ name count, .history name count ∉ get.log) ∧
    ClientError.historyNotList.complaint? = some (.plain (.failure .protocol) historyMessage) := by
  intro get step
  have decoded : (get.map Client.decodeRecords).result = decodeHistory payload := by
    change Client.decodeRecords get.result = _
    rw [show get.result = .ok payload from answered]
    rfl
  obtain ⟨result, written, unwritten⟩ :=
    Client.withHistory_result id (get.map Client.decodeRecords)
  rw [decoded] at result written unwritten
  have stepped : step = Client.withHistory id (get.map Client.decodeRecords) :=
    client.history_of_known isOpen job id named
  refine ⟨⟨decodeHistory payload, ?_, ?_, ?_, ?_⟩, ?_, rfl⟩
  · intro other
    exact (historyTells_iff payload other).trans eq_comm
  · exact stepped ▸ result
  · exact stepped ▸ written
  · exact stepped ▸ unwritten
  · intro name count member
    exact client.transport.get_log (checkpointsPath id) _ member

/-- This client gets one answer with a history. -/
def chronicled (history : Value) : Client where
  transport := { patient with
    script := [.response (some 200) (.value (.ofMembers [(historyKey, history)]))] }
  closed := false

/-- A history with an item that is no record fails as this item does. -/
theorem chronicled_spoilt :
    ((chronicled (.list [.null])).history (.text "00112233445566778899aabbccddeeff")).result =
      .error (.malformed .record) := by
  have named : jobId? (.text "00112233445566778899aabbccddeeff") =
      some "00112233445566778899aabbccddeeff" := by decide
  obtain ⟨⟨told, only, result, -⟩, -⟩ :=
    history_all_or_nothing (chronicled (.list [.null])) _ _ _ rfl named rfl
  have spoilt := (only (.error (.malformed .record))).mp
    (.spoilt [] .null [] .record (List.forall_mem_nil _) rfl)
  rw [result, ← spoilt]
  rfl

end CheckpointReport
