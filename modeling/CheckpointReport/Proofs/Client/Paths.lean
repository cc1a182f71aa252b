/-
This file tells which paths a client asks for. Every one of them belongs to a question that can be
read off it, and a call without such a question asks for nothing.
-/

import CheckpointReport.Complaint
import CheckpointReport.Proofs.Client.Closing
import CheckpointReport.Proofs.Client.Polling
import CheckpointReport.Proofs.Text.Numeral
import Mathlib.Tactic.IntervalCases

namespace CheckpointReport

/-- The identifier of a job consists of 32 of these digits. -/
structure IsJobId (id : String) : Prop where
  length : id.toList.length = 32
  digits : ∀ c ∈ id.toList, c ∈ "0123456789abcdef".toList

/-- The digits of a job are the small hexadecimal ones. -/
theorem isJobDigit_iff (c : Char) : isJobDigit c = true ↔ c ∈ "0123456789abcdef".toList := by
  constructor
  · intro digit
    simp only [isJobDigit, Bool.or_eq_true, Bool.and_eq_true, decide_eq_true_eq, Char.le_def,
      UInt32.le_iff_toNat_le] at digit
    change (48 ≤ c.toNat ∧ c.toNat ≤ 57) ∨ (97 ≤ c.toNat ∧ c.toNat ≤ 102) at digit
    rw [← Char.ofNat_toNat c]
    generalize c.toNat = code at digit
    obtain ⟨lower, upper⟩ | ⟨lower, upper⟩ := digit
    · interval_cases code <;> decide
    · interval_cases code <;> decide
  · intro listed
    have all : "0123456789abcdef".toList.all isJobDigit = true := by decide
    exact List.all_eq_true.mp all c listed

/-- Only a text of the right form names a job, and it is taken as it is. -/
theorem jobId?_eq_some_iff (value : Value) (id : String) :
    jobId? value = some id ↔ value = .text id ∧ IsJobId id := by
  have valid (content : String) :
      content.length = 32 ∧ content.toList.all isJobDigit = true ↔ IsJobId content := by
    rw [List.all_eq_true, ← String.length_toList]
    simp only [isJobDigit_iff]
    exact ⟨fun given => ⟨given.1, given.2⟩, fun given => ⟨given.length, given.digits⟩⟩
  cases value with
  | text content =>
      rw [jobId?, Option.ite_none_right_eq_some, valid, Value.text.injEq]
      constructor
      · rintro ⟨isId, same⟩
        cases same
        exact ⟨rfl, isId⟩
      · rintro ⟨rfl, isId⟩
        exact ⟨isId, rfl⟩
  | _ => simp [jobId?]

theorem jobId?_eq_none_iff (value : Value) :
    jobId? value = none ↔ ∀ id, value = .text id → ¬ IsJobId id := by
  simp only [Option.eq_none_iff_forall_ne_some, ne_eq, jobId?_eq_some_iff, not_and]

theorem checkpointId?_eq_some_iff (value : Value) (number : Int) :
    checkpointId? value = some number ↔ ∃ natural : Nat, number = natural ∧ value = .int natural := by
  cases value with
  | int other =>
      rw [checkpointId?]
      cases other with
      | ofNat natural => simp [eq_comm]
      | negSucc natural => simp
  | _ => simp [checkpointId?]

theorem checkpointId?_eq_none_iff (value : Value) :
    checkpointId? value = none ↔ ∀ natural : Nat, value ≠ .int natural := by
  rw [Option.eq_none_iff_forall_ne_some]
  constructor
  · intro unknown natural same
    exact unknown natural ((checkpointId?_eq_some_iff value natural).mpr ⟨natural, rfl, same⟩)
  · intro other number known
    obtain ⟨natural, -, same⟩ := (checkpointId?_eq_some_iff value number).mp known
    exact other natural same

/-- A question is about the history of a job or about one of its checkpoints. -/
inductive Question where
  | history (job : String)
  | details (job : String) (number : Nat)

namespace Question

def job : Question → String
  | .history job => job
  | .details job _ => job

def path : Question → String
  | .history job => "jobs/" ++ job ++ "/checkpoints"
  | .details job number => "jobs/" ++ job ++ "/checkpoints/details/" ++ toString number

/-- The number of a checkpoint must be short enough for a numeral. -/
structure WellFormed (question : Question) : Prop where
  job : IsJobId question.job
  number : ∀ job number, question = .details job number → number < 10 ^ Text.numeralLimit

/-- What follows the checkpoints of the job in a path tells the rest of the question. -/
def tail : Question → String
  | .history _ => ""
  | .details _ number => "/details/" ++ toString number

theorem path_eq (question : Question) :
    question.path = "jobs/" ++ question.job ++ ("/checkpoints" ++ question.tail) := by
  cases question with
  | history id => simp only [path, job, tail, String.append_empty]
  | details id number =>
      have parts : "/checkpoints/details/" = "/checkpoints" ++ "/details/" := by decide
      simp only [path, job, tail, parts, String.append_assoc]

theorem detailsPath_eq (id : String) (number : Nat) :
    detailsPath id (toString (number : Int)) = (details id number).path := by
  rw [path_eq, detailsPath, checkpointsPath]
  simp only [job, tail, String.append_assoc]
  rfl

/-- No slash stands at the start of a path. -/
theorem pathOf_path (question : Question) : pathOf question.path = question.path := by
  cases question with
  | history id => exact pathOf_checkpointsPath id
  | details id number =>
      rw [← detailsPath_eq]
      exact pathOf_detailsPath id _

theorem tail_details_ne (id : String) (number : Nat) : (details id number).tail ≠ "" := by
  intro empty
  have characters := congrArg String.toList empty
  simp [tail] at characters

/-- No two well-formed questions share a path. -/
theorem eq_of_path_eq (one two : Question) (first : one.WellFormed) (second : two.WellFormed)
    (same : one.path = two.path) : one = two := by
  rw [path_eq, path_eq, String.append_assoc, String.append_assoc, String.append_right_inj] at same
  have lists := congrArg String.toList same
  simp only [String.toList_append] at lists
  obtain ⟨jobs, rest⟩ := List.append_inj lists (first.job.length.trans second.job.length.symm)
  have named : one.job = two.job := String.toList_injective jobs
  have tails : one.tail = two.tail := String.toList_injective (List.append_cancel_left rest)
  cases one with
  | history id =>
      cases two with
      | history other => exact congrArg history named
      | details other number => exact absurd tails.symm (tail_details_ne other number)
  | details id number =>
      cases two with
      | history other => exact absurd tails (tail_details_ne id number)
      | details other another =>
          have numerals : toString number = toString another :=
            (String.append_right_inj "/details/").mp tails
          have digits := congrArg (fun text => Nat.ofDigitChars 10 text.toList 0) numerals
          have numbers : number = another := by simpa [Nat.toString_eq_ofList_toDigits] using digits
          exact congrArg₂ details named numbers

end Question

/-- A call puts the question that its identifiers spell. -/
inductive Call.Puts : Call → Question → Prop
  | history (job : String) : Puts (.history (.text job)) (.history job)
  | details (job : String) (number : Nat) :
      Puts (.details (.text job) (.int number)) (.details job number)

/-- Some requests of an open transport are made, and all requests go to one path. -/
theorem Transport.get_requests (transport : Transport) (endpoint : String) :
    ∃ count, (transport.get endpoint).requests = List.replicate count (pathOf endpoint) ∧
      (transport.closed = false → count ≠ 0) := by
  cases state : transport.closed with
  | true =>
      refine ⟨0, ?_, fun isOpen => nomatch isOpen⟩
      rw [Transport.get, state]
      rfl
  | false =>
      obtain ⟨count, ends⟩ := attempts_endsAfter transport.config.retry (pathOf endpoint) 1
        transport.script
      rw [transport.get_of_isOpen endpoint state]
      exact ⟨count + 1, ends.requests, fun _ => Nat.succ_ne_zero count⟩

namespace Client

variable (client : Client)

theorem withHistory_requests (id : String) (exchange : Exchange ClientError (List Report)) :
    (withHistory id exchange).requests = exchange.requests := by
  rw [withHistory]
  cases exchange.result <;> rfl

/-- An open client asks for the path of the question that a call puts. -/
theorem call_requests_of_puts (isOpen : client.closed = false) (call : Call) (question : Question)
    (puts : call.Puts question) (wellFormed : question.WellFormed) :
    (client.call call).1.requests = (client.transport.get question.path).requests := by
  cases puts with
  | history id =>
      have named := (jobId?_eq_some_iff (.text id) id).mpr ⟨rfl, wellFormed.job⟩
      change (client.history (.text id)).requests = _
      rw [client.history_of_known isOpen _ id named, withHistory_requests]
      rfl
  | details id number =>
      have named := (jobId?_eq_some_iff (.text id) id).mpr ⟨rfl, wellFormed.job⟩
      have counted := (checkpointId?_eq_some_iff (.int number) number).mpr ⟨number, rfl, rfl⟩
      have fits : Text.fitsNumeral number = true :=
        (Text.fitsNumeral_iff number).mpr (wellFormed.number id number rfl)
      change (client.details (.text id) (.int number)).requests = _
      rw [client.details_of_known isOpen _ _ id number named counted fits, Question.detailsPath_eq]
      rfl

/-- A call that puts no well-formed question asks for nothing. -/
theorem puts_of_requests (call : Call) (asks : (client.call call).1.requests ≠ []) :
    client.closed = false ∧ ∃ question, call.Puts question ∧ question.WellFormed := by
  cases state : client.closed with
  | true =>
      refine absurd ?_ asks
      cases call with
      | details job checkpoint => exact congrArg _ (client.details_of_closed state job checkpoint)
      | history job => exact congrArg _ (client.history_of_closed state job)
      | _ => simp [Client.call, Client.close, state, silent, closeTransport, Exchange.silent]
  | false =>
      refine ⟨rfl, ?_⟩
      cases call with
      | details job checkpoint =>
          cases named : jobId? job with
          | none =>
              exact absurd (congrArg _ (client.details_of_unknownJob state job checkpoint named)) asks
          | some id =>
              cases counted : checkpointId? checkpoint with
              | none =>
                  exact absurd (congrArg _ (client.details_of_unknownCheckpoint state job checkpoint
                    id named counted)) asks
              | some number =>
                  cases fits : Text.fitsNumeral number with
                  | false =>
                      exact absurd (congrArg _ (client.details_of_overlong state job checkpoint id
                        number named counted fits)) asks
                  | true =>
                      obtain ⟨rfl, isId⟩ := (jobId?_eq_some_iff job id).mp named
                      obtain ⟨natural, rfl, rfl⟩ :=
                        (checkpointId?_eq_some_iff checkpoint number).mp counted
                      refine ⟨.details id natural, .details id natural, isId, ?_⟩
                      intro _ _ same
                      cases same
                      exact (Text.fitsNumeral_iff natural).mp fits
      | history job =>
          cases named : jobId? job with
          | none => exact absurd (congrArg _ (client.history_of_unknownJob state job named)) asks
          | some id =>
              obtain ⟨rfl, isId⟩ := (jobId?_eq_some_iff job id).mp named
              refine ⟨.history id, .history id, isId, ?_⟩
              intro _ _ same
              cases same
      | _ => simp [Client.call, Client.close, state, silent, closeTransport, Exchange.silent] at asks

/-- A refused call does nothing but complain. A closed client tells only that it is closed. -/
def Refuses (call : Call) (message : String) : Prop :=
  ∃ cause, client.call call = (client.silent (.error cause), client) ∧
    if client.closed then cause = .closed
    else cause.complaint? = some (.plain (.failure .invalid) message)

theorem refuses_of_closed (closed : client.closed = true) (call : Call) (message : String)
    (silent : client.call call = (client.silent (.error .closed), client)) :
    client.Refuses call message := ⟨.closed, silent, by rw [if_pos closed]⟩

theorem refuses_of_isOpen (isOpen : client.closed = false) (call : Call) (message : String)
    (cause : ClientError) (silent : client.call call = (client.silent (.error cause), client))
    (complains : cause.complaint? = some (.plain (.failure .invalid) message)) :
    client.Refuses call message := by
  refine ⟨cause, silent, ?_⟩
  rw [isOpen]
  exact complains

/-- What names no job is refused in both kinds of questions. -/
theorem refuses_unknownJob (job : Value) (unknown : jobId? job = none) :
    client.Refuses (.history job) jobIdMessage ∧
      ∀ checkpoint, client.Refuses (.details job checkpoint) jobIdMessage := by
  cases state : client.closed with
  | true =>
      refine ⟨client.refuses_of_closed state _ _ ?_, fun checkpoint =>
        client.refuses_of_closed state _ _ ?_⟩
      · exact congrArg client.advance (client.history_of_closed state job)
      · exact congrArg client.advance (client.details_of_closed state job checkpoint)
  | false =>
      refine ⟨client.refuses_of_isOpen state _ _ .jobId ?_ rfl, fun checkpoint =>
        client.refuses_of_isOpen state _ _ .jobId ?_ rfl⟩
      · exact congrArg client.advance (client.history_of_unknownJob state job unknown)
      · exact congrArg client.advance (client.details_of_unknownJob state job checkpoint unknown)

theorem refuses_unknownCheckpoint (job checkpoint : Value) (id : String)
    (named : jobId? job = some id) (unknown : checkpointId? checkpoint = none) :
    client.Refuses (.details job checkpoint) checkpointIdMessage := by
  cases state : client.closed with
  | true =>
      exact client.refuses_of_closed state _ _
        (congrArg client.advance (client.details_of_closed state job checkpoint))
  | false =>
      exact client.refuses_of_isOpen state _ _ .checkpointId (congrArg client.advance
        (client.details_of_unknownCheckpoint state job checkpoint id named unknown)) rfl

/-- Whatever a call asks for is the path of the question that it puts. -/
theorem call_asks (call : Call) : ∀ path ∈ (client.call call).1.requests,
    ∃ question, call.Puts question ∧ question.WellFormed ∧ path = question.path := by
  intro path asked
  obtain ⟨isOpen, question, puts, wellFormed⟩ :=
    client.puts_of_requests call (List.ne_nil_of_mem asked)
  obtain ⟨count, requests, -⟩ := client.transport.get_requests question.path
  rw [client.call_requests_of_puts isOpen call question puts wellFormed, requests,
    question.pathOf_path] at asked
  exact ⟨question, puts, wellFormed, List.eq_of_mem_replicate asked⟩

theorem run_asks (calls : List Call) :
    List.Forall₂ (fun call step => ∀ path ∈ step.requests,
      ∃ question, call.Puts question ∧ question.WellFormed ∧ path = question.path)
      calls (client.run calls).1 := by
  induction calls generalizing client with
  | nil => exact .nil
  | cons call rest ih => exact .cons (client.call_asks call) (ih _)

end Client

/-- Every path in a run is that of a well-formed question that its own call puts. An identifier that
is none is refused before anything happens, that of the job first. A well-formed question is asked
at least once by an open client, and its path is asked for by no other question. -/
theorem asks_wellFormed_questions (client : Client) :
    (∀ calls, List.Forall₂ (fun call step => ∀ path ∈ step.requests,
      ∃ question, call.Puts question ∧ question.WellFormed ∧ path = question.path)
      calls (client.run calls).1) ∧
    (∀ job, (∀ id, job = .text id → ¬ IsJobId id) →
      client.Refuses (.history job) jobIdMessage ∧
        ∀ checkpoint, client.Refuses (.details job checkpoint) jobIdMessage) ∧
    (∀ id checkpoint, IsJobId id → (∀ number : Nat, checkpoint ≠ .int number) →
      client.Refuses (.details (.text id) checkpoint) checkpointIdMessage) ∧
    (client.closed = false → client.transport.closed = false → ∀ call question,
      call.Puts question → question.WellFormed →
        (client.call call).1.requests ≠ [] ∧
          ∀ path ∈ (client.call call).1.requests, path = question.path) ∧
    ∀ one two : Question, one.WellFormed → two.WellFormed → one.path = two.path → one = two := by
  refine ⟨client.run_asks, ?_, ?_, ?_, Question.eq_of_path_eq⟩
  · intro job unknown
    exact client.refuses_unknownJob job ((jobId?_eq_none_iff job).mpr unknown)
  · intro id checkpoint isId unknown
    exact client.refuses_unknownCheckpoint _ checkpoint id ((jobId?_eq_some_iff _ id).mpr ⟨rfl, isId⟩)
      ((checkpointId?_eq_none_iff checkpoint).mpr unknown)
  · intro isOpen connected call question puts wellFormed
    obtain ⟨count, requests, asked⟩ := client.transport.get_requests question.path
    rw [client.call_requests_of_puts isOpen call question puts wellFormed, requests,
      question.pathOf_path]
    refine ⟨?_, fun path member => List.eq_of_mem_replicate member⟩
    rw [Ne, List.replicate_eq_nil_iff]
    exact asked connected

/-- This client was not asked yet. -/
def inquiring : Client := ⟨patient, false⟩

/-- A good question is asked. A flag is no checkpoint, and an identifier with a line break at its end
is no job. -/
theorem inquiring_asks :
    inquiring.closed = false ∧ inquiring.transport.closed = false ∧
      IsJobId "00112233445566778899aabbccddeeff" ∧
      (inquiring.call (.details (.text "00112233445566778899aabbccddeeff") (.int 7))).1.requests ≠
        [] ∧
      inquiring.Refuses (.details (.text "00112233445566778899aabbccddeeff") (.bool true))
        checkpointIdMessage ∧
      inquiring.Refuses (.history (.text "00112233445566778899aabbccddeeff\n")) jobIdMessage := by
  have isId : IsJobId "00112233445566778899aabbccddeeff" :=
    ((jobId?_eq_some_iff (.text "00112233445566778899aabbccddeeff") _).mp (by decide)).2
  have wellFormed : (Question.details "00112233445566778899aabbccddeeff" 7).WellFormed := by
    refine ⟨isId, ?_⟩
    intro _ number same
    cases same
    exact Nat.lt_of_lt_of_le (by decide) (Nat.le_self_pow (by decide) 10)
  obtain ⟨-, unknownJob, unknownCheckpoint, asks, -⟩ := asks_wellFormed_questions inquiring
  refine ⟨rfl, rfl, isId, (asks rfl rfl _ _ (.details _ 7) wellFormed).1,
    unknownCheckpoint _ _ isId fun number => Value.noConfusion, (unknownJob _ ?_).1⟩
  intro id same isId
  cases same
  exact absurd isId.length (by decide)

/-- A closed client does not look at an identifier that is none. -/
theorem inquiring_closed :
    let shut := (inquiring.run [.close]).2
    (∀ id, Value.text "bad" = .text id → ¬ IsJobId id) ∧
      ∃ cause, (shut.call (.history (.text "bad"))).1.result = .error cause ∧
        cause.complaint? ≠ some (.plain (.failure .invalid) jobIdMessage) := by
  intro shut
  refine ⟨?_, .closed, rfl, by decide⟩
  intro id same isId
  cases same
  exact absurd isId.length (by decide)

end CheckpointReport
