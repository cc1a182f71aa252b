/-
This file proves that the log of a request tells what happened. There is a warning for each attempt
that was repeated, and one more entry when the request gives a payload or fails.
-/

import CheckpointReport.Proofs.Transport.Attempt

namespace CheckpointReport

/-- Whenever an attempt of this request is repeated, its delay has a value. -/
def Waits (retry : Retry) (attempt : Nat) (script : Script) (get : Get) : Prop :=
  ∀ step < get.requests.length, (script.answer (step + 1)).Repeats retry (attempt + step) →
    ∃ delay, retry.delay (attempt + step : Nat) = .ok delay

/-- The log warns of every attempt but the last one, each in its turn, and then it closes with what the
last attempt led to. -/
structure TellsStory (path : String) (attempt : Nat) (script : Script) (get : Get)
    (warnings closing : List Entry) : Prop where
  requests : get.requests.length = warnings.length + 1
  log : get.log = warnings ++ closing
  warned : ∀ step (inside : step < warnings.length),
    (script.answer (step + 1)).Warned path (attempt + step) warnings[step]
  closing : Closing path (attempt + warnings.length) get.result closing

theorem tellsStory_last (path : String) (attempt : Nat) (script rest : Script)
    (result : Except GetError Members) (log : List Entry)
    (closing : Closing path attempt result log) :
    TellsStory path attempt script (lastAttempt path result log rest) [] log where
  requests := rfl
  log := rfl
  warned := fun step inside => absurd inside (Nat.not_lt_zero step)
  closing := closing

/-- A repeated attempt puts its warning before the story of the attempts that follow. -/
theorem tellsStory_next (path : String) (attempt : Nat) (answer : Answer) (rest : Script)
    (get : Get) (entry : Entry) (delay : Value) (warnings closing : List Entry)
    (warned : answer.Warned path attempt entry)
    (story : TellsStory path (attempt + 1) rest get warnings closing) :
    TellsStory path attempt (answer :: rest) (get.after path entry delay) (entry :: warnings)
      closing := by
  have shifted (step : Nat) : attempt + (step + 1) = attempt + 1 + step := by omega
  exact {
    requests := congrArg Nat.succ story.requests
    log := congrArg (List.cons entry) story.log
    warned := by
      intro step inside
      cases step with
      | zero => exact warned
      | succ step =>
          rw [shifted]
          exact story.warned step (Nat.lt_of_succ_lt_succ inside)
    closing := by
      rw [List.length_cons, shifted]
      exact story.closing }

/-- The attempts of a request tell their story. The induction is on the script, and an attempt is
the last one or is told before the others. -/
theorem attempts_tellsStory (retry : Retry) (path : String) (attempt : Nat) (script : Script)
    (waits : Waits retry attempt script (attempts retry path attempt script)) :
    ∃ warnings closing, TellsStory path attempt script (attempts retry path attempt script)
      warnings closing := by
  induction script generalizing attempt with
  | nil => exact ⟨[], [], tellsStory_last path attempt [] [] _ _ (.raised _)⟩
  | cons answer rest ih =>
      obtain ⟨repeats, entry, warned, continued⟩ | ⟨-, -, log, closing, ended⟩ |
          ⟨-, -, cause, ended⟩ :=
        attempts_cons retry path attempt answer rest
      · rw [continued, repeated] at waits ⊢
        cases delayed : retry.delay attempt with
        | error cause =>
            rw [delayed] at waits
            obtain ⟨delay, known⟩ := waits 0 Nat.one_pos repeats
            cases delayed.symm.trans known
        | ok delay =>
            rw [delayed] at waits
            have waitsLater :
                Waits retry (attempt + 1) rest (attempts retry path (attempt + 1) rest) := by
              intro step inside
              rw [Nat.add_assoc, Nat.add_comm 1]
              exact waits (step + 1) (Nat.succ_lt_succ inside)
            obtain ⟨warnings, closing, story⟩ := ih (attempt + 1) waitsLater
            exact ⟨entry :: warnings, closing, tellsStory_next path attempt answer rest _ entry
              delay warnings closing warned story⟩
      · rw [ended]
        exact ⟨[], log, tellsStory_last path attempt _ rest _ log closing⟩
      · rw [ended]
        exact ⟨[], [], tellsStory_last path attempt _ rest _ [] (.misfit cause)⟩

theorem Answer.Warned.level {path : String} {attempt : Nat} {answer : Answer} {entry : Entry}
    (warned : answer.Warned path attempt entry) : entry.level = .warning := by
  cases warned <;> rfl

/-- The log of a request tells its story, and a closed transport has none to tell. The number of
warnings is one less than that of the requests, unless a delay lacks a value. -/
theorem log_tells_story (transport : Transport) (endpoint : String) :
    (transport.closed = true → (transport.get endpoint).log = []) ∧
      (transport.closed = false →
        Waits transport.config.retry 1 transport.script (transport.get endpoint) →
          ∃ warnings closing,
            TellsStory (pathOf endpoint) 1 transport.script (transport.get endpoint) warnings
                closing ∧
              ∀ entry ∈ warnings, entry.level = .warning) := by
  constructor
  · intro isClosed
    rw [Transport.get, isClosed]
    rfl
  · intro isOpen waits
    rw [transport.get_of_isOpen endpoint isOpen] at waits ⊢
    obtain ⟨warnings, closing, story⟩ := attempts_tellsStory _ _ _ _ waits
    refine ⟨warnings, closing, story, ?_⟩
    intro entry member
    obtain ⟨step, inside, rfl⟩ := List.mem_iff_getElem.mp member
    exact (story.warned step inside).level

/-- The patient client is warned of the lost connection and of the busy server before it fails. -/
theorem patient_story :
    (patient.close.get "//jobs").log = [] ∧ patient.closed = false ∧
      Waits patient.config.retry 1 patient.script (patient.get "//jobs") ∧
        (patient.get "//jobs").log.map Entry.level = [.warning, .warning, .error] := by
  have waits : Waits patient.config.retry 1 patient.script (patient.get "//jobs") := by
    intro step _ _
    exact ⟨_, patient.config.retry.delay_int 1 60 (1 + step) rfl rfl (Nat.le_add_right 1 step)⟩
  refine ⟨(log_tells_story patient.close "//jobs").1 rfl, rfl, waits, ?_⟩
  obtain ⟨warnings, closing, story, levels⟩ := (log_tells_story patient "//jobs").2 rfl waits
  have count : warnings.length = 2 := Nat.succ.inj (story.requests.symm.trans (by rfl))
  have failed : (patient.get "//jobs").result = .error (.failed (.notFound ["Job not found"])) := by
    rfl
  have closes := story.closing
  rw [failed] at closes
  cases closes with
  | failed failure entry level =>
      rw [story.log, List.map_append, List.map_singleton, level,
        List.map_eq_replicate_iff.mpr levels, count]
      rfl

end CheckpointReport
