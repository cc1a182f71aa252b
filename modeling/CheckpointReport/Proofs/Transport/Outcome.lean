/-
This file tells how a request of a checked client ends. It ends with what an answer tells, unless so
many attempts are repeated that the delay outgrows the range of binary64.
-/

import CheckpointReport.Proofs.Json.Legible
import CheckpointReport.Proofs.Transport.Attempt

namespace CheckpointReport

/-- A foreign body is a sequence of bytes. -/
def Answer.IsForeign : Answer → Prop
  | .response _ body => ∃ encoded, body = .bytes encoded
  | _ => True

/-- Whatever can be read from the answer holds short integers only. -/
def Answer.IsShort : Answer → Prop
  | .response _ body => ∀ root, body.json? = some root → root.IsShort
  | _ => True

/-- A reader of bytes refuses every integer that is too long. -/
theorem Answer.IsForeign.isShort {answer : Answer} (foreign : answer.IsForeign) :
    answer.IsShort := by
  cases answer with
  | response status body =>
      obtain ⟨encoded, rfl⟩ := foreign
      intro root read
      exact (Value.legible_iff_isShort root).mp (Json.ofBytes?_legible encoded root read)
  | _ => exact trivial

/-- What an answer tells is a payload, a failure or an exception of another party. -/
inductive Answer.Tells (answer : Answer) : Except GetError Members → Prop
  | payload (payload : Members) : answer.Tells (.ok payload)
  | failed (failure : Failure) : answer.Tells (.error (.failed failure))
  | raised (exception : Raised) (same : answer = .raised exception) :
      answer.Tells (.error (.raised exception))

/-- The messages of a short body have texts, so its conclusion does not lack one. -/
theorem Answer.conclusion_tells (answer : Answer) (short : answer.IsShort) :
    answer.Tells answer.conclusion := by
  cases answer with
  | raised exception => exact .raised exception rfl
  | unreachable detail => exact .failed _
  | response status body =>
      rw [conclusion]
      cases read : body.payload status with
      | error failure => exact .failed failure
      | ok payload =>
          have root : (Value.ofMembers payload).IsShort :=
            short _ ((body.payload_eq_ok_iff status payload).mp read)
          obtain ⟨messages, texts⟩ :=
            errorMessages?_of_legible payload ((Value.legible_iff_isShort _).mpr root)
          dsimp only
          cases sorted : sortAnswer (.ofMembers payload) status with
          | success => exact .payload payload
          | failure failure => exact .failed failure
          | lost =>
              rw [sortAnswer.eq_def, texts] at sorted
              split at sorted
              · cases sorted
              · split at sorted <;> cases sorted

section Runs

variable (retry : Retry) (path : String) (numeric : retry.IsNumeric)
include numeric

/-- A retry between numbers stumbles over nothing but a delay that outgrows its range. -/
theorem Answer.stumbles_iff (attempt : Nat) (positive : 1 ≤ attempt) (answer : Answer) :
    answer.Stumbles retry attempt ↔ answer.Repeats retry attempt ∧ retry.Outgrows attempt := by
  obtain ⟨⟨limit, limited⟩, ⟨initial, initially⟩, greatest, capping⟩ := numeric
  have delayed := retry.delay_number initial greatest attempt initially capping positive
  constructor
  · intro stumbles
    obtain ⟨repeats, cause, failed⟩ :=
      stumbles.resolve_left (answer.not_undecided retry limit attempt limited)
    rcases delayed with outgrown | within
    · exact ⟨repeats, outgrown.1⟩
    · obtain ⟨-, delay, known⟩ := within
      cases failed.symm.trans known
  · intro given
    have failed := (delayed.resolve_right fun within => within.1 given.2).2
    exact Or.inr ⟨given.1, _, failed⟩

/-- No delay that has a value has outgrown its range. -/
theorem le_of_delayed (attempt : Nat) (positive : 1 ≤ attempt) (delay : Value)
    (delayed : retry.delay attempt = .ok delay) (float : ∃ part, retry.initialDelay = .float part) :
    attempt ≤ 1024 := by
  obtain ⟨-, ⟨initial, initially⟩, greatest, capping⟩ := numeric
  obtain ⟨-, failed⟩ | ⟨within, -⟩ :=
    retry.delay_number initial greatest attempt initially capping positive
  · cases delayed.symm.trans failed
  · by_contra large
    exact within ⟨float, by omega⟩

/-- A request is concluded after some delays, or all the attempts before the delay outgrows the
range are repeated. -/
theorem attempts_outcome (attempt : Nat) (positive : 1 ≤ attempt) (script : Script)
    (within : (∃ part, retry.initialDelay = .float part) → attempt ≤ 1025) :
    let get := attempts retry path attempt script
    (∃ delays : List Value,
        (∀ step < delays.length, (script.answer (step + 1)).Repeats retry (attempt + step)) ∧
          ¬ (script.answer (delays.length + 1)).Repeats retry (attempt + delays.length) ∧
            ((∃ part, retry.initialDelay = .float part) → attempt + delays.length ≤ 1025) ∧
              Concluded get path delays (script.answer (delays.length + 1))
                (script.drop (delays.length + 1))) ∨
      ((∃ part, retry.initialDelay = .float part) ∧ get.result = .error (.misfit .range) ∧
        ∀ step, attempt + step ≤ 1025 →
          (script.answer (step + 1)).Repeats retry (attempt + step)) := by
  intro get
  obtain ⟨count, ends⟩ := attempts_endsAfter retry path attempt script
  have counted : get.sleeps.length = count := by
    rw [← ends.sleeps.length_eq, List.length_range']
  by_cases stumbles : (script.answer (count + 1)).Stumbles retry (attempt + count)
  · have positiveLast : 1 ≤ attempt + count := Nat.le_add_right_of_le positive
    obtain ⟨last, float, late⟩ :=
      (Answer.stumbles_iff retry numeric _ positiveLast _).mp stumbles
    obtain ⟨cause, failed, delayed⟩ := ends.stumbles stumbles
    obtain ⟨-, ⟨initial, initially⟩, greatest, capping⟩ := numeric
    obtain ⟨-, outgrown⟩ | ⟨early, -⟩ :=
      retry.delay_number initial greatest _ initially capping positiveLast
    · cases (delayed last).symm.trans outgrown
      refine Or.inr ⟨float, failed, ?_⟩
      intro step inside
      rcases Nat.lt_or_ge step count with before | here
      · exact ends.repeats step before
      · obtain rfl : step = count := by omega
        exact last
    · exact absurd ⟨float, late⟩ early
  · obtain ⟨final, concluded⟩ := ends.concludes stumbles
    refine Or.inl ⟨get.sleeps, ?_, ?_, ?_, ?_⟩
    · rw [counted]
      exact ends.repeats
    · rw [counted]
      exact final
    · intro float
      rw [counted]
      cases count with
      | zero => exact within float
      | succ count =>
          have listed : attempt + count ∈ List.range' attempt (count + 1) := by
            rw [List.mem_range'_1]
            omega
          obtain ⟨delay, delayed⟩ :=
            (Success.exists_forall₂_iff _ _).mp ⟨_, ends.sleeps⟩ (attempt + count) listed
          have early := le_of_delayed retry numeric (attempt + count) (by omega) delay delayed float
          omega
    · rw [counted]
      exact ⟨counted.symm ▸ ends.requests, rfl, concluded, ends.rest⟩

end Runs

/-- A request gives a payload or a failure, or it passes on the exception that ended its last
attempt. -/
inductive Transport.Answers (transport : Transport) (endpoint : String) : Prop
  | payload (payload : Members) (result : (transport.get endpoint).result = .ok payload)
  | failed (failure : Failure) (result : (transport.get endpoint).result = .error (.failed failure))
  | raised (exception : Raised)
      (last : transport.script.answer (transport.get endpoint).requests.length = .raised exception)
      (result : (transport.get endpoint).result = .error (.raised exception))

/-- So many attempts are allowed and may be repeated that the delay after them has no value. -/
structure Transport.Outgrows (transport : Transport) : Prop where
  isOpen : transport.closed = false
  float : ∃ part, transport.config.retry.initialDelay = .float part
  allowed : ∃ limit, transport.config.retry.maxAttempts.number? = some limit ∧
    limit.atMost (.int 1025) = false
  repeatable : ∀ attempt, 1 ≤ attempt → attempt ≤ 1025 →
    (transport.script.answer attempt).Repeatable transport.config.retry

theorem Config.retry_of_check (config : Config) (valid : config.check = .ok ()) :
    config.retry.check = .ok () := by
  simp only [check, Success.bind_eq_ok_iff] at valid
  obtain ⟨-, -, -, -, -, -, -, -, retries⟩ := valid
  exact retries

/-- What holds of every answer in a script holds of those beyond it, if it holds of the exception
that they are. -/
theorem Script.forall_answer (script : Script) (holds : Answer → Prop)
    (beyond : holds (.raised .exhausted)) (listed : ∀ answer ∈ script, holds answer)
    (attempt : Nat) : holds (script.answer attempt) := by
  rw [Script.answer]
  cases found : script[attempt - 1]? with
  | none => exact beyond
  | some answer => exact listed answer (List.mem_of_getElem? found)

/-- The attempts that outgrow the range are those that the limit and the answers let repeat. -/
theorem Transport.outgrows_iff (transport : Transport) (limit : Number)
    (limited : transport.config.retry.maxAttempts.number? = some limit) :
    transport.Outgrows ↔ transport.closed = false ∧
      (∃ part, transport.config.retry.initialDelay = .float part) ∧
        ∀ step, 1 + step ≤ 1025 →
          (transport.script.answer (step + 1)).Repeats transport.config.retry (1 + step) := by
  constructor
  · intro outgrows
    refine ⟨outgrows.isOpen, outgrows.float, ?_⟩
    intro step inside
    obtain ⟨other, same, allowed⟩ := outgrows.allowed
    obtain rfl : limit = other := Option.some.inj (limited.symm.trans same)
    rw [Answer.repeats_iff _ limit _ _ limited]
    refine ⟨?_, outgrows.repeatable (step + 1) (Nat.succ_pos step) (by omega)⟩
    rw [Bool.eq_false_iff] at allowed ⊢
    intro reached
    exact allowed (limit.atMost_int_mono _ _ (by omega) reached)
  · intro given
    obtain ⟨isOpen, float, repeats⟩ := given
    have last := (Answer.repeats_iff _ limit _ _ limited).mp (repeats 1024 (le_refl 1025))
    refine ⟨isOpen, float, ⟨limit, limited, last.1⟩, ?_⟩
    intro attempt first inside
    obtain ⟨step, rfl⟩ := Nat.exists_eq_add_of_le' first
    exact ((Answer.repeats_iff _ limit _ _ limited).mp (repeats step (by omega))).2

/-- Nothing but what an answer tells is the result of a request that is answered. -/
theorem Transport.Answers.not_misfit {transport : Transport} {endpoint : String}
    (answers : transport.Answers endpoint) (cause : Misfit) :
    (transport.get endpoint).result ≠ .error (.misfit cause) := by
  intro failed
  cases answers with
  | payload payload result => cases failed.symm.trans result
  | failed failure result => cases failed.symm.trans result
  | raised exception last result => cases failed.symm.trans result

/-- The conclusion of the last answer is an answer to the caller. -/
theorem Transport.answers_of_concluded (transport : Transport) (endpoint : String) (last : Answer)
    (short : last.IsShort)
    (found : transport.script.answer (transport.get endpoint).requests.length = last)
    (concluded : (transport.get endpoint).result = last.conclusion) :
    transport.Answers endpoint := by
  have told := last.conclusion_tells short
  cases known : last.conclusion with
  | ok payload => exact .payload payload (concluded.trans known)
  | error cause =>
      rw [known] at told
      cases told with
      | failed failure => exact .failed failure (concluded.trans known)
      | raised exception same =>
          exact .raised exception (found.trans same) (concluded.trans known)

/-- A request is answered within the range, and it is known how one beyond it ends. -/
theorem Transport.answers_or_outgrows (transport : Transport) (endpoint : String)
    (valid : transport.config.check = .ok ())
    (foreign : ∀ answer ∈ transport.script, answer.IsForeign) :
    (transport.Answers endpoint ∧ ¬ transport.Outgrows) ∨
      (transport.Outgrows ∧ (transport.get endpoint).result = .error (.misfit .range)) := by
  have numeric :=
    transport.config.retry.isNumeric_of_check (transport.config.retry_of_check valid)
  obtain ⟨limit, limited⟩ := numeric.attempts
  cases state : transport.closed with
  | true =>
      have refused : (transport.get endpoint).result = .error (.failed .closed) := by
        rw [Transport.get, state]
        rfl
      refine Or.inl ⟨.failed .closed refused, ?_⟩
      intro outgrows
      cases state.symm.trans outgrows.isOpen
  | false =>
      have opened := transport.get_of_isOpen endpoint state
      obtain ⟨delays, -, final, inside, concluded⟩ | ⟨float, failed, repeats⟩ :=
        attempts_outcome transport.config.retry (pathOf endpoint) numeric 1 (le_refl 1)
          transport.script (fun _ => by omega)
      · rw [← opened] at concluded
        have asked : (transport.get endpoint).requests.length = delays.length + 1 := by
          rw [concluded.requests, List.length_replicate]
        refine Or.inl ⟨?_, ?_⟩
        · exact transport.answers_of_concluded endpoint _
            (transport.script.forall_answer Answer.IsForeign trivial foreign _).isShort
            (congrArg transport.script.answer asked) concluded.result
        · intro outgrows
          obtain ⟨-, float, repeats⟩ := (transport.outgrows_iff limit limited).mp outgrows
          exact final (repeats delays.length (inside float))
      · rw [← opened] at failed
        exact Or.inr ⟨(transport.outgrows_iff limit limited).mpr ⟨state, float, repeats⟩, failed⟩

/-- A request of a checked client that gets foreign bodies only is answered, unless the delay
outgrows the range of binary64 while its power of two is computed. -/
theorem answers_unless_outgrown (transport : Transport) (endpoint : String)
    (valid : transport.config.check = .ok ())
    (foreign : ∀ answer ∈ transport.script, answer.IsForeign) :
    (transport.Answers endpoint ↔ ¬ transport.Outgrows) ∧
      (transport.Outgrows → (transport.get endpoint).result = .error (.misfit .range)) := by
  obtain ⟨answers, within⟩ | ⟨outgrows, failed⟩ :=
    transport.answers_or_outgrows endpoint valid foreign
  · exact ⟨⟨fun _ => within, fun _ => answers⟩, fun outgrows => absurd outgrows within⟩
  · exact ⟨⟨fun answers => absurd failed (answers.not_misfit .range), fun within =>
      absurd outgrows within⟩, fun _ => failed⟩

/-- This client loses its connection 1025 times before it is answered. -/
def reconnecting (limit : Int) : Transport where
  config := { Config.standard with retry := { Retry.standard with maxAttempts := .int limit } }
  owned := true
  closed := false
  script := List.replicate 1025 (.unreachable "down") ++
    [.response (some 200) (.bytes [0x7B, 0x7D])]

theorem reconnecting_foreign (limit : Int) :
    ∀ answer ∈ (reconnecting limit).script, answer.IsForeign := by
  intro answer member
  rcases List.mem_append.mp member with lost | last
  · rw [List.eq_of_mem_replicate lost]
    exact trivial
  · rw [List.mem_singleton.mp last]
    exact ⟨_, rfl⟩

theorem Script.answer_replicate (count : Nat) (answer : Answer) (rest : Script) (attempt : Nat)
    (first : 1 ≤ attempt) (inside : attempt ≤ count) :
    Script.answer (List.replicate count answer ++ rest) attempt = answer := by
  have before : attempt - 1 < count := by omega
  rw [Script.answer, List.getElem?_append_left (by rwa [List.length_replicate]),
    List.getElem?_replicate_of_lt before]
  rfl

/-- The standard delay is outgrown when the connection is lost so often. -/
theorem Transport.outgrows_of_lost (transport : Transport) (detail : String)
    (isOpen : transport.closed = false)
    (retries : transport.config.retry = { Retry.standard with maxAttempts := .int 1026 })
    (lost : ∀ attempt, 1 ≤ attempt → attempt ≤ 1025 →
      transport.script.answer attempt = .unreachable detail) : transport.Outgrows where
  isOpen := isOpen
  float := by
    rw [retries]
    exact ⟨_, rfl⟩
  allowed := by
    rw [retries]
    exact ⟨.int 1026, rfl, by decide⟩
  repeatable := by
    intro attempt first inside
    rw [lost attempt first inside]
    exact trivial

theorem reconnecting_outgrows : (reconnecting 1026).Outgrows :=
  Transport.outgrows_of_lost _ "down" rfl rfl fun attempt first inside =>
    Script.answer_replicate 1025 _ _ attempt first inside

/-- One more attempt is allowed here than the delay can be computed for. -/
theorem reconnecting_unanswered :
    (reconnecting 1026).config.check = .ok () ∧
      (∀ answer ∈ (reconnecting 1026).script, answer.IsForeign) ∧
        ¬ (reconnecting 1026).Answers "jobs" ∧
          ((reconnecting 1026).get "jobs").result = .error (.misfit .range) := by
  have valid : (reconnecting 1026).config.check = .ok () := by decide
  have foreign := reconnecting_foreign 1026
  obtain ⟨-, within⟩ | ⟨-, failed⟩ :=
    (reconnecting 1026).answers_or_outgrows "jobs" valid foreign
  · exact absurd reconnecting_outgrows within
  · exact ⟨valid, foreign, fun answers => answers.not_misfit .range failed, failed⟩

/-- With one attempt less every delay has a value, and the last lost connection is told. -/
theorem reconnecting_answered : (reconnecting 1025).Answers "jobs" := by
  have valid : (reconnecting 1025).config.check = .ok () := by decide
  have within : ¬ (reconnecting 1025).Outgrows := by
    intro outgrows
    obtain ⟨limit, limited, allowed⟩ := outgrows.allowed
    cases limited
    exact absurd allowed (by decide)
  exact (answers_unless_outgrown (reconnecting 1025) "jobs" valid
    (reconnecting_foreign 1025)).1.mpr within

end CheckpointReport
