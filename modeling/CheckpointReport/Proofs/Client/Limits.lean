/-
This file proves that the bounds of a configuration decide whether a client is made. A client that
is made with a connection of its own keeps these bounds in every request.
-/

import CheckpointReport.Proofs.Client.Closing
import CheckpointReport.Proofs.Config.Bounds
import CheckpointReport.Proofs.Transport.Delays

namespace CheckpointReport

open Rule

namespace Client

variable (client : Client)

/-- A close asks for nothing, and it keeps the configuration of the transport. -/
theorem close_quiet (reply : Reply) :
    (client.close reply).1.requests = [] ∧ (client.close reply).1.sleeps = [] ∧
      (client.close reply).2.transport.config = client.transport.config := by
  rw [close]
  split
  · exact ⟨rfl, rfl, rfl⟩
  · exact ⟨rfl, rfl, rfl⟩

theorem call_config (call : Call) :
    (client.call call).2.transport.config = client.transport.config := by
  cases call with
  | close => exact (client.close_quiet .done).2.2
  | exit => exact (client.close_quiet .left).2.2
  | enter => rw [client.call_enter]
  | _ => rfl

/-- No call changes the configuration of the transport. -/
theorem run_config (calls : List Call) :
    (client.run calls).2.transport.config = client.transport.config := by
  induction calls generalizing client with
  | nil => rfl
  | cons call rest ih =>
      rw [run_cons]
      exact (ih _).trans (client.call_config call)

end Client

namespace IntegerConfig

/-- A lost connection may be retried, and so may a listed status, which is in its bounds. -/
def Retries (whole : IntegerConfig) (answer : Answer) : Prop :=
  (∃ detail, answer = .unreachable detail) ∨
    ∃ status body, answer = .response (some status) body ∧ status ∈ whole.statuses ∧
      500 ≤ status ∧ status ≤ 599

/-- The limits of a configuration decide how often a request is repeated. It is repeated after each
answer that may be retried, until the attempts are used up, and it pauses before each repetition. -/
structure Governs (whole : IntegerConfig) (script : Script) (requests : List String)
    (sleeps : List Value) : Prop where
  attempts : requests.length ≤ whole.maxAttempts
  retried : ∀ attempt, 1 ≤ attempt → attempt < requests.length →
    whole.Retries (script.answer attempt)
  last : requests ≠ [] →
    whole.maxAttempts ≤ requests.length ∨ ¬ whole.Retries (script.answer requests.length)
  pauses : ∃ pauses : List Int, sleeps = pauses.map .int ∧ pauses.length = requests.length - 1 ∧
    ∀ pause ∈ pauses, whole.initialDelay ≤ pause ∧ pause ≤ whole.maxDelay

variable {whole : IntegerConfig} (keeps : whole.KeepsBounds)
include keeps

/-- An answer can be repeated exactly when it is a lost connection or its status is one of those
listed. -/
theorem repeatable_iff (answer : Answer) :
    answer.Repeatable whole.retry ↔ whole.Retries answer := by
  constructor
  · intro repeatable
    cases answer with
    | raised exception => cases repeatable
    | unreachable detail => exact Or.inl ⟨detail, rfl⟩
    | response status body =>
        cases status with
        | none => cases repeatable
        | some status =>
            obtain ⟨listed, member, same⟩ := repeatable
            obtain ⟨number, among, rfl⟩ := List.mem_map.mp member
            obtain rfl : number = status := by simpa [Value.same, Value.number?] using same
            exact Or.inr ⟨number, body, rfl, among, keeps.statuses number among⟩
  · rintro (⟨detail, rfl⟩ | ⟨status, body, rfl, among, -⟩)
    · exact trivial
    · exact ⟨.int status, List.mem_map_of_mem among, by simp [Value.same, Value.number?]⟩

/-- An attempt is repeated exactly when another one is left and its answer may be retried. -/
theorem repeats_iff (attempt : Nat) (answer : Answer) :
    answer.Repeats whole.retry attempt ↔
      (attempt : Int) < whole.maxAttempts ∧ whole.Retries answer := by
  rw [Answer.repeats_iff whole.retry (.int whole.maxAttempts) attempt answer rfl,
    repeatable_iff keeps]
  simp

theorem exists_doubles :
    ∃ delays, whole.retry.Doubles whole.initialDelay whole.maxDelay delays :=
  whole.retry.exists_doubles whole.initialDelay whole.maxDelay rfl rfl keeps.initialDelay
    keeps.maxDelay

/-- Integers always tell whether an attempt is repeated, and after which delay. -/
theorem not_stumbles (attempt : Nat) (first : 1 ≤ attempt) (answer : Answer) :
    ¬ answer.Stumbles whole.retry attempt := by
  obtain ⟨delays, doubles⟩ := exists_doubles keeps
  rintro (undecided | ⟨-, cause, failed⟩)
  · exact answer.not_undecided whole.retry (.int whole.maxAttempts) attempt rfl undecided
  · rw [doubles.computed attempt first] at failed
    cases failed

theorem governs_nothing (script : Script) : whole.Governs script [] [] where
  attempts := Int.le_trans Int.one_nonneg keeps.attempts
  retried := fun _ _ inside => absurd inside (Nat.not_lt_zero _)
  last := fun asked => absurd rfl asked
  pauses := ⟨[], rfl, rfl, List.forall_mem_nil _⟩

/-- One request keeps to the limits, whatever the answers are. -/
theorem governs_get (transport : Transport) (same : transport.config = whole.config)
    (endpoint : String) :
    whole.Governs transport.script (transport.get endpoint).requests
      (transport.get endpoint).sleeps := by
  cases state : transport.closed with
  | true =>
      rw [Transport.get, state]
      exact governs_nothing keeps transport.script
  | false =>
      obtain ⟨count, asked, ends⟩ := transport.endsAfter_of_isOpen endpoint state
      rw [same, config] at ends
      obtain ⟨delays, doubles⟩ := exists_doubles keeps
      have repeats (step : Nat) (inside : step < count) :
          ((1 + step : Nat) : Int) < whole.maxAttempts ∧
            whole.Retries (transport.script.answer (step + 1)) :=
        (repeats_iff keeps _ _).mp (ends.repeats step inside)
      have ended := (ends.concludes (not_stumbles keeps _ (Nat.le_add_right 1 count) _)).1
      rw [repeats_iff keeps, not_and_or, Int.not_lt, Nat.add_comm count] at ended
      exact {
        attempts := by
          rw [asked]
          cases count with
          | zero => exact keeps.attempts
          | succ count =>
              have below := (repeats count (Nat.lt_succ_self count)).1
              omega
        retried := by
          intro attempt first inside
          obtain ⟨step, rfl⟩ := Nat.exists_eq_add_of_le' first
          exact (repeats step (by omega)).2
        last := by
          rw [asked]
          exact fun _ => ended
        pauses := by
          refine ⟨_, doubles.sleeps _ _ _ count ends, ?_, List.forall_mem_map.mpr ?_⟩
          · rw [asked, List.length_map, List.length_range', Nat.add_sub_cancel_left]
          · intro attempt member
            exact doubles.within keeps.initialDelay keeps.maxDelay attempt
              (List.mem_range'_1.mp member).1 }

theorem governs_relayed (client : Client) (same : client.transport.config = whole.config)
    (step : Client.Step) (relays : client.Relays step) :
    whole.Governs client.transport.script step.requests step.sleeps := by
  cases relays with
  | silent result silent =>
      rw [silent]
      exact governs_nothing keeps client.transport.script
  | request endpoint requests sleeps _ =>
      rw [requests, sleeps]
      exact governs_get keeps client.transport same endpoint

/-- Only questions pass requests on. -/
theorem governs_call (client : Client) (same : client.transport.config = whole.config)
    (call : Call) :
    whole.Governs client.transport.script (client.call call).1.requests
      (client.call call).1.sleeps := by
  have nothing := governs_nothing keeps client.transport.script
  have closing (reply : Reply) : whole.Governs client.transport.script
      (client.close reply).1.requests (client.close reply).1.sleeps := by
    obtain ⟨requests, sleeps, -⟩ := client.close_quiet reply
    rw [requests, sleeps]
    exact nothing
  cases call with
  | details job checkpoint =>
      exact governs_relayed keeps client same _ (client.details_relays job checkpoint)
  | history job => exact governs_relayed keeps client same _ (client.history_relays job)
  | close => exact closing .done
  | exit => exact closing .left
  | closeTransport => exact nothing
  | enter =>
      rw [client.call_enter]
      exact nothing

end IntegerConfig

namespace Client

variable (connection : Config → Except Raised Script) (config : Config)

theorem construct_of_refused (given : Option Transport) (complaint : Complaint)
    (refused : config.approve = .error complaint) :
    construct connection config given = ⟨.error (.refused complaint), []⟩ := by
  simp only [construct, Option.getD_some, refused]

theorem construct_given (transport : Transport) (approved : config.approve = .ok ()) :
    construct connection config (some transport) = ⟨.ok ⟨transport, false⟩, []⟩ := by
  simp only [construct, Option.getD_some, approved]

theorem construct_own (approved : config.approve = .ok ()) :
    construct connection config none = connect connection config := by
  simp only [construct, Option.getD_some, approved]

/-- A connection that cannot be made is no refusal. -/
theorem connect_not_refused (complaint : Complaint) :
    (connect connection config).result ≠ .error (.refused complaint) := by
  rw [connect]
  intro refused
  cases known : connection config with
  | ok script =>
      rw [known] at refused
      cases refused
  | error raised =>
      rw [known] at refused
      cases refused

/-- A client that has connected for itself uses its own configuration. -/
theorem config_of_connect (client : Client)
    (made : (connect connection config).result = .ok client) :
    client.transport.config = config := by
  rw [connect] at made
  cases known : connection config with
  | ok script =>
      rw [known] at made
      cases made
      rfl
  | error raised =>
      rw [known] at made
      cases made

/-- A client is refused when its configuration is, with the same complaint. -/
theorem construct_refused_iff (given : Option Transport) (complaint : Complaint) :
    (construct connection config given).result = .error (.refused complaint) ↔
      config.approve = .error complaint := by
  cases known : config.approve with
  | error other =>
      rw [construct_of_refused connection config given other known]
      simp
  | ok done =>
      simp only [reduceCtorEq, iff_false]
      cases given with
      | some transport =>
          rw [construct_given connection config transport known]
          intro refused
          cases refused
      | none =>
          rw [construct_own connection config known]
          exact connect_not_refused connection config complaint

end Client

/-- A configuration of integers passes its check when all the bounds are kept, and otherwise the
first broken bound is reported. A client is refused for the same bound with the same message, before
anything is connected. The limits of a client that has connected for itself keep the bounds, and
they govern each of its calls. -/
theorem bounds_decide_clients (whole : IntegerConfig) :
    (whole.config.validate = .ok () ↔ whole.KeepsBounds) ∧
    (∀ complaint, whole.config.validate = .error complaint ↔
      ∃ violation, FirstBroken whole.bounds violation ∧
        complaint = .plain .badValue violation.message) ∧
    (∀ complaint, whole.config.approve = .error complaint ↔
      ∃ violation, FirstBroken whole.bounds violation ∧
        complaint = .plain (.failure .invalid) violation.message) ∧
    (∀ connection given,
      (∀ complaint,
        (Client.construct connection whole.config given).result = .error (.refused complaint) ↔
          ∃ violation, FirstBroken whole.bounds violation ∧
            complaint = .plain (.failure .invalid) violation.message) ∧
      (¬ whole.KeepsBounds → (Client.construct connection whole.config given).connected = [])) ∧
    (whole.KeepsBounds → ∀ connection,
      (∀ transport, Client.construct connection whole.config (some transport) =
        ⟨.ok ⟨transport, false⟩, []⟩) ∧
      Client.construct connection whole.config none = Client.connect connection whole.config) ∧
    ∀ connection client, (Client.construct connection whole.config none).result = .ok client →
      whole.KeepsBounds ∧ ∀ (before : List Call) (call : Call),
        let reached := (client.run before).2
        let step := (reached.call call).1
        whole.Governs reached.transport.script step.requests step.sleeps := by
  have approved : whole.config.approve = .ok () ↔ whole.KeepsBounds :=
    IntegerConfig.passes_iff whole.approve_follows
  have refused := IntegerConfig.fails_iff whole.approve_follows
  have broken (outside : ¬ whole.KeepsBounds) :
      ∃ complaint, whole.config.approve = .error complaint := by
    cases known : whole.config.approve with
    | ok done => exact absurd (approved.mp known) outside
    | error complaint => exact ⟨complaint, rfl⟩
  refine ⟨IntegerConfig.passes_iff whole.validate_follows,
    IntegerConfig.fails_iff whole.validate_follows, refused, ?refusal, ?construction, ?limits⟩
  case refusal =>
    intro connection given
    constructor
    · intro complaint
      exact (Client.construct_refused_iff connection _ given complaint).trans (refused complaint)
    · intro outside
      obtain ⟨complaint, known⟩ := broken outside
      rw [Client.construct_of_refused connection _ given complaint known]
  case construction =>
    intro keeps connection
    have known := approved.mpr keeps
    exact ⟨fun transport => Client.construct_given connection _ transport known,
      Client.construct_own connection _ known⟩
  case limits =>
    intro connection client made
    have keeps : whole.KeepsBounds := by
      by_contra outside
      obtain ⟨complaint, known⟩ := broken outside
      rw [Client.construct_of_refused connection _ none complaint known] at made
      cases made
    refine ⟨keeps, ?_⟩
    intro before call reached step
    rw [Client.construct_own connection _ (approved.mpr keeps)] at made
    have own := Client.config_of_connect connection _ client made
    exact IntegerConfig.governs_call keeps reached ((client.run_config before).trans own) call

/-- Every number of this configuration is at the edge of its bounds. -/
def borderline : IntegerConfig where
  address := "host"
  restPort := 65535
  encrypted := .bool true
  timeout := 1
  userAgent := .null
  maxAttempts := 1
  initialDelay := 0
  maxDelay := 0
  statuses := [599, 500]

theorem borderline_keepsBounds : borderline.KeepsBounds where
  address := by decide
  restPort := by decide
  encrypted := ⟨true, rfl⟩
  timeout := by decide
  attempts := by decide
  initialDelay := by decide
  maxDelay := by decide
  statuses := by decide

/-- A step over two of the edges is reported for the first one. -/
theorem borderline_governed :
    let overstrained : IntegerConfig := { borderline with restPort := 65536, statuses := [600] }
    let lost : Config → Except Raised Script := fun _ => .ok [.unreachable "refused"]
    borderline.config.validate = .ok () ∧
      (Client.construct lost overstrained.config none).result =
        .error (.refused (.plain (.failure .invalid) "rest_port must be within 1..65535")) ∧
      ∃ client, (Client.construct lost borderline.config none).result = .ok client ∧
        ∀ call, (client.call call).1.requests.length ≤ 1 := by
  intro overstrained lost
  obtain ⟨passes, -, -, -, made, governed⟩ := bounds_decide_clients borderline
  obtain ⟨-, -, -, refused, -, -⟩ := bounds_decide_clients overstrained
  have broken : FirstBroken overstrained.bounds .restPort :=
    .later _ _ _ (by decide) (.here _ _ (by decide))
  have connected : (Client.construct lost borderline.config none).result =
      .ok ⟨.make borderline.config true [.unreachable "refused"], false⟩ :=
    congrArg Construction.result (made borderline_keepsBounds lost).2
  refine ⟨passes.mpr borderline_keepsBounds, ((refused lost none).1 _).mpr ⟨_, broken, rfl⟩,
    _, connected, ?_⟩
  intro call
  exact Int.ofNat_le.mp ((governed lost _ connected).2 [] call).attempts

end CheckpointReport
