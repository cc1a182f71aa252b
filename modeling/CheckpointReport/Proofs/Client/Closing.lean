/-
This file follows a client through its calls. The calls alone decide what is closed, whatever they
reply, and what is closed stays closed and does nothing.
-/

import CheckpointReport.Client
import CheckpointReport.Proofs.Transport.Attempt

namespace CheckpointReport

namespace Call

def closesClient : Call → Bool
  | .close => true
  | .exit => true
  | _ => false

/-- A client is never closed without its transport. -/
def closesTransport : Call → Bool
  | .closeTransport => true
  | call => call.closesClient

/-- A closed client may be closed again, but it may not be asked or entered. -/
def closedResult : Call → Except ClientError Reply
  | .close => .ok .done
  | .exit => .ok .left
  | .closeTransport => .ok .done
  | _ => .error .closed

theorem closesTransport_of_closesClient (call : Call) (closes : call.closesClient = true) :
    call.closesTransport = true := by
  cases call with
  | close => rfl
  | exit => rfl
  | _ => cases closes

end Call

theorem Transport.get_closes (transport : Transport) (endpoint : String) :
    (transport.get endpoint).closes = 0 := by
  rw [Transport.get]
  split
  · rfl
  · exact attempts_closes _ _ _ _

namespace Client

/-- A step that only replies is silent. Any other question passes one request on. -/
inductive Relays (client : Client) (step : Step) : Prop
  | silent (result : Except ClientError Reply) (same : step = client.silent result)
  | request (endpoint : String)
      (requests : step.requests = (client.transport.get endpoint).requests)
      (sleeps : step.sleeps = (client.transport.get endpoint).sleeps)
      (closes : step.closes = (client.transport.get endpoint).closes)

theorem details_relays (client : Client) (job checkpoint : Value) :
    client.Relays (client.details job checkpoint) := by
  rw [details]
  split
  · exact .silent _ rfl
  · split
    · exact .silent _ rfl
    · exact .silent _ rfl
    · split
      · exact .silent _ rfl
      · exact .request _ rfl rfl rfl

theorem relays_withHistory (client : Client) (id endpoint : String) :
    client.Relays (withHistory id ((client.transport.get endpoint).map decodeRecords)) := by
  rw [withHistory]
  cases ((client.transport.get endpoint).map decodeRecords).result with
  | error cause => exact .request endpoint rfl rfl rfl
  | ok records => exact .request endpoint rfl rfl rfl

theorem history_relays (client : Client) (job : Value) : client.Relays (client.history job) := by
  rw [history]
  split
  · exact .silent _ rfl
  · split
    · exact .silent _ rfl
    · exact client.relays_withHistory _ _

/-- A question closes nothing, however it fails. -/
theorem Relays.closes_eq {client : Client} {step : Step} (relays : client.Relays step) :
    step.closes = 0 := by
  cases relays with
  | silent result same =>
      rw [same]
      rfl
  | request endpoint _ _ closes =>
      rw [closes]
      exact client.transport.get_closes endpoint

/-- A closed client has closed its transport. -/
def Ordered (client : Client) : Prop := client.closed = true → client.transport.closed = true

/-- The calls that close something close it once. -/
theorem close_closing (client : Client) (ordered : client.Ordered) (reply : Reply) :
    (client.close reply).2.closed = true ∧ (client.close reply).2.transport.closed = true ∧
      (client.close reply).2.transport.owned = client.transport.owned ∧
      (client.close reply).1.closes = client.transport.closesConnection := by
  unfold close
  cases closed : client.closed with
  | false => exact ⟨rfl, rfl, rfl, rfl⟩
  | true =>
      have unreached : client.transport.closesConnection = 0 := by
        simp [Transport.closesConnection, ordered closed]
      exact ⟨closed, ordered closed, rfl, unreached.symm⟩

/-- Entering a client replies and leaves it as it is. -/
theorem call_enter (client : Client) : client.call .enter =
    (client.silent (if client.closed then .error .closed else .ok .entered), client) := by
  rw [call]
  split <;> rfl

/-- One call closes what its kind closes. It reaches the connection only when it is the first to
close the transport. -/
theorem call_closing (client : Client) (ordered : client.Ordered) (call : Call) :
    (client.call call).2.closed = (client.closed || call.closesClient) ∧
      (client.call call).2.transport.closed =
        (client.transport.closed || call.closesTransport) ∧
      (client.call call).2.transport.owned = client.transport.owned ∧
      (client.call call).1.closes =
        if call.closesTransport then client.transport.closesConnection else 0 := by
  cases call with
  | details job checkpoint =>
      exact ⟨(Bool.or_false _).symm, (Bool.or_false _).symm, rfl,
        (client.details_relays job checkpoint).closes_eq⟩
  | history job =>
      exact ⟨(Bool.or_false _).symm, (Bool.or_false _).symm, rfl, (client.history_relays job).closes_eq⟩
  | close =>
      obtain ⟨closed, ended, owned, closes⟩ := client.close_closing ordered .done
      exact ⟨closed.trans (Bool.or_true _).symm, ended.trans (Bool.or_true _).symm, owned, closes⟩
  | exit =>
      obtain ⟨closed, ended, owned, closes⟩ := client.close_closing ordered .left
      exact ⟨closed.trans (Bool.or_true _).symm, ended.trans (Bool.or_true _).symm, owned, closes⟩
  | closeTransport =>
      exact ⟨(Bool.or_false _).symm, (Bool.or_true _).symm, rfl, rfl⟩
  | enter =>
      rw [client.call_enter]
      exact ⟨(Bool.or_false _).symm, (Bool.or_false _).symm, rfl, rfl⟩

theorem ordered_call (client : Client) (ordered : client.Ordered) (call : Call) :
    (client.call call).2.Ordered := by
  obtain ⟨closed, ended, -, -⟩ := client.call_closing ordered call
  intro after
  rw [closed, Bool.or_eq_true] at after
  rw [ended, Bool.or_eq_true]
  rcases after with before | now
  · exact Or.inl (ordered before)
  · exact Or.inr (call.closesTransport_of_closesClient now)

theorem run_cons (client : Client) (call : Call) (rest : List Call) :
    client.run (call :: rest) =
      ((client.call call).1 :: ((client.call call).2.run rest).1,
        ((client.call call).2.run rest).2) := rfl

theorem run_append (client : Client) (first second : List Call) :
    client.run (first ++ second) =
      ((client.run first).1 ++ ((client.run first).2.run second).1,
        ((client.run first).2.run second).2) := by
  induction first generalizing client with
  | nil => rfl
  | cons call rest ih => rw [List.cons_append, run_cons, run_cons, ih]; rfl

/-- What a run has closed can be told from its calls alone. -/
structure Reached (client : Client) (calls : List Call) (last : Client) : Prop where
  closed : last.closed = (client.closed || calls.any Call.closesClient)
  disconnected : last.transport.closed = (client.transport.closed || calls.any Call.closesTransport)
  owned : last.transport.owned = client.transport.owned
  ordered : last.Ordered

/-- After some calls the flags are those that the calls tell. -/
theorem run_reached (client : Client) (ordered : client.Ordered) (calls : List Call) :
    client.Reached calls (client.run calls).2 := by
  induction calls generalizing client with
  | nil => exact ⟨(Bool.or_false _).symm, (Bool.or_false _).symm, rfl, ordered⟩
  | cons call rest ih =>
      obtain ⟨closed, ended, owned, -⟩ := client.call_closing ordered call
      have reached := ih (client.call call).2 (client.ordered_call ordered call)
      rw [run_cons]
      exact {
        closed := by rw [reached.closed, closed, List.any_cons, Bool.or_assoc]
        disconnected := by rw [reached.disconnected, ended, List.any_cons, Bool.or_assoc]
        owned := reached.owned.trans owned
        ordered := reached.ordered }

theorem details_of_closed (client : Client) (closed : client.closed = true)
    (job checkpoint : Value) : client.details job checkpoint = client.silent (.error .closed) := by
  rw [details, if_pos closed]

theorem history_of_closed (client : Client) (closed : client.closed = true) (job : Value) :
    client.history job = client.silent (.error .closed) := by
  rw [history, if_pos closed]

/-- A closed client does nothing but reply. -/
theorem call_closed (client : Client) (ordered : client.Ordered) (closed : client.closed = true)
    (call : Call) :
    client.call call = (.silent call.closedResult client.transport.script, client) := by
  have kept (reply : Reply) : client.close reply = (client.silent (.ok reply), client) := by
    rw [close, if_pos closed]
  cases call with
  | details job checkpoint =>
      rw [Client.call, client.details_of_closed closed]
      rfl
  | history job =>
      rw [Client.call, client.history_of_closed closed]
      rfl
  | close => exact kept .done
  | exit => exact kept .left
  | enter =>
      rw [Client.call, if_pos closed]
      rfl
  | closeTransport =>
      have ended : client.transport.closed = true := ordered closed
      have reached : client.transport.closesConnection = 0 := by
        simp [Transport.closesConnection, ended]
      have same : client.transport.close = client.transport := by
        rw [Transport.close, ← ended]
      rw [Client.call, closeTransport, reached, same]
      rfl

section Open

variable (client : Client) (isOpen : client.closed = false)
include isOpen

/-- An open client looks at the identifier of the job before anything else. -/
theorem details_of_unknownJob (job checkpoint : Value) (unknown : jobId? job = none) :
    client.details job checkpoint = client.silent (.error .jobId) := by
  rw [details, isOpen, unknown]
  rfl

theorem details_of_unknownCheckpoint (job checkpoint : Value) (id : String)
    (named : jobId? job = some id) (unknown : checkpointId? checkpoint = none) :
    client.details job checkpoint = client.silent (.error .checkpointId) := by
  rw [details, isOpen, named, unknown]
  rfl

/-- An identifier that is too long for a path is refused after the checks. -/
theorem details_of_overlong (job checkpoint : Value) (id : String) (number : Int)
    (named : jobId? job = some id) (counted : checkpointId? checkpoint = some number)
    (overlong : Text.fitsNumeral number = false) :
    client.details job checkpoint = client.silent (.error .overlongId) := by
  rw [details, isOpen, named, counted]
  simp [Text.numeral?, overlong]

theorem details_of_known (job checkpoint : Value) (id : String) (number : Int)
    (named : jobId? job = some id) (counted : checkpointId? checkpoint = some number)
    (fits : Text.fitsNumeral number = true) :
    client.details job checkpoint =
      (client.transport.get (detailsPath id (toString number))).map decodeDetails := by
  rw [details, isOpen, named, counted]
  simp [Text.numeral?, fits]

theorem history_of_unknownJob (job : Value) (unknown : jobId? job = none) :
    client.history job = client.silent (.error .jobId) := by
  rw [history, isOpen, unknown]
  rfl

theorem history_of_known (job : Value) (id : String) (named : jobId? job = some id) :
    client.history job =
      withHistory id ((client.transport.get (checkpointsPath id)).map decodeRecords) := by
  rw [history, isOpen, named]
  rfl

variable (disconnected : client.transport.closed = true)
include disconnected

/-- An open client looks at the identifiers before its transport fails. An identifier that is too
long for a path is refused between the two. -/
theorem details_disconnected (job checkpoint : Value) :
    (jobId? job = none → client.details job checkpoint = client.silent (.error .jobId)) ∧
    (∀ id, jobId? job = some id → checkpointId? checkpoint = none →
      client.details job checkpoint = client.silent (.error .checkpointId)) ∧
    ∀ id number, jobId? job = some id → checkpointId? checkpoint = some number →
      client.details job checkpoint =
        client.silent (.error
          (if Text.fitsNumeral number then .get (.failed .closed) else .overlongId)) := by
  refine ⟨client.details_of_unknownJob isOpen job checkpoint,
    client.details_of_unknownCheckpoint isOpen job checkpoint, ?_⟩
  intro id number named counted
  cases fits : Text.fitsNumeral number with
  | true =>
      rw [client.details_of_known isOpen job checkpoint id number named counted fits,
        Transport.get, disconnected]
      rfl
  | false => exact client.details_of_overlong isOpen job checkpoint id number named counted fits

theorem history_disconnected (job : Value) :
    (jobId? job = none → client.history job = client.silent (.error .jobId)) ∧
    ∀ id, jobId? job = some id →
      client.history job = client.silent (.error (.get (.failed .closed))) := by
  refine ⟨client.history_of_unknownJob isOpen job, ?_⟩
  intro id named
  rw [client.history_of_known isOpen job id named, Transport.get, disconnected]
  rfl

end Open

/-- All calls of a run together close the connection as often as its first close does. -/
theorem sum_closes (client : Client) (ordered : client.Ordered) (calls : List Call) :
    ((client.run calls).1.map Exchange.closes).sum =
      if calls.any Call.closesTransport then client.transport.closesConnection else 0 := by
  induction calls generalizing client with
  | nil => rfl
  | cons call rest ih =>
      obtain ⟨-, ended, owned, closes⟩ := client.call_closing ordered call
      have later : (client.call call).2.transport.closesConnection =
          if call.closesTransport then 0 else client.transport.closesConnection := by
        rw [Transport.closesConnection, ended, owned]
        cases call.closesTransport <;> simp [Transport.closesConnection]
      rw [run_cons, List.map_cons, List.sum_cons, ih _ (client.ordered_call ordered call), closes,
        later, List.any_cons]
      cases call.closesTransport <;> simp

/-- This is what a call does to a client that has been closed in part or as a whole, and what it
closes itself. -/
structure ClosesFor (client : Client) (before : List Call) (call : Call) (step : Step)
    (reached next : Client) : Prop where
  closed : (∃ earlier ∈ before, earlier.closesClient = true) →
    step = .silent call.closedResult reached.transport.script ∧ next = reached
  disconnectedHistory : (∀ earlier ∈ before, earlier.closesClient = false) →
    .closeTransport ∈ before → ∀ job, call = .history job →
      (jobId? job = none → step = reached.silent (.error .jobId)) ∧
      ∀ id, jobId? job = some id → step = reached.silent (.error (.get (.failed .closed)))
  disconnectedDetails : (∀ earlier ∈ before, earlier.closesClient = false) →
    .closeTransport ∈ before → ∀ job checkpoint, call = .details job checkpoint →
      (jobId? job = none → step = reached.silent (.error .jobId)) ∧
      (∀ id, jobId? job = some id → checkpointId? checkpoint = none →
        step = reached.silent (.error .checkpointId)) ∧
      ∀ id number, jobId? job = some id → checkpointId? checkpoint = some number →
        step = reached.silent (.error
          (if Text.fitsNumeral number then .get (.failed .closed) else .overlongId))
  clientClosed : next.closed = (reached.closed || call.closesClient)
  transportClosed : next.transport.closed = (reached.transport.closed || call.closesTransport)
  connection : step.closes =
    if client.transport.owned = true ∧ call.closesTransport = true ∧
      ∀ earlier ∈ before, earlier.closesTransport = false then 1 else 0

/-- What a call does depends on what the calls before it have closed. -/
theorem closesFor (client : Client) (isOpen : client.closed = false)
    (connected : client.transport.closed = false) (before : List Call) (call : Call) :
    let reached := (client.run before).2
    client.ClosesFor before call (reached.call call).1 reached (reached.call call).2 := by
  intro reached
  have ordered : client.Ordered := by
    intro closed
    rw [isOpen] at closed
    cases closed
  have history := client.run_reached ordered before
  have closed : reached.closed = before.any Call.closesClient := by
    rw [history.closed, isOpen, Bool.false_or]
  have ended : reached.transport.closed = before.any Call.closesTransport := by
    rw [history.disconnected, connected, Bool.false_or]
  obtain ⟨nextClosed, nextEnded, -, closes⟩ := reached.call_closing history.ordered call
  have disconnected (unclosed : ∀ earlier ∈ before, earlier.closesClient = false)
      (cut : .closeTransport ∈ before) :
      reached.closed = false ∧ reached.transport.closed = true := by
    rw [closed, ended, List.any_eq_false, List.any_eq_true]
    exact ⟨fun earlier member => Bool.eq_false_iff.mp (unclosed earlier member), _, cut, rfl⟩
  exact {
    closed := by
      intro earlier
      have done := reached.call_closed history.ordered
        (closed.trans (List.any_eq_true.mpr earlier)) call
      exact ⟨congrArg Prod.fst done, congrArg Prod.snd done⟩
    disconnectedHistory := by
      intro unclosed cut job same
      subst same
      obtain ⟨stillOpen, cutOff⟩ := disconnected unclosed cut
      exact reached.history_disconnected stillOpen cutOff job
    disconnectedDetails := by
      intro unclosed cut job checkpoint same
      subst same
      obtain ⟨stillOpen, cutOff⟩ := disconnected unclosed cut
      exact reached.details_disconnected stillOpen cutOff job checkpoint
    clientClosed := nextClosed
    transportClosed := nextEnded
    connection := by
      have first : before.any Call.closesTransport = false ↔
          ∀ earlier ∈ before, earlier.closesTransport = false := by
        simp
      rw [closes, Transport.closesConnection, history.owned, ended]
      simp only [← first, ← ite_and]
      exact if_congr (by tauto) rfl rfl }

end Client

/-- Whatever the calls before were and however they ended, a closed client does nothing but reply,
and so does an open client without a transport when it is asked. Nothing but the three closing calls
closes anything. A connection that the transport made is closed by the first of them and never
again, and a connection from elsewhere is never closed. -/
theorem closing_is_final_and_silent (client : Client) (isOpen : client.closed = false)
    (connected : client.transport.closed = false) :
    (∀ (before : List Call) (call : Call) (after : List Call),
      let reached := (client.run before).2
      let (step, next) := reached.call call
      (client.run (before ++ call :: after)).1 =
          (client.run before).1 ++ step :: (next.run after).1 ∧
        client.ClosesFor before call step reached next) ∧
    (∀ calls : List Call, ((client.run calls).1.map Exchange.closes).sum =
      if client.transport.owned = true ∧ ∃ call ∈ calls, call.closesTransport = true then 1
      else 0) ∧
    Failure.closed.family = .transport ∧ Failure.closed.status? = none ∧
      Failure.closed.cause? = none := by
  have ordered : client.Ordered := by
    intro closed
    rw [isOpen] at closed
    cases closed
  refine ⟨?_, ?_, rfl, rfl, rfl⟩
  · intro before call after
    refine ⟨?_, client.closesFor isOpen connected before call⟩
    exact congrArg Prod.fst (client.run_append before (call :: after))
  · intro calls
    rw [client.sum_closes ordered calls, Transport.closesConnection, connected, ← ite_and]
    exact if_congr (by rw [List.any_eq_true]; tauto) rfl rfl

/-- This client owns its connection. It is entered and left after its transport was closed. -/
def visitor : Client where
  transport := .make .standard true [.unreachable "refused"]
  closed := false

/-- The connection is closed once by these calls, and a later call only tells that the client is
closed. -/
theorem visitor_left :
    let calls := [.enter, .closeTransport, .details (.text "job") .null, .exit]
    ((visitor.run calls).2.call (.history .null)).1 =
        .silent (.error .closed) [.unreachable "refused"] ∧
      ((visitor.run calls).1.map Exchange.closes).sum = 1 := by
  intro calls
  obtain ⟨steps, closes, -⟩ := closing_is_final_and_silent visitor rfl rfl
  have left := (steps calls (.history .null) []).2.closed ⟨.exit, by simp [calls], rfl⟩
  have once := closes calls
  rw [if_pos ⟨rfl, .exit, by simp [calls], rfl⟩] at once
  exact ⟨left.1, once⟩

end CheckpointReport
