/-
This file sends requests to a job manager. Requests only read, so each one is safe to repeat.
What the other side does is given as a script, and what a request did is returned as data.
-/

import CheckpointReport.Journal
import CheckpointReport.Response
import CheckpointReport.Retry

namespace CheckpointReport

/-- Another party has raised an exception. It has a name and a message. -/
structure Raised where
  name : String
  message : String
  deriving DecidableEq, Repr

/-- One attempt gets a response, gets none, or is ended by an exception that is no lost
connection. -/
inductive Answer where
  | response (status : Option Int) (body : Body)
  | unreachable (detail : String)
  | raised (raised : Raised)
  deriving Repr

/-- The script holds the answers to the attempts to come. -/
abbrev Script := List Answer

/-- An attempt beyond the script is ended by this exception. -/
def Raised.exhausted : Raised := ⟨"RuntimeError", "no more steps"⟩

/-- Besides a failure there are exceptions of others, limits and delays that do not fit, and
messages without a text. -/
inductive GetError where
  | failed (failure : Failure)
  | raised (raised : Raised)
  | misfit (cause : Misfit)
  | overlongMessage
  deriving Repr

/-- An exchange is what one call did, with the rest of the script. -/
structure Exchange (ε α : Type) where
  result : Except ε α
  requests : List String
  sleeps : List Value
  log : List Entry
  closes : Nat
  script : Script

namespace Exchange

/-- This exchange did nothing but give its result. -/
def silent {ε α : Type} (result : Except ε α) (script : Script) : Exchange ε α :=
  ⟨result, [], [], [], 0, script⟩

/-- The steps of a first exchange come before those of the rest. -/
def after {ε α : Type} (request : String) (entry : Entry) (sleep : Value)
    (rest : Exchange ε α) : Exchange ε α :=
  { rest with
    requests := request :: rest.requests
    sleeps := sleep :: rest.sleeps
    log := entry :: rest.log }

def map {ε α δ β : Type} (f : Except ε α → Except δ β) (exchange : Exchange ε α) :
    Exchange δ β :=
  ⟨f exchange.result, exchange.requests, exchange.sleeps, exchange.log, exchange.closes,
    exchange.script⟩

end Exchange

abbrev Get := Exchange GetError Members

/-- The last attempt ends the call. -/
def lastAttempt (path : String) (result : Except GetError Members) (log : List Entry)
    (script : Script) : Get :=
  ⟨result, [path], [], log, 0, script⟩

/-- An answer that is not repeated is read, and its status is looked at last. -/
def settle (path : String) (attempt : Nat) (status : Option Int) (body : Body) :
    Except GetError Members × List Entry :=
  match body.payload status with
  | .error failure => (.error (.failed failure), [.unreadable path status])
  | .ok payload =>
      match sortAnswer (.ofMembers payload) status with
      | .success => (.ok payload, [.answered path attempt])
      | .failure failure =>
          (.error (.failed failure), [.refused path status failure.message])
      | .lost => (.error .overlongMessage, [])

/-- A repeated attempt tells the journal, and its delay may have no value. The pause is made by a
function of the caller, which is taken to return. -/
def repeated (retry : Retry) (path : String) (attempt : Nat) (entry : Entry) (script : Script)
    (rest : Get) : Get :=
  match retry.delay attempt with
  | .ok delay => rest.after path entry delay
  | .error cause => lastAttempt path (.error (.misfit cause)) [entry] script

/-- This attempt is the last one, since nobody can tell whether it may be repeated. -/
def undecided (path : String) (cause : Misfit) (script : Script) : Get :=
  lastAttempt path (.error (.misfit cause)) [] script

def settled (path : String) (attempt : Nat) (status : Option Int) (body : Body)
    (script : Script) : Get :=
  let (result, log) := settle path attempt status body
  lastAttempt path result log script

/-- Attempts go on until one is settled. The number of the attempt counts from one. -/
def attempts (retry : Retry) (path : String) (attempt : Nat) : Script → Get
  | [] => lastAttempt path (.error (.raised .exhausted)) [] []
  | .raised raised :: rest => lastAttempt path (.error (.raised raised)) [] rest
  | .unreachable detail :: rest =>
      match retry.allows attempt none with
      | .ok true =>
          repeated retry path attempt (.retriedUnreachable path attempt) rest
            (attempts retry path (attempt + 1) rest)
      | .ok false =>
          lastAttempt path (.error (.failed (.unreachable detail)))
            [.unreachable path attempt detail] rest
      | .error cause => undecided path cause rest
  | .response none body :: rest => settled path attempt none body rest
  | .response (some status) body :: rest =>
      match retry.allows attempt (some status) with
      | .ok true =>
          repeated retry path attempt (.retriedBusy path attempt status) rest
            (attempts retry path (attempt + 1) rest)
      | .ok false => settled path attempt (some status) body rest
      | .error cause => undecided path cause rest

/-- Slashes at the start of an endpoint do not belong to its path. -/
def pathOf (endpoint : String) : String :=
  String.ofList (endpoint.toList.dropWhile (· = '/'))

/-- A transport closes its connection only when it made the connection itself. -/
structure Transport where
  config : Config
  owned : Bool
  closed : Bool
  script : Script

namespace Transport

def make (config : Config) (owned : Bool) (script : Script) : Transport :=
  ⟨config, owned, false, script⟩

def get (transport : Transport) (endpoint : String) : Get :=
  if transport.closed then .silent (.error (.failed .closed)) transport.script
  else attempts transport.config.retry (pathOf endpoint) 1 transport.script

/-- An endpoint that is no text has no path, but a closed transport does not look at it. -/
def ask (transport : Transport) (endpoint : Value) : Get :=
  match endpoint.text? with
  | some endpoint => transport.get endpoint
  | none =>
      .silent (.error (if transport.closed then .failed .closed else .misfit .missing))
        transport.script

/-- This number tells how often a close reaches the connection. -/
def closesConnection (transport : Transport) : Nat :=
  if transport.closed = false ∧ transport.owned = true then 1 else 0

def close (transport : Transport) : Transport := { transport with closed := true }

def advance (transport : Transport) (script : Script) : Transport :=
  { transport with script := script }

end Transport

end CheckpointReport
