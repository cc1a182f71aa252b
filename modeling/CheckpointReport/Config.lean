/-
This file defines the configuration of a client and the bounds that it must keep. A configuration
may be given with any values, and only a check tells whether they fit.
-/

import CheckpointReport.Value.Arithmetic
import CheckpointReport.Value.Display

namespace CheckpointReport

/-- A request is repeated while the job manager restarts or is overloaded. The delay starts at
the initial one and doubles up to the greatest one. -/
structure Retry where
  maxAttempts : Value
  initialDelay : Value
  maxDelay : Value
  statuses : List Value
  deriving Repr

def Retry.standard : Retry where
  maxAttempts := .int 3
  initialDelay := .float (.ofDecimal false 5 (-1))
  maxDelay := .float (.ofDecimal false 5 0)
  statuses := [.int 502, .int 503, .int 504]

structure Config where
  address : Value
  restPort : Value
  encrypted : Value
  timeout : Value
  userAgent : Value
  retry : Retry
  deriving Repr

def Config.standard : Config where
  address := .text "localhost"
  restPort := .int 8081
  encrypted := .bool false
  timeout := .float (.ofDecimal false 10 0)
  userAgent := .text "checkpoint-stats/0.1.0"
  retry := .standard

/-- Each bound has its own violation. -/
inductive Violation where
  | attempts
  | initialDelay
  | maxDelay
  | statuses
  | address
  | restPort
  | encrypted
  | timeout
  deriving DecidableEq, Repr

def Violation.message : Violation → String
  | .attempts => "retry.max_attempts must be >= 1"
  | .initialDelay => "retry.initial_delay_seconds must be >= 0"
  | .maxDelay => "retry.max_delay_seconds must be >= retry.initial_delay_seconds"
  | .statuses => "retry.retry_on_http_statuses must only hold 5xx statuses"
  | .address => "rest_address must not be empty"
  | .restPort => "rest_port must be within 1..65535"
  | .encrypted => "use_ssl must be bool"
  | .timeout => "request_timeout_seconds must be > 0"

/-- A check ends at the first bound that is broken, or at a value that cannot be compared with
its bound. -/
inductive Breach where
  | violated (violation : Violation)
  | misfit (cause : Misfit)
  deriving DecidableEq, Repr

/-- A bound holds, is broken, or cannot be told. -/
def Violation.unless (violation : Violation) : Option Bool → Except Breach Unit
  | some true => .ok ()
  | some false => .error (.violated violation)
  | none => .error (.misfit .operand)

/-- This function compares a value with an integer below and an integer above. -/
def Value.between? (low high : Int) (value : Value) : Option Bool :=
  value.number?.map fun number =>
    Number.less (.int low) number && number.less (.int high)

/-- A server blames itself with these statuses. -/
def isServerStatus? (status : Value) : Option Bool :=
  status.number?.map fun number =>
    Number.atMost (.int 500) number && number.less (.int 600)

namespace Retry

/-- The first status out of place ends the check. -/
def checkStatuses : List Value → Except Breach Unit
  | [] => .ok ()
  | status :: rest =>
      match Violation.statuses.unless (isServerStatus? status) with
      | .ok _ => checkStatuses rest
      | .error breach => .error breach

/-- The first breach in this order is reported. -/
def check (retry : Retry) : Except Breach Unit := do
  Violation.attempts.unless
    (Value.numeric? (fun bound attempts => !attempts.less bound) (.int 1) retry.maxAttempts)
  Violation.initialDelay.unless
    (Value.numeric? (fun bound delay => !delay.less bound) (.int 0) retry.initialDelay)
  Violation.maxDelay.unless
    (Value.numeric? (fun bound delay => !delay.less bound) retry.initialDelay retry.maxDelay)
  checkStatuses retry.statuses

end Retry

namespace Config

/-- The bounds of the retries come last. -/
def check (config : Config) : Except Breach Unit := do
  Violation.address.unless (some config.address.truthy)
  Violation.restPort.unless (config.restPort.between? 0 65536)
  Violation.encrypted.unless (some config.encrypted.flag?.isSome)
  Violation.timeout.unless
    (Value.numeric? (fun bound timeout => !timeout.atMost bound) (.int 0) config.timeout)
  config.retry.check

def scheme (config : Config) : String := if config.encrypted.truthy then "https" else "http"

/-- The base of all paths has no text when its address or its number has none. -/
def baseUrl? (config : Config) : Option String :=
  match config.address.display?, config.restPort.display? with
  | some address, some number => some (config.scheme ++ "://" ++ address ++ ":" ++ number ++ "/")
  | _, _ => none

end Config

end CheckpointReport
