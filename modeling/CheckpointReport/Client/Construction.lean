/-
This file makes clients. A configuration is checked before anything is connected.
-/

import CheckpointReport.Complaint

namespace CheckpointReport

namespace Config

/-- A bound that is broken is a bad value. -/
def validate (config : Config) : Except Complaint Unit := config.check.mapError Breach.complaint

/-- A client refuses a bad value as it refuses a request. -/
def approve (config : Config) : Except Complaint Unit := config.validate.mapError Complaint.refused

end Config

/-- A client is refused, or its connection cannot be made. -/
inductive ConstructionError where
  | refused (complaint : Complaint)
  | raised (raised : Raised)
  deriving DecidableEq, Repr

/-- The connections that were asked for are listed beside the result. -/
structure Construction where
  result : Except ConstructionError Client
  connected : List Config

namespace Client

/-- Another party makes the connection, and the script tells what it will answer. -/
def connect (connection : Config → Except Raised Script) (config : Config) : Construction :=
  match connection config with
  | .ok script => ⟨.ok ⟨.make config true script, false⟩, [config]⟩
  | .error raised => ⟨.error (.raised raised), [config]⟩

/-- A client connects only when it is given no transport. A client without a configuration takes
the standard one. -/
def construct (connection : Config → Except Raised Script) (config : Option Config)
    (given : Option Transport) : Construction :=
  let config := config.getD .standard
  match config.approve with
  | .error complaint => ⟨.error (.refused complaint), []⟩
  | .ok _ =>
      match given with
      | some transport => ⟨.ok ⟨transport, false⟩, []⟩
      | none => connect connection config

end Client

end CheckpointReport
