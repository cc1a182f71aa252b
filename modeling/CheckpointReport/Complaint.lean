/-
This file tells how a caller sees the errors of this library. An error has a class and a message,
and it may tell a status and a cause.
-/

import CheckpointReport.Client
import CheckpointReport.Config.Properties
import CheckpointReport.Summary

namespace CheckpointReport

/-- Whatever is malformed or absent has the class of a refused request. A value out of its bounds
and a value that does not fit have classes outside of this library. -/
inductive ErrorClass where
  | failure (family : Family)
  | invalidState
  | unsupportedKind
  | badValue
  | misfit (cause : Misfit)
  deriving DecidableEq, Repr

/-- A complaint is all that a caller sees of an error. -/
structure Complaint where
  kind : ErrorClass
  message : String
  status : Option Int
  cause : Option String
  deriving DecidableEq, Repr

namespace Complaint

/-- Only the failure of a request knows a status or a cause. -/
def plain (kind : ErrorClass) (message : String) : Complaint := ⟨kind, message, none, none⟩

/-- A request that is refused for a bad value has a class of this library, and it keeps the
message. -/
def refused (complaint : Complaint) : Complaint :=
  match complaint.kind with
  | .badValue => .plain (.failure .invalid) complaint.message
  | _ => complaint

/-- A caller who does not read messages cannot tell these complaints apart. -/
def SameKind (one two : Complaint) : Prop :=
  one.kind = two.kind ∧ one.status = two.status ∧ one.cause = two.cause

end Complaint

def Failure.complaint (failure : Failure) : Complaint :=
  ⟨.failure failure.family, failure.message, failure.status?, failure.cause?⟩

def Malformed.complaint (malformed : Malformed) : Complaint :=
  .plain (.failure .invalid) malformed.message

def Refusal.errorClass : Refusal → ErrorClass
  | .absent => .failure .invalid
  | .unsupported _ => .unsupportedKind
  | .excess => .badValue
  | .unalignedSavepoint => .invalidState
  | .misfit cause => .misfit cause

def Refusal.complaint (refusal : Refusal) : Complaint := .plain refusal.errorClass refusal.message

/-- A client that is closed says so with a class of its own, which is none of these. Exceptions of
others are no complaints, and neither are limits, delays and identifiers that do not fit. -/
def ClientError.complaint? : ClientError → Option Complaint
  | .closed => none
  | .jobId => some (.plain (.failure .invalid) jobIdMessage)
  | .checkpointId => some (.plain (.failure .invalid) checkpointIdMessage)
  | .overlongId => none
  | .get (.failed failure) => some failure.complaint
  | .get _ => none
  | .malformed cause => some cause.complaint
  | .historyNotList => some (.plain (.failure .protocol) historyMessage)

def Breach.complaint : Breach → Complaint
  | .violated violation => .plain .badValue violation.message
  | .misfit cause => .plain (.misfit cause) cause.message

/-- A text that is no integer is a bad value. What is no text at all has classes outside of this
library. -/
def PropertyError.complaint? (error : PropertyError) : Option Complaint :=
  match error with
  | .notInteger _ => some (.plain .badValue error.message)
  | _ => none

end CheckpointReport
