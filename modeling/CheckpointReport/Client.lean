/-
This file defines the client that reads records from a job manager. It checks every identifier
before it asks for anything.
-/

import CheckpointReport.Report.Codec
import CheckpointReport.Transport

namespace CheckpointReport

/-- These are the ways in which a call of a client fails. -/
inductive ClientError where
  | closed
  | jobId
  | checkpointId
  | overlongId
  | get (error : GetError)
  | malformed (malformed : Malformed)
  | historyNotList
  deriving Repr

/-- These are the wordings of the failures that belong to the client alone. -/
def closedMessage : String := "CheckpointStatsClient is already closed"

def jobIdMessage : String := "job_id is invalid"

def checkpointIdMessage : String := "checkpoint_id is invalid"

def historyMessage : String := "history must be a list"

def isJobDigit (c : Char) : Bool := ('0' ≤ c && c ≤ '9') || ('a' ≤ c && c ≤ 'f')

/-- The identifier of a job has 32 hexadecimal digits in small letters. -/
def jobId? : Value → Option String
  | .text content =>
      if content.length = 32 ∧ content.toList.all isJobDigit = true then some content else none
  | _ => none

/-- The identifier of a checkpoint is an integer that is not negative. -/
def checkpointId? : Value → Option Int
  | .int number => if 0 ≤ number then some number else none
  | _ => none

def checkpointsPath (job : String) : String := "jobs/" ++ job ++ "/checkpoints"

def detailsPath (job number : String) : String := checkpointsPath job ++ "/details/" ++ number

def historyKey : String := "history"

/-- A missing history is empty, and one bad item spoils all. -/
def decodeHistory (payload : Members) : Except ClientError (List Report) :=
  match findEntry historyKey payload with
  | none => .ok []
  | some (.list items) =>
      match items.mapM Report.decode with
      | .ok records => .ok records
      | .error malformed => .error (.malformed malformed)
  | some _ => .error .historyNotList

inductive Call where
  | details (job checkpoint : Value)
  | history (job : Value)
  | close
  | closeTransport
  | enter
  | exit
  deriving Repr

inductive Reply where
  | record (report : Report)
  | records (reports : List Report)
  | done
  | entered
  | left
  deriving Repr

/-- The client and its transport are closed one by one. -/
structure Client where
  transport : Transport
  closed : Bool

namespace Client

abbrev Step := Exchange ClientError Reply

def silent (client : Client) (result : Except ClientError Reply) : Step :=
  .silent result client.transport.script

def decodeDetails : Except GetError Members → Except ClientError Reply
  | .error error => .error (.get error)
  | .ok payload =>
      match Report.decode (.ofMembers payload) with
      | .ok report => .ok (.record report)
      | .error malformed => .error (.malformed malformed)

def details (client : Client) (job checkpoint : Value) : Step :=
  if client.closed then client.silent (.error .closed)
  else
    match jobId? job, checkpointId? checkpoint with
    | none, _ => client.silent (.error .jobId)
    | some _, none => client.silent (.error .checkpointId)
    | some job, some number =>
        match Text.numeral? number with
        | none => client.silent (.error .overlongId)
        | some number => (client.transport.get (detailsPath job number)).map decodeDetails

def decodeRecords : Except GetError Members → Except ClientError (List Report)
  | .error error => .error (.get error)
  | .ok payload => decodeHistory payload

/-- The journal is told about a history when all its records were read. -/
def withHistory (job : String) (exchange : Exchange ClientError (List Report)) : Step :=
  match exchange.result with
  | .error error => exchange.map fun _ => .error error
  | .ok records =>
      { exchange.map (fun _ => .ok (.records records)) with
        log := exchange.log ++ [.history job records.length] }

def history (client : Client) (job : Value) : Step :=
  if client.closed then client.silent (.error .closed)
  else
    match jobId? job with
    | none => client.silent (.error .jobId)
    | some job => withHistory job ((client.transport.get (checkpointsPath job)).map decodeRecords)

/-- A first close reaches the transport, and later ones do nothing. The connection is taken to close
without an exception. -/
def close (client : Client) (reply : Reply) : Step × Client :=
  if client.closed then (client.silent (.ok reply), client)
  else
    ({ client.silent (.ok reply) with closes := client.transport.closesConnection },
      { client with transport := client.transport.close, closed := true })

def closeTransport (client : Client) : Step × Client :=
  ({ client.silent (.ok .done) with closes := client.transport.closesConnection },
    { client with transport := client.transport.close })

def advance (client : Client) (step : Step) : Step × Client :=
  (step, { client with transport := client.transport.advance step.script })

/-- One call gives what it did and the client after it. -/
def call (client : Client) : Call → Step × Client
  | .details job checkpoint => client.advance (client.details job checkpoint)
  | .history job => client.advance (client.history job)
  | .close => client.close .done
  | .closeTransport => client.closeTransport
  | .enter =>
      if client.closed then (client.silent (.error .closed), client)
      else (client.silent (.ok .entered), client)
  | .exit => client.close .left

def run (client : Client) : List Call → List Step × Client
  | [] => ([], client)
  | call :: rest =>
      let (step, next) := client.call call
      let (steps, last) := next.run rest
      (step :: steps, last)

end Client

end CheckpointReport
