/-
This file lists the steps of programs over records, and what the steps reply.
-/

import CheckpointReport.Report
import CheckpointReport.Snapshot

namespace CheckpointReport

/-- The tasks of a new record are null, empty, those of a named cell, or nothing that can hold
tasks. -/
inductive TasksField where
  | null
  | empty
  | named (name : String)
  | unsuitable
  deriving Repr

/-- The attributes that a program gives, with the tasks apart. -/
structure Fields where
  members : Members
  tasks : Option TasksField
  deriving Repr

/-- A shared copy keeps the origin of whatever is no number. A transferred copy was written out and
read back, so nothing in it has an old origin. -/
inductive CopyWay where
  | shared
  | transferred
  deriving DecidableEq, Repr

inductive WorkStep where
  | task (target : String) (fields : Fields)
  | map (target : String) (items : List (Value × String))
  | put (map : String) (key : Value) (item : String)
  | remove (map : String) (key : Value)
  | new (target : String) (kind : Kind) (fields : Fields)
  | replace (source target : String) (fields : Fields)
  | assign (of : String) (field : Value)
  | delete (of : String) (field : Value)
  | compare (one two : String)
  | encode (of : String)
  | attributes (of : String)
  | decode (target : String) (record : Value)
  | recode (source target : String)
  | summarize (target : String) (source : Source) (detail : Bool)
  | clone (source target : String) (way : CopyWay)
  | tasksOf (source target : String)
  deriving Repr

/-- A comparison also tells what the hashes of the two items are taken from. -/
inductive WorkReply where
  | done
  | compared (same : Bool) (first second : List Value)
  | encoded (members : Members)
  | attributes (value : Value)
  | cloned (same : Bool)
  | taskIds (ids : List Key)
  deriving Repr

end CheckpointReport
