/-
This file writes values for a reader of messages. A value has no text when it holds an integer
beyond the limit of numerals.
-/

import CheckpointReport.Binary64.Shortest
import CheckpointReport.Text.Numeral
import CheckpointReport.Text.Quoted
import CheckpointReport.Value

namespace CheckpointReport

/-- These are the spellings of the constants and the brackets of messages. -/
structure Spelling where
  null : String
  yes : String
  no : String
  opening : String
  closing : String
  opened : String
  closed : String
  viewOpening : String
  viewClosing : String

def Spelling.standard : Spelling where
  null := "None"
  yes := "True"
  no := "False"
  opening := "["
  closing := "]"
  opened := "\x7b"
  closed := "\x7d"
  viewOpening := "mappingproxy("
  viewClosing := ")"

def Spelling.flag (spelling : Spelling) (flag : Bool) : String :=
  if flag then spelling.yes else spelling.no

/-- Commas stand between the parts. -/
def commaSeparated (parts : List String) : String := ", ".intercalate parts

def Key.shown? : Key → Option String
  | .null => some Spelling.standard.null
  | .bool flag => some (Spelling.standard.flag flag)
  | .int number => Text.numeral? number
  | .float number => some number.text
  | .text content => some (Text.quoted content)

namespace Value

mutual

/-- Texts are quoted inside the text of a value. -/
def shown? : Value → Option String
  | .null => some Spelling.standard.null
  | .bool flag => some (Spelling.standard.flag flag)
  | .int number => Text.numeral? number
  | .float number => some number.text
  | .text content => some (Text.quoted content)
  | .list items =>
      (shownItems? items).map fun parts =>
        Spelling.standard.opening ++ commaSeparated parts ++ Spelling.standard.closing
  | .object members =>
      (shownMembers? members).map fun parts =>
        Spelling.standard.opened ++ commaSeparated parts ++ Spelling.standard.closed
  | .view members =>
      (shownEntries? members).map fun parts =>
        Spelling.standard.viewOpening ++ Spelling.standard.opened ++ commaSeparated parts ++
          Spelling.standard.closed ++ Spelling.standard.viewClosing
termination_by structural value => value

def shownItems? : List Value → Option (List String)
  | [] => some []
  | item :: rest =>
      match item.shown?, shownItems? rest with
      | some part, some parts => some (part :: parts)
      | _, _ => none
termination_by structural items => items

def shownMembers? : List (Key × Value) → Option (List String)
  | [] => some []
  | (key, value) :: rest =>
      match key.shown?, value.shown?, shownMembers? rest with
      | some name, some part, some parts => some ((name ++ ": " ++ part) :: parts)
      | _, _, _ => none
termination_by structural members => members

def shownEntries? : List (String × Value) → Option (List String)
  | [] => some []
  | (name, value) :: rest =>
      match value.shown?, shownEntries? rest with
      | some part, some parts => some ((Text.quoted name ++ ": " ++ part) :: parts)
      | _, _ => none
termination_by structural entries => entries

end

/-- A text alone is written without quotes, and a view alone like an object. -/
def display? : Value → Option String
  | .text content => some content
  | .view members =>
      (shownEntries? members).map fun parts =>
        Spelling.standard.opened ++ commaSeparated parts ++ Spelling.standard.closed
  | value => value.shown?

end Value

end CheckpointReport
