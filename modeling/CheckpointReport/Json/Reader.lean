/-
This file reads a JSON text as a value. The open lists and objects stand on a stack, and each
token changes the stack.
-/

import CheckpointReport.Json.Token

namespace CheckpointReport.Json

/-- An open list holds its items in reverse order. An open object holds its members and the key
whose value comes next. -/
inductive Frame where
  | items (reversed : List Value)
  | members (members : Members) (key : String)
  deriving Repr

/-- This tells which tokens may come next. -/
inductive Expected where
  | value
  | valueOrClose
  | key
  | keyOrClose
  | colon
  | commaOrClose
  | finished (value : Value)
  deriving Repr

structure Reader where
  stack : List Frame
  expected : Expected
  deriving Repr

def Reader.start : Reader := ⟨[], .value⟩

/-- A complete value goes to the innermost open list or object. The last value of a repeated key
counts, at the position of the first. -/
def complete (value : Value) : List Frame → Reader
  | [] => ⟨[], .finished value⟩
  | .items reversed :: outer => ⟨.items (value :: reversed) :: outer, .commaOrClose⟩
  | .members members key :: outer =>
      ⟨.members (putEntry key value members) key :: outer, .commaOrClose⟩

def closeList? : List Frame → Option Reader
  | .items reversed :: outer => some (complete (.list reversed.reverse) outer)
  | _ => none

def closeObject? : List Frame → Option Reader
  | .members members _ :: outer => some (complete (.ofMembers members) outer)
  | _ => none

def setKey? (content : String) : List Frame → Option Reader
  | .members members _ :: outer => some ⟨.members members content :: outer, .colon⟩
  | _ => none

/-- A comma is followed by an item in a list and by a key in an object. -/
def afterComma? : List Frame → Option Reader
  | .items reversed :: outer => some ⟨.items reversed :: outer, .value⟩
  | .members members key :: outer => some ⟨.members members key :: outer, .key⟩
  | [] => none

/-- A value starts with a literal, a text or an opening bracket. -/
def startValue? (stack : List Frame) : Token → Option Reader
  | .literal value => some (complete value stack)
  | .text content => some (complete (.text content) stack)
  | .openList => some ⟨.items [] :: stack, .valueOrClose⟩
  | .openObject => some ⟨.members [] "" :: stack, .keyOrClose⟩
  | _ => none

/-- A token that may not come next is refused. -/
def Reader.step? (reader : Reader) (token : Token) : Option Reader :=
  match reader.expected, token with
  | .value, token => startValue? reader.stack token
  | .valueOrClose, .closeList => closeList? reader.stack
  | .valueOrClose, token => startValue? reader.stack token
  | .key, .text content => setKey? content reader.stack
  | .keyOrClose, .text content => setKey? content reader.stack
  | .keyOrClose, .closeObject => closeObject? reader.stack
  | .colon, .colon => some ⟨reader.stack, .value⟩
  | .commaOrClose, .comma => afterComma? reader.stack
  | .commaOrClose, .closeList => closeList? reader.stack
  | .commaOrClose, .closeObject => closeObject? reader.stack
  | _, _ => none

def Reader.run? (reader : Reader) : List Token → Option Reader
  | [] => some reader
  | token :: rest =>
      match reader.step? token with
      | some next => next.run? rest
      | none => none

/-- Exactly one value uses up the tokens. -/
def value? (tokens : List Token) : Option Value :=
  match Reader.start.run? tokens with
  | some ⟨_, .finished value⟩ => some value
  | _ => none

/-- Integers in a text of the library's own may have any number of digits. -/
def ofText? (text : List Char) : Option Value := (tokens? text).bind value?

/-- This is the greatest number of lists and objects that may be open at once. -/
def nestingLimit : Nat := 985

/-- The depth counts the lists and objects that are open, and no closing token takes it below
zero. -/
def nestsWithin (limit : Nat) : Nat → List Token → Bool
  | _, [] => true
  | depth, token :: rest =>
      match token with
      | .openList => depth < limit && nestsWithin limit (depth + 1) rest
      | .openObject => depth < limit && nestsWithin limit (depth + 1) rest
      | .closeList => nestsWithin limit (depth - 1) rest
      | .closeObject => nestsWithin limit (depth - 1) rest
      | _ => nestsWithin limit depth rest

def isAcceptable (tokens : List Token) : Bool :=
  tokens.all Token.isWithinLimit && nestsWithin nestingLimit 0 tokens

/-- Integers in a foreign body are held to the limit of numerals, and its lists and objects to
the limit of nesting. -/
def ofBytes? (bytes : List UInt8) : Option Value :=
  match (Text.decode? bytes).bind tokens? with
  | some tokens => if isAcceptable tokens then value? tokens else none
  | none => none

end CheckpointReport.Json
