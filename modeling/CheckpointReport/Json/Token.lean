/-
This file splits a JSON text into tokens. The text is read character by character, and a state
tells what the characters before it have opened.
-/

import CheckpointReport.Text.Encoding
import CheckpointReport.Text.Numeral
import CheckpointReport.Value

namespace CheckpointReport.Json

/-- A literal is a number or one of the named constants. -/
inductive Token where
  | openList
  | closeList
  | openObject
  | closeObject
  | comma
  | colon
  | text (content : String)
  | literal (value : Value)
  deriving Repr

/-- This holds unless the token is an integer beyond the limit of numerals. -/
def Token.isWithinLimit : Token → Bool
  | .literal (.int number) => Text.fitsNumeral number
  | _ => true

/-- The collected characters stand in reverse order. Those of a text are code units, so that
two escapes can form one character. -/
inductive Scan where
  | between
  | literal (reversed : List Char)
  | text (reversed : List Nat)
  | escape (reversed : List Nat)
  | code (reversed : List Nat) (digits : Nat) (value : Nat)
  deriving Repr

/-- Only these four characters may stand between tokens. -/
def isSpace (c : Char) : Bool := c = ' ' || c = '\t' || c = '\n' || c = '\r'

def isQuote (c : Char) : Bool := c.toNat == 0x22

def isBackslash (c : Char) : Bool := c.toNat == 0x5C

/-- Each of these characters is a token by itself. -/
def punctuation? : Char → Option Token
  | '[' => some .openList
  | ']' => some .closeList
  | '\x7b' => some .openObject
  | '\x7d' => some .closeObject
  | ',' => some .comma
  | ':' => some .colon
  | _ => none

/-- A number has an integer part without extra zeros, and may have a fraction and an exponent. -/
structure NumberParts where
  negative : Bool
  whole : List Char
  fraction : Option (List Char)
  exponent : Option (Bool × List Char)
  deriving DecidableEq, Repr

def isDigit (c : Char) : Bool := '0' ≤ c && c ≤ '9'

def exponentPart? : List Char → Option (Bool × List Char)
  | '-' :: digits => if digits ≠ [] ∧ digits.all isDigit then some (true, digits) else none
  | '+' :: digits => if digits ≠ [] ∧ digits.all isDigit then some (false, digits) else none
  | digits => if digits ≠ [] ∧ digits.all isDigit then some (false, digits) else none

/-- The exponent starts with the letter e in either case. -/
def afterFraction? (parts : NumberParts) : List Char → Option NumberParts
  | [] => some parts
  | c :: rest =>
      if c = 'e' ∨ c = 'E' then
        (exponentPart? rest).map fun exponent => { parts with exponent := some exponent }
      else none

def afterWhole? (parts : NumberParts) : List Char → Option NumberParts
  | '.' :: rest =>
      let digits := rest.takeWhile isDigit
      if digits = [] then none
      else afterFraction? { parts with fraction := some digits } (rest.dropWhile isDigit)
  | rest => afterFraction? parts rest

def unsignedParts? (negative : Bool) (text : List Char) : Option NumberParts :=
  let whole := text.takeWhile isDigit
  if whole = [] ∨ (whole.head? = some '0' ∧ whole ≠ ['0']) then none
  else afterWhole? ⟨negative, whole, none, none⟩ (text.dropWhile isDigit)

def numberParts? : List Char → Option NumberParts
  | '-' :: rest => unsignedParts? true rest
  | text => unsignedParts? false text

def digitsValue (digits : List Char) : Nat :=
  digits.foldl (fun value c => 10 * value + (c.toNat - 0x30)) 0

/-- A number without fraction and exponent is an integer. -/
def NumberParts.value (parts : NumberParts) : Value :=
  match parts.fraction, parts.exponent with
  | none, none =>
      let size : Int := digitsValue parts.whole
      .int (if parts.negative then -size else size)
  | fraction, exponent =>
      let after := fraction.getD []
      let power : Int :=
        match exponent with
        | some (true, digits) => -(digitsValue digits : Int)
        | some (false, digits) => digitsValue digits
        | none => 0
      .float
        (.ofDecimal parts.negative (digitsValue (parts.whole ++ after)) (power - after.length))

/-- The named constants include the numbers that have no digits. -/
def literal? (text : List Char) : Option Value :=
  match String.ofList text with
  | "null" => some .null
  | "true" => some (.bool true)
  | "false" => some (.bool false)
  | "NaN" => some (.float .invalid)
  | "Infinity" => some (.float (.infinite false))
  | "-Infinity" => some (.float (.infinite true))
  | _ => (numberParts? text).map NumberParts.value

def textToken (reversed : List Nat) : Token :=
  .text (String.ofList (Text.joinUnits reversed.reverse))

/-- A letter after a backslash stands for one character. -/
def escaped? (c : Char) : Option Nat :=
  if isQuote c || isBackslash c || c = '/' then some c.toNat
  else
    match c with
    | 'b' => some 0x8
    | 'f' => some 0xC
    | 'n' => some 0xA
    | 'r' => some 0xD
    | 't' => some 0x9
    | _ => none

def hexValue? (c : Char) : Option Nat :=
  if '0' ≤ c && c ≤ '9' then some (c.toNat - 0x30)
  else if 'a' ≤ c && c ≤ 'f' then some (c.toNat - 0x61 + 10)
  else if 'A' ≤ c && c ≤ 'F' then some (c.toNat - 0x41 + 10)
  else none

/-- Outside of texts a character opens a text, is a token, is skipped, or starts a literal. -/
def stepBetween (c : Char) : Scan × List Token :=
  if isSpace c then (.between, [])
  else if isQuote c then (.text [], [])
  else
    match punctuation? c with
    | some token => (.between, [token])
    | none => (.literal [c], [])

/-- A literal ends where a token of another kind or a space begins. -/
def endsLiteral (c : Char) : Bool := isSpace c || isQuote c || (punctuation? c).isSome

/-- One character moves the state and may complete tokens. -/
def Scan.step : Scan → Char → Option (Scan × List Token)
  | .between, c => some (stepBetween c)
  | .literal reversed, c =>
      if endsLiteral c then
        (literal? reversed.reverse).map fun value =>
          let (next, tokens) := stepBetween c
          (next, .literal value :: tokens)
      else some (.literal (c :: reversed), [])
  | .text reversed, c =>
      if isQuote c then some (.between, [textToken reversed])
      else if isBackslash c then some (.escape reversed, [])
      else if c.toNat < 0x20 then none
      else some (.text (c.toNat :: reversed), [])
  | .escape reversed, c =>
      if c = 'u' then some (.code reversed 0 0, [])
      else (escaped? c).map fun unit => (.text (unit :: reversed), [])
  | .code reversed digits value, c =>
      (hexValue? c).map fun digit =>
        if digits = 3 then (.text ((16 * value + digit) :: reversed), [])
        else (.code reversed (digits + 1) (16 * value + digit), [])

/-- A text must be closed before the end. -/
def Scan.finish : Scan → Option (List Token)
  | .between => some []
  | .literal reversed => (literal? reversed.reverse).map fun value => [.literal value]
  | _ => none

/-- The tokens already read stand in reverse order. -/
def tokensFrom? (scan : Scan) (done : List Token) : List Char → Option (List Token)
  | [] => scan.finish.map fun last => done.reverse ++ last
  | c :: rest =>
      match scan.step c with
      | some (next, tokens) => tokensFrom? next (tokens.reverseAux done) rest
      | none => none

def tokens? (text : List Char) : Option (List Token) := tokensFrom? .between [] text

end CheckpointReport.Json
