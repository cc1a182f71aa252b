/-
This file decodes the bytes of a body. A body may be in UTF-8, UTF-16 or UTF-32. A mark at the
start tells which, and without a mark the positions of zero bytes do.
-/

namespace CheckpointReport.Text

inductive Encoding where
  | utf8
  | utf16 (bigEndian : Bool)
  | utf32 (bigEndian : Bool)
  deriving DecidableEq, Repr

/-- The first character of a body is ASCII, so its zero bytes show the width and the order. -/
def Encoding.byZeros : List UInt8 → Encoding
  | 0 :: 0 :: _ :: _ :: _ => .utf32 true
  | 0 :: _ :: _ :: _ :: _ => .utf16 true
  | _ :: 0 :: 0 :: 0 :: _ => .utf32 false
  | _ :: 0 :: _ :: _ :: _ => .utf16 false
  | [0, _] => .utf16 true
  | [_, 0] => .utf16 false
  | _ => .utf8

/-- The mark is not part of the text. -/
def Encoding.detect : List UInt8 → Encoding × List UInt8
  | 0 :: 0 :: 0xFE :: 0xFF :: rest => (.utf32 true, rest)
  | 0xFF :: 0xFE :: 0 :: 0 :: rest => (.utf32 false, rest)
  | 0xFE :: 0xFF :: rest => (.utf16 true, rest)
  | 0xFF :: 0xFE :: rest => (.utf16 false, rest)
  | 0xEF :: 0xBB :: 0xBF :: rest => (.utf8, rest)
  | bytes => (byZeros bytes, bytes)

/-- A code point has a character when it is in range and no surrogate. -/
def charOf? (code : Nat) : Option Char :=
  if valid : code.isValidChar then some (Char.ofNatAux code valid) else none

def unitOf (bigEndian : Bool) (first second : UInt8) : Nat :=
  if bigEndian then 256 * first.toNat + second.toNat else 256 * second.toNat + first.toNat

/-- Two bytes make one unit. -/
def units? (bigEndian : Bool) : List UInt8 → Option (List Nat)
  | [] => some []
  | [_] => none
  | first :: second :: rest =>
      (units? bigEndian rest).map (unitOf bigEndian first second :: ·)

def isHighSurrogate (unit : Nat) : Bool := 0xD800 ≤ unit && unit ≤ 0xDBFF

def isLowSurrogate (unit : Nat) : Bool := 0xDC00 ≤ unit && unit ≤ 0xDFFF

/-- A high and a low surrogate together name a code point above the basic plane. -/
def joinSurrogates (high low : Nat) : Nat :=
  0x10000 + 0x400 * (high - 0xD800) + (low - 0xDC00)

/-- This character is shown for every surrogate that stands alone. Two keys of a body that differ in
such surrogates only are thus read as one key. -/
def replacement : Char := Char.ofNat 0xFFFD

def shownChar (code : Nat) : Char := (charOf? code).getD replacement

/-- Surrogates that stand in pairs are joined, and the others are replaced. -/
def joinUnits : List Nat → List Char
  | [] => []
  | [unit] => [shownChar unit]
  | high :: low :: rest =>
      if isHighSurrogate high && isLowSurrogate low then
        shownChar (joinSurrogates high low) :: joinUnits rest
      else shownChar high :: joinUnits (low :: rest)

/-- Four bytes make one code point. -/
def codes? (bigEndian : Bool) : List UInt8 → Option (List Nat)
  | [] => some []
  | one :: two :: three :: four :: rest =>
      let high := if bigEndian then unitOf true one two else unitOf false three four
      let low := if bigEndian then unitOf true three four else unitOf false one two
      let code := 0x10000 * high + low
      if code < 0x110000 then (codes? bigEndian rest).map (code :: ·) else none
  | _ => none

def isContinuation (byte : UInt8) : Bool := 0x80 ≤ byte && byte ≤ 0xBF

/-- The three bytes of a surrogate become those of the replacement character. -/
def replaceSurrogates : List UInt8 → List UInt8
  | 0xED :: second :: third :: rest =>
      if 0xA0 ≤ second && isContinuation second && isContinuation third then
        0xEF :: 0xBF :: 0xBD :: replaceSurrogates rest
      else 0xED :: replaceSurrogates (second :: third :: rest)
  | byte :: rest => byte :: replaceSurrogates rest
  | [] => []

/-- This function refuses every byte sequence that its encoding cannot produce, but for
surrogates that stand alone. -/
def decode? (bytes : List UInt8) : Option (List Char) :=
  match Encoding.detect bytes with
  | (.utf8, rest) => (String.fromUTF8? ⟨(replaceSurrogates rest).toArray⟩).map String.toList
  | (.utf16 bigEndian, rest) => (units? bigEndian rest).map joinUnits
  | (.utf32 bigEndian, rest) => (codes? bigEndian rest).map (List.map shownChar)

end CheckpointReport.Text
