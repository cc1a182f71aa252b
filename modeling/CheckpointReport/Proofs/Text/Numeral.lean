/-
This file relates the numerals that are read to a grammar. A numeral has blanks around it, a sign
that may be missing, and digits with single underscores between them.
-/

import CheckpointReport.Text.Numeral
import Mathlib.Data.List.Induction
import Mathlib.Data.List.TakeWhile
import Mathlib.Data.Nat.Digits.Lemmas

namespace CheckpointReport.Text

section Trim

variable (kind : Char → Bool) (left core right : List Char)

/-- What begins with no character of a kind is all that is left of it. -/
theorem dropWhile_append_of_head (leading : ∀ c ∈ left, kind c = true)
    (kept : ∀ c ∈ core.head?, kind c = false) : (left ++ core).dropWhile kind = core := by
  rw [List.dropWhile_append, List.dropWhile_eq_nil_iff.mpr leading]
  cases core with
  | nil => rfl
  | cons c rest => simpa using kept c

/-- A text without characters of a kind is what is left when they are trimmed around it. -/
theorem trim_append (leading : ∀ c ∈ left, kind c = true) (trailing : ∀ c ∈ right, kind c = true)
    (kept : ∀ c ∈ core, kind c = false) : trim kind (left ++ core ++ right) = core := by
  cases core with
  | nil =>
      have blank : ∀ c ∈ left ++ [] ++ right, kind c = true := by
        simpa [or_imp, forall_and] using ⟨leading, trailing⟩
      rw [trim, List.dropWhile_eq_nil_iff.mpr blank]
      rfl
  | cons first rest =>
      have front : (left ++ (first :: rest ++ right)).dropWhile kind = first :: rest ++ right :=
        dropWhile_append_of_head kind left _ leading (by simpa using kept first)
      have back : (right.reverse ++ (first :: rest).reverse).dropWhile kind =
          (first :: rest).reverse := by
        apply dropWhile_append_of_head kind
        · simpa using trailing
        · intro c last
          rw [List.head?_reverse] at last
          exact kept c (List.mem_of_getLast? last)
      rw [trim, List.append_assoc, front, List.reverse_append, back, List.reverse_reverse]

theorem exists_trim (text : List Char) :
    ∃ left right, text = left ++ trim kind text ++ right ∧ (∀ c ∈ left, kind c = true) ∧
      ∀ c ∈ right, kind c = true := by
  refine ⟨text.takeWhile kind, ((text.dropWhile kind).reverse.takeWhile kind).reverse, ?_, ?_, ?_⟩
  · rw [trim, List.append_assoc, ← List.reverse_append, List.takeWhile_append_dropWhile,
      List.reverse_reverse, List.takeWhile_append_dropWhile]
  · exact fun c member => List.mem_takeWhile_imp member
  · exact fun c member => List.mem_takeWhile_imp (List.mem_reverse.mp member)

end Trim

/-- Digits stand in a row, and one underscore may stand between two of them. -/
inductive Grouped : List Char → List Nat → Prop
  | last (c : Char) (digit : Nat) (known : digitValue? c = some digit) : Grouped [c] [digit]
  | next (c : Char) (digit : Nat) (rest : List Char) (digits : List Nat)
      (known : digitValue? c = some digit) (others : Grouped rest digits) :
      Grouped (c :: rest) (digit :: digits)
  | apart (c : Char) (digit : Nat) (rest : List Char) (digits : List Nat)
      (known : digitValue? c = some digit) (others : Grouped rest digits) :
      Grouped (c :: '_' :: rest) (digit :: digits)

/-- This is what may follow a digit. -/
def Continued (text : List Char) (digits : List Nat) : Prop :=
  text = [] ∧ digits = [] ∨ Grouped text digits ∨ ∃ rest, text = '_' :: rest ∧ Grouped rest digits

theorem digitValue?_underscore : digitValue? '_' = none := by decide

/-- Grouped digits start with a digit. -/
theorem grouped_cons_iff (c : Char) (rest : List Char) (digits : List Nat) :
    Grouped (c :: rest) digits ↔ ∃ digit others, digitValue? c = some digit ∧
      Continued rest others ∧ digit :: others = digits := by
  constructor
  · intro grouped
    cases grouped with
    | last _ digit known => exact ⟨digit, [], known, .inl ⟨rfl, rfl⟩, rfl⟩
    | next _ digit _ others known more => exact ⟨digit, others, known, .inr (.inl more), rfl⟩
    | apart _ digit rest others known more =>
        exact ⟨digit, others, known, .inr (.inr ⟨rest, rfl, more⟩), rfl⟩
  · rintro ⟨digit, others, known, ⟨rfl, rfl⟩ | more | ⟨rest, rfl, more⟩, rfl⟩
    · exact .last c digit known
    · exact .next c digit rest others known more
    · exact .apart c digit rest others known more

theorem not_grouped_nil (digits : List Nat) : ¬ Grouped [] digits := nofun

theorem not_grouped_underscore (rest : List Char) (digits : List Nat) :
    ¬ Grouped ('_' :: rest) digits := by
  rw [grouped_cons_iff]
  rintro ⟨digit, others, known, -⟩
  cases digitValue?_underscore.symm.trans known

theorem digitsAfter?_of_ne (c : Char) (rest : List Char) (other : c ≠ '_') :
    digitsAfter? true (c :: rest) = digitsAfter? false (c :: rest) := by
  rw [digitsAfter?, digitsAfter?]
  · nofun
  · exact fun _ same => other same

/-- The reader of digits accepts what is grouped. The induction is on the text, and the flag tells
whether a digit came before it. -/
theorem digitsAfter?_iff (text : List Char) (digits : List Nat) :
    (digitsAfter? false text = some digits ↔ Grouped text digits) ∧
      (digitsAfter? true text = some digits ↔ Continued text digits) := by
  induction text generalizing digits with
  | nil =>
      refine ⟨iff_of_false nofun (not_grouped_nil digits), ?_⟩
      rw [digitsAfter?, Option.some.injEq, Continued]
      simp [not_grouped_nil, eq_comm]
  | cons c rest ih =>
      have digit : digitsAfter? false (c :: rest) = some digits ↔ Grouped (c :: rest) digits := by
        rw [grouped_cons_iff, digitsAfter?]
        · cases digitValue? c with
          | none => simp
          | some digit => simp [(ih _).2]
        · nofun
      refine ⟨digit, ?_⟩
      by_cases underscore : c = '_'
      · rw [underscore, digitsAfter?, (ih digits).1, Continued]
        simp [not_grouped_underscore]
      · rw [digitsAfter?_of_ne c rest underscore, digit, Continued]
        simp [underscore]

theorem numeralDigits?_eq_some_iff (text : List Char) (digits : List Nat) :
    numeralDigits? text = some digits ↔ Grouped text digits :=
  (digitsAfter?_iff text digits).1

/-- Digits that count more come first, so the value is that of the reversed digits. -/
theorem numeralValue_eq (digits : List Nat) :
    numeralValue digits = Nat.ofDigits 10 digits.reverse := by
  induction digits using List.reverseRec with
  | nil => rfl
  | append_singleton digits digit ih =>
      rw [numeralValue, List.foldl_append, ← numeralValue, ih, List.reverse_append,
        List.reverse_singleton, List.singleton_append, Nat.ofDigits_cons]
      exact Nat.add_comm _ _

theorem natural?_eq_some_iff (text : List Char) (number : Nat) :
    natural? text = some number ↔ ∃ digits, Grouped text digits ∧
      digits.length ≤ numeralLimit ∧ Nat.ofDigits 10 digits.reverse = number := by
  simp only [← numeralDigits?_eq_some_iff, ← numeralValue_eq]
  rw [natural?]
  cases numeralDigits? text <;> simp

/-- A numeral is signed at most once. -/
inductive Sign where
  | none
  | plus
  | minus
  deriving DecidableEq

namespace Sign

def text : Sign → List Char
  | none => []
  | plus => ['+']
  | minus => ['-']

/-- Only the minus makes a difference. -/
def applied : Sign → Nat → Int
  | minus, number => -number
  | _, number => number

end Sign

/-- A text is read after its sign. -/
theorem exists_sign (text : List Char) : ∃ (sign : Sign) (body : List Char),
    text = sign.text ++ body ∧ signed? text = (natural? body).map sign.applied := by
  rw [signed?.eq_def]
  split
  · rename_i body
    refine ⟨.minus, body, rfl, ?_⟩
    cases natural? body <;> rfl
  · rename_i body
    refine ⟨.plus, body, rfl, ?_⟩
    cases natural? body <;> rfl
  · refine ⟨.none, text, rfl, ?_⟩
    cases natural? text <;> rfl

/-- A sign is no digit, so digits without a sign are read as they are. -/
theorem signed?_append (sign : Sign) (body : List Char) (digits : List Nat)
    (grouped : Grouped body digits) :
    signed? (sign.text ++ body) = (natural? body).map sign.applied := by
  have unsigned (mark : Char) (known : digitValue? mark = none) (tail : List Char) :
      body ≠ mark :: tail := by
    rintro rfl
    obtain ⟨digit, -, value, -⟩ := (grouped_cons_iff _ _ _).mp grouped
    cases known.symm.trans value
  cases sign with
  | none =>
      change signed? body = _
      rw [signed?]
      · cases natural? body <;> rfl
      · exact unsigned '-' (by decide)
      · exact unsigned '+' (by decide)
  | plus =>
      change signed? ('+' :: body) = _
      rw [signed?]
      cases natural? body <;> rfl
  | minus =>
      change signed? ('-' :: body) = _
      rw [signed?]
      cases natural? body <;> rfl

/-- A signed number is read exactly when a sign, if any, stands before grouped digits that are not
too many. -/
theorem signed?_eq_some_iff (text : List Char) (number : Int) :
    signed? text = some number ↔ ∃ (sign : Sign) (body : List Char) (digits : List Nat),
      text = sign.text ++ body ∧ Grouped body digits ∧ digits.length ≤ numeralLimit ∧
        sign.applied (Nat.ofDigits 10 digits.reverse) = number := by
  constructor
  · intro read
    obtain ⟨sign, body, rfl, signed⟩ := exists_sign text
    obtain ⟨value, natural, applied⟩ := Option.map_eq_some_iff.mp (signed.symm.trans read)
    obtain ⟨digits, grouped, few, rfl⟩ := (natural?_eq_some_iff body value).mp natural
    exact ⟨sign, body, digits, rfl, grouped, few, applied⟩
  · rintro ⟨sign, body, digits, rfl, grouped, few, rfl⟩
    rw [signed?_append sign body digits grouped,
      (natural?_eq_some_iff body _).mpr ⟨digits, grouped, few, rfl⟩]
    rfl

/-- No script has its digits among the blanks. -/
theorem digitZeros_apart : ∀ first ∈ digitZeros,
    0x21 ≤ first ∧ first ≤ 0x7B ∨ 0xA1 ≤ first ∧ first ≤ 0x1676 ∨
      0x1681 ≤ first ∧ first ≤ 0x1FF6 ∨ 0x3001 ≤ first := by
  decide

theorem isBlank_of_digit (c : Char) (digit : Nat) (known : digitValue? c = some digit) :
    isBlank c = false := by
  obtain ⟨first, found, -⟩ := Option.map_eq_some_iff.mp known
  have inside := List.find?_some found
  have apart := digitZeros_apart first (List.mem_of_find?_eq_some found)
  simp only [Bool.and_eq_true, decide_eq_true_eq] at inside
  simp only [isBlank, Bool.or_eq_false_iff, Bool.and_eq_false_iff, decide_eq_false_iff_not,
    beq_eq_false_iff_ne]
  omega

theorem isNumeralBlank_of_isBlank (c : Char) (full : isBlank c = false) :
    isNumeralBlank c = false := by
  rw [isNumeralBlank, full, Bool.false_and]

theorem Grouped.forall_full {body : List Char} {digits : List Nat} (grouped : Grouped body digits) :
    ∀ c ∈ body, isBlank c = false := by
  induction grouped with
  | last c digit known => exact List.forall_mem_singleton.mpr (isBlank_of_digit c digit known)
  | next c digit rest digits known _ ih =>
      exact List.forall_mem_cons.mpr ⟨isBlank_of_digit c digit known, ih⟩
  | apart c digit rest digits known _ ih =>
      rw [List.forall_mem_cons, List.forall_mem_cons]
      exact ⟨isBlank_of_digit c digit known, by decide, ih⟩

theorem Sign.forall_full (sign : Sign) : ∀ c ∈ sign.text, isBlank c = false := by
  cases sign with
  | none => exact List.forall_mem_nil _
  | plus => exact List.forall_mem_singleton.mpr (by decide)
  | minus => exact List.forall_mem_singleton.mpr (by decide)

/-- A numeral is a text that stands for a number. It has blanks, a sign, digits and blanks again, and
the digits are not too many. -/
structure Numeral where
  left : List Char
  sign : Sign
  body : List Char
  digits : List Nat
  right : List Char
  leading : ∀ c ∈ left, isNumeralBlank c = true
  grouped : Grouped body digits
  few : digits.length ≤ numeralLimit
  trailing : ∀ c ∈ right, isNumeralBlank c = true

namespace Numeral

def text (numeral : Numeral) : List Char :=
  numeral.left ++ (numeral.sign.text ++ numeral.body) ++ numeral.right

/-- The first digit counts most, and blanks and underscores do not count. -/
def number (numeral : Numeral) : Int :=
  numeral.sign.applied (Nat.ofDigits 10 numeral.digits.reverse)

end Numeral

/-- A text denotes the number of the numeral that it is. -/
def Denotes (content : String) (number : Int) : Prop :=
  ∃ numeral : Numeral, numeral.text = content.toList ∧ numeral.number = number

/-- Exactly the numerals are read, and each one as its number. -/
theorem integer?_eq_some_iff (content : String) (number : Int) :
    integer? content = some number ↔ Denotes content number := by
  rw [integer?, signed?_eq_some_iff]
  constructor
  · rintro ⟨sign, body, digits, trimmed, grouped, few, rfl⟩
    obtain ⟨left, right, whole, leading, trailing⟩ := exists_trim isNumeralBlank content.toList
    rw [trimmed] at whole
    exact ⟨⟨left, sign, body, digits, right, leading, grouped, few, trailing⟩, whole.symm, rfl⟩
  · rintro ⟨numeral, whole, rfl⟩
    have full : ∀ c ∈ numeral.sign.text ++ numeral.body, isNumeralBlank c = false := by
      intro c member
      apply isNumeralBlank_of_isBlank
      rcases List.mem_append.mp member with signed | inside
      · exact numeral.sign.forall_full c signed
      · exact numeral.grouped.forall_full c inside
    have trimmed := trim_append isNumeralBlank numeral.left _ numeral.right numeral.leading
      numeral.trailing full
    rw [Numeral.text] at whole
    rw [← whole, trimmed]
    exact ⟨numeral.sign, numeral.body, numeral.digits, rfl, numeral.grouped, numeral.few, rfl⟩

theorem Denotes.unique {content : String} {one two : Int} (first : Denotes content one)
    (second : Denotes content two) : one = two := by
  rw [← integer?_eq_some_iff] at first second
  exact Option.some.inj (first.symm.trans second)

theorem Grouped.forall_lt {body : List Char} {digits : List Nat} (grouped : Grouped body digits) :
    ∀ digit ∈ digits, digit < 10 := by
  induction grouped with
  | last c digit known => exact List.forall_mem_singleton.mpr (digitValue?_lt known)
  | next c digit rest digits known _ ih =>
      exact List.forall_mem_cons.mpr ⟨digitValue?_lt known, ih⟩
  | apart c digit rest digits known _ ih =>
      exact List.forall_mem_cons.mpr ⟨digitValue?_lt known, ih⟩

theorem Sign.natAbs_applied (sign : Sign) (number : Nat) : (sign.applied number).natAbs = number := by
  cases sign <;> simp [applied]

/-- The number of a numeral has no more digits than the numeral. -/
theorem Numeral.lt_pow (numeral : Numeral) (limit : Nat) (few : numeral.digits.length ≤ limit) :
    numeral.number.natAbs < 10 ^ limit := by
  have below : Nat.ofDigits 10 numeral.digits.reverse < 10 ^ numeral.digits.reverse.length :=
    Nat.ofDigits_lt_base_pow_length (by decide)
      fun digit member => numeral.grouped.forall_lt digit (List.mem_reverse.mp member)
  rw [List.length_reverse] at below
  rw [Numeral.number, Sign.natAbs_applied]
  exact below.trans_le (Nat.pow_le_pow_right (by decide) few)

theorem fitsNumeral_iff (number : Int) :
    fitsNumeral number = true ↔ number.natAbs < 10 ^ numeralLimit := by
  simp only [fitsNumeral, decide_eq_true_eq, Nat.pow_eq]

/-- A number that was read can be written. -/
theorem Denotes.numeral? {content : String} {number : Int} (denotes : Denotes content number) :
    Text.numeral? number = some (toString number) := by
  obtain ⟨numeral, -, rfl⟩ := denotes
  have fits := (fitsNumeral_iff _).mpr (numeral.lt_pow numeralLimit numeral.few)
  rw [Text.numeral?, if_pos fits]

/-- A numeral writes a number when it has the decimal digits of the number after any zeros. The plus,
the blanks, the underscores and the scripts of the digits are free. -/
structure Numeral.Writes (numeral : Numeral) (number : Int) : Prop where
  sign : if numeral.sign = .minus then number ≤ 0 else 0 ≤ number
  digits : ∃ zeros, numeral.digits =
    List.replicate zeros 0 ++ (Nat.digits 10 number.natAbs).reverse

/-- A numeral writes one number, and reading it gives this number. -/
theorem Numeral.Writes.number_eq {numeral : Numeral} {number : Int}
    (writes : numeral.Writes number) : numeral.number = number := by
  obtain ⟨zeros, digits⟩ := writes.digits
  have signed := writes.sign
  rw [Numeral.number, digits, List.reverse_append, List.reverse_reverse, List.reverse_replicate,
    Nat.ofDigits_append_replicate_zero, Nat.ofDigits_digits]
  cases known : numeral.sign with
  | minus =>
      rw [known, if_pos rfl] at signed
      rw [Sign.applied]
      omega
  | _ =>
      rw [known, if_neg (by decide)] at signed
      rw [Sign.applied]
      · omega
      · nofun

/-- A digit may be put at the end. -/
theorem Grouped.append {body : List Char} {digits : List Nat} (grouped : Grouped body digits)
    (c : Char) (digit : Nat) (known : digitValue? c = some digit) :
    Grouped (body ++ [c]) (digits ++ [digit]) := by
  induction grouped with
  | last first value start => exact .next first value [c] [digit] start (.last c digit known)
  | next first value rest others start _ ih => exact .next first value _ _ start ih
  | apart first value rest others start _ ih => exact .apart first value _ _ start ih

theorem digitValue?_digitChar : ∀ digit < 10, digitValue? digit.digitChar = some digit := by
  decide

/-- The canonical digits of a number are grouped without underscores. -/
theorem grouped_toDigits (number : Nat) (positive : 0 < number) :
    Grouped (Nat.toDigits 10 number) (Nat.digits 10 number).reverse := by
  induction number using Nat.strong_induction_on with
  | _ number ih =>
      rw [Nat.toDigits_eq_if (by decide), Nat.digits_def' (by decide) positive, List.reverse_cons]
      split
      · rename_i single
        rw [Nat.mod_eq_of_lt single, Nat.div_eq_of_lt single]
        exact .last _ _ (digitValue?_digitChar number single)
      · rename_i more
        have digit := digitValue?_digitChar (number % 10) (Nat.mod_lt number (by decide))
        exact (ih (number / 10) (by omega) (by omega)).append _ _ digit

theorem toList_toString (number : Int) : (toString number).toList =
    (if number < 0 then Sign.minus else Sign.none).text ++ Nat.toDigits 10 number.natAbs := by
  cases number with
  | ofNat number =>
      have natural : ¬ Int.ofNat number < 0 := by simp
      rw [if_neg natural]
      change (Nat.repr number).toList = _
      simp [Nat.repr_eq_ofList_toDigits, Sign.text]
  | negSucc number =>
      change ("-" ++ Nat.repr (number + 1)).toList = _
      simp [Nat.repr_eq_ofList_toDigits, Sign.text]

/-- The decimal form of a number within the limit is a numeral that writes it. -/
theorem exists_decimal (number : Int) (fits : number.natAbs < 10 ^ numeralLimit) :
    ∃ numeral : Numeral, numeral.text = (toString number).toList ∧ numeral.Writes number := by
  have sign : if (if number < 0 then Sign.minus else Sign.none) = .minus then number ≤ 0
      else 0 ≤ number := by
    split <;> simp_all
    omega
  rw [toList_toString]
  by_cases zero : number.natAbs = 0
  · rw [zero]
    exact ⟨⟨[], _, _, [0], [], List.forall_mem_nil _, .last '0' 0 (by decide), by decide,
      List.forall_mem_nil _⟩, List.append_nil _, sign, 1, by rw [zero]; rfl⟩
  · have grouped := grouped_toDigits number.natAbs (Nat.pos_of_ne_zero zero)
    have few : (Nat.digits 10 number.natAbs).reverse.length ≤ numeralLimit := by
      rw [List.length_reverse]
      exact (Nat.digits_length_le_iff (by decide) _).mpr fits
    exact ⟨⟨[], _, _, _, [], List.forall_mem_nil _, grouped, few, List.forall_mem_nil _⟩,
      List.append_nil _, sign, 0, rfl⟩

theorem Denotes.of_fits (number : Int) (fits : number.natAbs < 10 ^ numeralLimit) :
    Denotes (toString number) number := by
  obtain ⟨numeral, spelled, writes⟩ := exists_decimal number fits
  exact ⟨numeral, spelled, writes.number_eq⟩

/-- A numeral that writes a number is read as this number alone. -/
theorem Numeral.Writes.denotes_iff {numeral : Numeral} {number : Int}
    (writes : numeral.Writes number) (other : Int) :
    Denotes (String.ofList numeral.text) other ↔ other = number := by
  have denotes : Denotes (String.ofList numeral.text) number :=
    ⟨numeral, String.toList_ofList.symm, writes.number_eq⟩
  constructor
  · exact fun another => another.unique denotes
  · rintro rfl
    exact denotes

end CheckpointReport.Text
