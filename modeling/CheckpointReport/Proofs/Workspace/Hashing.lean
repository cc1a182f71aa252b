/-
This file relates hashes to comparisons. What is the same has one hash, but one hash may belong to
values that differ.
-/

import CheckpointReport.Proofs.Number
import CheckpointReport.Proofs.Report.Equality
import CheckpointReport.Workspace.Store

namespace CheckpointReport

/-- The exact value of a number is reduced by a prime, whatever its kind. Among the residues the
sixtieth power of two is the inverse of two. Minus one is never used. -/
def Number.residue (number : Number) : Int :=
  match number.rational? with
  | none => number.infinitySign * 314159
  | some value =>
      let size : Int := value.num.natAbs * 2 ^ (60 * value.den.log2 % 61) % (2 ^ 61 - 1)
      let residue := if value.num < 0 then -size else size
      if residue = -1 then -2 else residue

theorem Number.residue_of_same {one two : Number} (same : one.same two = true) :
    one.residue = two.residue := by
  obtain ⟨values, signs⟩ := one.rational?_congr two same
  rw [residue, residue, values, signs]

namespace Value

/-- A text is read as one long numeral. What cannot be hashed gets no part in this. -/
def residue (value : Value) : Int :=
  match value.number? with
  | some number => number.residue
  | none =>
      match value with
      | .text content => content.toList.foldl (fun total c => 31 * total + c.toNat) 7
      | _ => 0

/-- The cases are those of a comparison, and between two numbers it looks at their values. -/
theorem residue_of_same {one two : Value} (same : one.same two = true) :
    one.residue = two.residue := by
  cases one with
  | text content =>
      cases two with
      | text other => rw [show content = other from beq_iff_eq.mp same]
      | _ => cases same
  | bool flag => cases two <;> first | exact Number.residue_of_same same | cases same
  | int number => cases two <;> first | exact Number.residue_of_same same | cases same
  | float number =>
      cases number with
      | nan origin =>
          cases two with
          | float other =>
              cases other with
              | nan another => rfl
              | _ => cases same
          | _ => cases same
      | infinite negative => cases two <;> first | exact Number.residue_of_same same | cases same
      | finite negative significand exponent =>
          cases two <;> first | exact Number.residue_of_same same | cases same
  | _ => cases two <;> first | rfl | cases same

/-- What cannot be hashed is the same only as something else that cannot. -/
theorem hashable_of_same {one two : Value} (same : one.same two = true) :
    one.hashable = two.hashable := by
  cases one with
  | float number => cases number <;> cases two <;> first | rfl | cases same
  | _ => cases two <;> first | rfl | cases same

/-- What agrees on values that are the same agrees on lists of them. -/
theorem map_of_sameItems {β : Type} {f : Value → β}
    (agrees : ∀ one two : Value, one.same two = true → f one = f two) (first second : List Value)
    (same : sameItems first second = true) : first.map f = second.map f := by
  induction first generalizing second with
  | nil =>
      cases second with
      | nil => rfl
      | cons two rest => cases same
  | cons one first ih =>
      cases second with
      | nil => cases same
      | cons two second =>
          rw [sameItems, Bool.and_eq_true] at same
          obtain ⟨head, rest⟩ := same
          rw [List.map_cons, List.map_cons, agrees one two head, ih second rest]

end Value

/-- This is one way to make hashes, and different values may share one. -/
def Hasher.ofResidues : Hasher where
  hash values := (values.map Value.residue).foldl (fun total residue => 1000003 * total + residue) 0
  respects first second same := by
    rw [Value.map_of_sameItems (fun _ _ => Value.residue_of_same) first second same]

example : Hasher.ofResidues.hash [.int (-1)] = Hasher.ofResidues.hash [.int (-2)] := by
  decide +kernel

namespace Item

/-- Attributes that are the same are hashed alike, or neither can be hashed. -/
theorem hash_of_sameAttributes (hasher : Hasher) {first second : Item} {one two : Members}
    (left : first.hashed? = some one) (right : second.hashed? = some two)
    (same : sameAttributes one two = true) : first.hash hasher = second.hash hasher := by
  have values : hasher.hash (one.map Prod.snd) = hasher.hash (two.map Prod.snd) :=
    hasher.respects _ _ same
  have hashable : hashableAttributes one = hashableAttributes two := by
    have whole (attributes : Members) : hashableAttributes attributes =
        ((attributes.map Prod.snd).map Value.hashable).all id := by
      rw [List.map_map, List.all_map]
      rfl
    rw [whole, whole, Value.map_of_sameItems (fun _ _ => Value.hashable_of_same) _ _ same]
  rw [hash, hash, hashedValues, hashedValues, left, right]
  dsimp only
  rw [hashable]
  cases hashableAttributes two with
  | false => rfl
  | true => exact congrArg Except.ok values

end Item

/-- The tasks stand between the attributes, and a hash leaves them out. -/
theorem Sheet.sameAttributes_hashed {one two : Sheet} (same : one.same two = true) :
    sameAttributes one.hashed two.hashed = true := by
  rw [Sheet.same, Sheet.sameCommon, Sheet.sameExtra, Bool.and_eq_true, Bool.and_eq_true] at same
  obtain ⟨⟨-, common⟩, extra⟩ := same
  have length : (one.common.map Prod.snd).length = (two.common.map Prod.snd).length := rfl
  rw [sameAttributes, Sheet.hashed, Sheet.hashed, List.map_append, List.map_append,
    Value.sameItems_append _ _ _ _ length, Bool.and_eq_true]
  exact ⟨common, extra⟩

end CheckpointReport
