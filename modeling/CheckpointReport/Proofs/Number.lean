/-
This file gives finite numbers their exact rational values. Two of them compare as these values do.
-/

import CheckpointReport.Value.Order
import Mathlib.Algebra.Order.Field.Power
import Mathlib.Data.Rat.Cast.Order

namespace CheckpointReport

namespace Number

/-- This is the value of an integer times a power of two. -/
def scaledValue (scaled : Int × Int) : ℚ := scaled.1 * 2 ^ scaled.2

/-- An infinite number has no rational value, and neither has what is no number. -/
def rational? (number : Number) : Option ℚ := number.scaled?.map scaledValue

@[simp] theorem rational?_int (number : Int) : rational? (.int number) = some (number : ℚ) := by
  simp [rational?, scaled?, scaledValue]

theorem scaledValue_rescaled (scaled : Int × Int) (low : Int) (below : low ≤ scaled.2) :
    scaledValue scaled = (scaled.1 * 2 ^ (scaled.2 - low).toNat : Int) * (2 : ℚ) ^ low := by
  have difference : ((scaled.2 - low).toNat : Int) = scaled.2 - low :=
    Int.toNat_of_nonneg (by omega)
  have power : (2 : ℚ) ^ (scaled.2 - low).toNat * 2 ^ low = 2 ^ scaled.2 := by
    rw [← zpow_natCast, difference, ← zpow_add₀ (two_ne_zero), Int.sub_add_cancel]
  push_cast
  rw [scaledValue, mul_assoc, power]

theorem compareScaled_eq (first second : Int × Int) :
    compareScaled first second = compare (scaledValue first) (scaledValue second) := by
  have monotone : StrictMono fun whole : Int => (whole : ℚ) * 2 ^ min first.2 second.2 := by
    intro one two less
    have cast : (one : ℚ) < two := Int.cast_lt.mpr less
    exact mul_lt_mul_of_pos_right cast (zpow_pos two_pos _)
  rw [scaledValue_rescaled first _ (min_le_left _ _),
    scaledValue_rescaled second _ (min_le_right _ _), ← cmp_eq_compare, monotone.cmp_map_eq,
    cmp_eq_compare]
  rfl

theorem isNan_of_rational? (number : Number) (value : ℚ) (finite : number.rational? = some value) :
    number.isNan = false := by
  cases number with
  | int number => rfl
  | float number =>
      cases number with
      | nan origin => cases finite
      | _ => rfl

theorem compare?_rational (first second : Number) (one two : ℚ) (left : first.rational? = some one)
    (right : second.rational? = some two) : first.compare? second = some (compare one two) := by
  obtain ⟨scaledOne, foundOne, rfl⟩ := Option.map_eq_some_iff.mp left
  obtain ⟨scaledTwo, foundTwo, rfl⟩ := Option.map_eq_some_iff.mp right
  rw [compare?, isNan_of_rational? first _ left, isNan_of_rational? second _ right, foundOne,
    foundTwo, ← compareScaled_eq]
  rfl

theorem less_rational (first second : Number) (one two : ℚ) (left : first.rational? = some one)
    (right : second.rational? = some two) : first.less second = true ↔ one < two := by
  rw [less, compare?_rational first second one two left right, beq_iff_eq, Option.some.injEq,
    compare_lt_iff_lt]

theorem same_rational (first second : Number) (one two : ℚ) (left : first.rational? = some one)
    (right : second.rational? = some two) : first.same second = true ↔ one = two := by
  rw [same, compare?_rational first second one two left right, beq_iff_eq, Option.some.injEq,
    compare_eq_iff_eq]

theorem atMost_rational (first second : Number) (one two : ℚ) (left : first.rational? = some one)
    (right : second.rational? = some two) : first.atMost second = true ↔ one ≤ two := by
  rw [atMost, Bool.or_eq_true]
  change first.less second = true ∨ first.same second = true ↔ _
  rw [less_rational first second one two left right, same_rational first second one two left right,
    le_iff_lt_or_eq]

/-- Only a finite number is the same as an integer. -/
theorem rational?_of_same (number : Number) (whole : Int)
    (same : number.same (.int whole) = true) : number.rational? = some (whole : ℚ) := by
  have finite : ∃ value, number.rational? = some value := by
    cases number with
    | int number => exact ⟨_, rational?_int number⟩
    | float number =>
        cases number with
        | finite negative significand exponent => exact ⟨_, rfl⟩
        | nan origin => cases same
        | infinite negative => cases negative <;> cases same
  obtain ⟨value, found⟩ := finite
  have equal : value = whole :=
    (same_rational number (.int whole) value whole found (rational?_int whole)).mp same
  rw [found, equal]

/-- Numbers that are the same have one value, or they are infinite on the same side. -/
theorem rational?_congr (one two : Number) (same : one.same two = true) :
    one.rational? = two.rational? ∧ one.infinitySign = two.infinitySign := by
  have finite (left right : ℚ) (first : one.rational? = some left)
      (second : two.rational? = some right) : one.rational? = two.rational? := by
    rw [first, second, (same_rational one two left right first second).mp same]
  cases one with
  | int first =>
      cases two with
      | int second => exact ⟨finite _ _ rfl rfl, rfl⟩
      | float second =>
          cases second with
          | nan origin => cases same
          | infinite negative => cases negative <;> cases same
          | finite negative significand exponent => exact ⟨finite _ _ rfl rfl, rfl⟩
  | float first =>
      cases first with
      | nan origin => cases same
      | infinite negative =>
          cases two with
          | int second => cases negative <;> cases same
          | float second =>
              cases second with
              | nan origin => cases same
              | infinite other =>
                  cases negative <;> cases other <;> first | exact ⟨rfl, rfl⟩ | cases same
              | finite other significand exponent => cases negative <;> cases same
      | finite negative significand exponent =>
          cases two with
          | int second => exact ⟨finite _ _ rfl rfl, rfl⟩
          | float second =>
              cases second with
              | nan origin => cases same
              | infinite other => cases other <;> cases same
              | finite other significand' exponent' => exact ⟨finite _ _ rfl rfl, rfl⟩

/-- A number that is at most an integer is at most every greater one. -/
theorem atMost_int_mono (number : Number) (lower upper : Int) (order : lower ≤ upper)
    (atMost : number.atMost (.int lower) = true) : number.atMost (.int upper) = true := by
  have finite (value : ℚ) (found : number.rational? = some value) :
      number.atMost (.int upper) = true := by
    have below := (atMost_rational _ _ _ _ found (rational?_int lower)).mp atMost
    exact (atMost_rational _ _ _ _ found (rational?_int upper)).mpr
      (below.trans (Int.cast_le.mpr order))
  cases number with
  | int number => exact finite _ (rational?_int number)
  | float number =>
      cases number with
      | finite negative significand exponent => exact finite _ rfl
      | nan origin => cases atMost
      | infinite negative => exact atMost

/-- A number above an integer is not at most this integer. -/
theorem atMost_of_int_less (number : Number) (whole : Int)
    (above : Number.less (.int whole) number = true) : number.atMost (.int whole) = false := by
  have finite (value : ℚ) (found : number.rational? = some value) :
      number.atMost (.int whole) = false := by
    have less := (less_rational _ _ _ _ (rational?_int whole) found).mp above
    rw [Bool.eq_false_iff, Ne, atMost_rational _ _ _ _ found (rational?_int whole), not_le]
    exact less
  cases number with
  | int number => exact finite _ (rational?_int number)
  | float number =>
      cases number with
      | finite negative significand exponent => exact finite _ rfl
      | nan origin => cases above
      | infinite negative => cases negative with
        | true => cases above
        | false => rfl

end Number

namespace Value

/-- A number is compared with an integer by its value, and no other value equals an integer. -/
theorem number?_of_same_int (value : Value) (whole : Int) (same : value.same (.int whole) = true) :
    ∃ number, value.number? = some number ∧ number.same (.int whole) = true := by
  cases value with
  | bool flag => exact ⟨_, rfl, same⟩
  | int number => exact ⟨_, rfl, same⟩
  | float number =>
      refine ⟨_, rfl, ?_⟩
      cases number <;> exact same
  | _ => cases same

end Value

end CheckpointReport
