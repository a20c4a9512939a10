import Mathlib.Data.Nat.Cast.Field
import Mathlib.Tactic.FieldSimp
import Mathlib.Tactic.Ring

/-!
# Running moments

The mean of some values and the sum of their squared deviations take in one value at a time.
-/

namespace RunningMoments

open List

variable {F : Type*} [Field F]

def mean (values : List F) : F := values.sum / values.length

def deviations (values : List F) : F :=
  (values.map fun value => (value - mean values) * (value - mean values)).sum

variable {value : F} {values : List F}

theorem sum_squares (center : F) :
    (values.map fun value => (value - center) * (value - center)).sum =
      (values.map fun value => value * value).sum - 2 * center * values.sum +
        values.length * (center * center) := by
  induction values with
  | nil => simp
  | cons value values ih =>
    rw [map_cons, sum_cons, ih, map_cons, sum_cons, sum_cons,
      length_cons, Nat.cast_add, Nat.cast_one]
    ring

variable [CharZero F]

theorem sum_eq_mean : values.sum = values.length * mean values := by
  rw [mean]
  cases values with
  | nil => simp
  | cons value values => rw [mul_div_cancel₀ _ (Nat.cast_ne_zero.mpr (Nat.succ_ne_zero _))]

theorem mean_cons :
    mean (value :: values) = mean values + (value - mean values) / (values.length + 1) := by
  have counted : ((values.length : F) + 1) ≠ 0 := Nat.cast_add_one_ne_zero _
  rw [mean, sum_cons, length_cons, Nat.cast_add, Nat.cast_one, @sum_eq_mean _ _ values]
  field_simp
  ring

theorem deviations_cons : deviations (value :: values) =
    deviations values + (value - mean values) * (value - mean (value :: values)) := by
  have counted : ((values.length : F) + 1) ≠ 0 := Nat.cast_add_one_ne_zero _
  rw [deviations, sum_squares, deviations, sum_squares, map_cons, sum_cons,
    sum_cons, length_cons, mean_cons, @sum_eq_mean _ _ values, Nat.cast_add, Nat.cast_one]
  field_simp
  ring

end RunningMoments
