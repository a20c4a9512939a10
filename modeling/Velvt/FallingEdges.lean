import Mathlib.Data.List.Basic

/-!
# Falling edges

How often a level falls along a list of readings.
-/

namespace FallingEdges

def count : Bool → List Bool → Nat
  | _, [] => 0
  | level, next :: levels => (if level && !next then 1 else 0) + count next levels

theorem count_false_le (levels : List Bool) : count false levels ≤ count true levels := by
  cases levels with
  | nil => exact Nat.le_refl _
  | cons next levels =>
    simp only [count, Bool.false_and, Bool.false_eq_true, if_false]
    omega

theorem count_true_le (levels : List Bool) : count true levels ≤ count false levels + 1 := by
  cases levels with
  | nil => exact Nat.zero_le _
  | cons next levels =>
    simp only [count, Bool.false_and, Bool.false_eq_true, if_false]
    split <;> omega

theorem count_le_cons (level next : Bool) (levels : List Bool) :
    count level levels ≤ count level (next :: levels) := by
  have low := count_false_le levels
  have high := count_true_le levels
  cases level <;> cases next <;> simp only [count, Bool.and_true, Bool.and_false, Bool.not_true,
    Bool.not_false, Bool.false_eq_true, if_false, if_true] <;> omega

theorem count_le_of_sublist {fewer levels : List Bool} (sub : fewer.Sublist levels)
    (level : Bool) : count level fewer ≤ count level levels := by
  induction sub generalizing level with
  | slnil => exact Nat.le_refl _
  | cons next _ ih => exact Nat.le_trans (ih level) (count_le_cons level next _)
  | cons_cons next _ ih => exact Nat.add_le_add_left (ih next) _

theorem count_false_cons (next : Bool) (levels : List Bool) :
    count false (next :: levels) = count next levels := by
  simp [count]

end FallingEdges
