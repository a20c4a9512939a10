import Mathlib.Algebra.BigOperators.Ring.List
import Mathlib.Algebra.Order.BigOperators.Group.List
import Mathlib.Algebra.Order.Field.Basic
import Mathlib.Tactic.FieldSimp
import Mathlib.Tactic.Linarith
import Mathlib.Tactic.Ring

/-!
# Run lengths

The weight of each run length is passed on to the next one, and a constant part of all of it to the
run length zero.
-/

namespace RunLengths

open List

variable {F : Type*} [Field F]

def normalise (weights : List F) : List F := weights.map (· / weights.sum)

/-- The part of all weight that a change gets, and what remains for each longer run. -/
def messages (hazard : F) (joint : List F) : List F :=
  hazard * joint.sum :: joint.map ((1 - hazard) * ·)

def step (hazard : F) (keep : Nat) (joint : List F) : List F :=
  normalise ((messages hazard joint).take keep)

variable {hazard : F} {joint weights : List F} {keep : Nat}

@[simp]
theorem length_step : (step hazard keep joint).length = min keep (joint.length + 1) := by
  simp [step, normalise, messages]

theorem sum_normalise (nonzero : weights.sum ≠ 0) : (normalise weights).sum = 1 := by
  simp only [normalise, div_eq_mul_inv]
  rw [sum_map_mul_right, map_id', mul_inv_cancel₀ nonzero]

theorem sum_take_messages : ((messages hazard joint).take (keep + 1)).sum =
    hazard * joint.sum + (1 - hazard) * (joint.take keep).sum := by
  rw [messages, take_succ_cons, sum_cons, ← map_take, sum_map_mul_left, map_id']

theorem step_head : (step hazard (keep + 1) joint)[0]? =
    some (hazard * joint.sum / (hazard * joint.sum + (1 - hazard) * (joint.take keep).sum)) := by
  rw [step, normalise, sum_take_messages, messages, take_succ_cons]
  rfl

variable [LinearOrder F] [IsStrictOrderedRing F]

theorem sum_take_le (nonneg : ∀ weight ∈ joint, 0 ≤ weight) : (joint.take keep).sum ≤ joint.sum := by
  have later : 0 ≤ (joint.drop keep).sum :=
    sum_nonneg fun weight isWeight => nonneg weight (mem_of_mem_drop isWeight)
  have parts := sum_take_add_sum_drop joint keep
  linarith

theorem sum_take_nonneg (nonneg : ∀ weight ∈ joint, 0 ≤ weight) : 0 ≤ (joint.take keep).sum :=
  sum_nonneg fun weight isWeight => nonneg weight (mem_of_mem_take isWeight)

section Kept

variable (positive : 0 < hazard) (below : hazard < 1) (nonneg : ∀ weight ∈ joint, 0 ≤ weight)
  (some_weight : 0 < joint.sum)

include positive below nonneg some_weight

theorem kept_pos : 0 < hazard * joint.sum + (1 - hazard) * (joint.take keep).sum := by
  have change := mul_pos positive some_weight
  have growth := mul_nonneg (sub_pos.mpr below).le (@sum_take_nonneg _ _ joint keep _ _ nonneg)
  linarith

theorem sum_step : (step hazard (keep + 1) joint).sum = 1 := by
  apply sum_normalise
  rw [sum_take_messages]
  exact (kept_pos positive below nonneg some_weight).ne'

theorem hazard_le_step_head :
    ∃ first, (step hazard (keep + 1) joint)[0]? = some first ∧ hazard ≤ first := by
  refine ⟨_, step_head, ?_⟩
  rw [le_div_iff₀ (kept_pos positive below nonneg some_weight)]
  apply mul_le_mul_of_nonneg_left _ positive.le
  have growth := mul_le_mul_of_nonneg_left (@sum_take_le _ _ joint keep _ _ nonneg)
    (sub_pos.mpr below).le
  linarith

end Kept

theorem step_head_eq (some_weight : 0 < joint.sum) (all : joint.length ≤ keep) :
    (step hazard (keep + 1) joint)[0]? = some hazard := by
  rw [step_head, take_of_length_le all]
  congr 1
  field_simp
  ring

end RunLengths
