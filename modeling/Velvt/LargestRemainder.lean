import Mathlib.Algebra.BigOperators.Group.List.Basic
import Mathlib.Algebra.Ring.Nat
import Mathlib.Data.List.Sort

/-!
# Shares by largest remainders

A scale is split in proportion to weights of a total: every weight gets its share rounded down,
and what is left of the scale goes one each to the largest remainders, the earlier first among
equals.
-/

namespace LargestRemainder

open List

def bump (shares entries : List Nat) : List Nat :=
  entries.foldl (fun shares entry => shares.modify entry (· + 1)) shares

def floors (scale total : Nat) (weights : List Nat) : List Nat :=
  weights.map fun weight => weight * scale / total

/-- The entry has the larger remainder, or stands earlier. -/
def Ahead (first second : Nat × Nat) : Prop :=
  second.2 < first.2 ∨ second.2 = first.2 ∧ first.1 ≤ second.1
  deriving Decidable

def remainders (scale total : Nat) (weights : List Nat) : List (Nat × Nat) :=
  ((weights.map fun weight => weight * scale % total).zipIdx.map Prod.swap).insertionSort Ahead

def apportion (scale total : Nat) (weights : List Nat) : List Nat :=
  let shares := floors scale total weights
  bump shares (((remainders scale total weights).take (scale - shares.sum)).map Prod.fst)

variable {scale total index share : Nat} {weights shares entries : List Nat}

@[simp]
theorem length_bump : (bump shares entries).length = shares.length := by
  induction entries generalizing shares with
  | nil => rfl
  | cons entry entries ih =>
    rw [bump, foldl_cons, ← bump, ih, length_modify]

theorem sum_modify (inside : index < shares.length) :
    (shares.modify index (· + 1)).sum = shares.sum + 1 := by
  induction shares generalizing index with
  | nil => exact absurd inside (Nat.not_lt_zero _)
  | cons first shares ih =>
    cases index with
    | zero =>
      rw [modify_zero_cons, sum_cons, sum_cons]
      omega
    | succ index =>
      rw [modify_succ_cons, sum_cons, sum_cons, ih (Nat.lt_of_succ_lt_succ inside)]
      omega

theorem sum_bump (inside : ∀ entry ∈ entries, entry < shares.length) :
    (bump shares entries).sum = shares.sum + entries.length := by
  induction entries generalizing shares with
  | nil => rfl
  | cons entry entries ih =>
    obtain ⟨first, others⟩ := forall_mem_cons.mp inside
    have othersInside : ∀ other ∈ entries,
        other < (shares.modify entry (· + 1)).length := by
      intro other isOther
      rw [length_modify]
      exact others other isOther
    rw [bump, foldl_cons, ← bump, ih othersInside, sum_modify first, length_cons]
    omega

theorem getElem?_bump :
    (bump shares entries)[index]? = shares[index]?.map (· + entries.count index) := by
  induction entries generalizing shares with
  | nil => simp [bump]
  | cons entry entries ih =>
    rw [bump, foldl_cons, ← bump, ih, List.getElem?_modify, count_cons]
    cases shares[index]? with
    | none => split <;> rfl
    | some share =>
      by_cases same : entry = index
      · simp only [same, if_pos, beq_self_eq_true, Option.map_some]
        change some (share + 1 + entries.count index) = _
        rw [Nat.add_assoc, Nat.add_comm 1]
      · simp [same]

@[simp]
theorem length_floors : (floors scale total weights).length = weights.length :=
  length_map _

theorem entries_perm :
    ((remainders scale total weights).map Prod.fst).Perm (List.range weights.length) := by
  have sorted : ((remainders scale total weights).map Prod.fst).Perm
      (((weights.map fun weight => weight * scale % total).zipIdx.map Prod.swap).map Prod.fst) :=
    (perm_insertionSort Ahead _).map Prod.fst
  apply sorted.trans
  have indices : Prod.fst ∘ Prod.swap = (Prod.snd : Nat × Nat → Nat) := rfl
  rw [map_map, indices, zipIdx_map_snd, length_map, range_eq_range']

@[simp]
theorem length_remainders : (remainders scale total weights).length = weights.length := by
  have lengths := (@entries_perm scale total weights).length_eq
  rwa [length_map, length_range] at lengths

@[simp]
theorem length_apportion : (apportion scale total weights).length = weights.length := by
  rw [apportion, length_bump, length_floors]

theorem entries_nodup (count : Nat) :
    (((remainders scale total weights).take count).map Prod.fst).Nodup := by
  rw [map_take]
  exact (entries_perm.nodup_iff.mpr nodup_range).sublist (take_sublist _ _)

theorem entry_lt (count : Nat) :
    ∀ entry ∈ ((remainders scale total weights).take count).map Prod.fst,
      entry < (floors scale total weights).length := by
  intro entry isEntry
  rw [map_take] at isEntry
  have isIndex := entries_perm.mem_iff.mp (mem_of_mem_take isEntry)
  rwa [length_floors, ← mem_range]

theorem apportion_within (positive : 0 < total)
    (isShare : (apportion scale total weights)[index]? = some share) :
    ∃ weight ∈ weights[index]?, share * total ≤ weight * scale + total ∧
      weight * scale ≤ share * total + total := by
  rw [apportion, getElem?_bump, floors, List.getElem?_map, Option.map_map,
    Option.map_eq_some_iff] at isShare
  obtain ⟨weight, isWeight, rfl⟩ := isShare
  have once := nodup_iff_count_le_one.mp (@entries_nodup scale total weights
    (scale - (floors scale total weights).sum)) index
  refine ⟨weight, isWeight, ?_⟩
  have divided := Nat.div_add_mod (weight * scale) total
  have remainder := Nat.mod_lt (weight * scale) positive
  simp only [Function.comp_apply, Nat.add_mul]
  rw [Nat.mul_comm total] at divided
  have bumped := Nat.mul_le_mul_right total once
  rw [Nat.one_mul] at bumped
  rw [floors] at bumped
  constructor <;> omega

theorem sum_floors_add_sum_remainders : total * (floors scale total weights).sum +
      (weights.map fun weight => weight * scale % total).sum = weights.sum * scale := by
  induction weights with
  | nil => simp [floors]
  | cons weight weights ih =>
    rw [floors] at ih ⊢
    have divided := Nat.div_add_mod (weight * scale) total
    simp only [map_cons, sum_cons, Nat.mul_add, Nat.add_mul]
    omega

theorem sum_remainders_lt (positive : 0 < total) (nonempty : weights ≠ []) :
    (weights.map fun weight => weight * scale % total).sum < weights.length * total := by
  induction weights with
  | nil => exact absurd rfl nonempty
  | cons weight weights ih =>
    have remainder := Nat.mod_lt (weight * scale) positive
    rw [map_cons, sum_cons, length_cons, Nat.succ_mul]
    by_cases isEmpty : weights = []
    · subst isEmpty
      simpa using remainder
    · have others := ih isEmpty
      omega

theorem sum_apportion (positive : 0 < total) (whole : weights.sum = total) :
    (apportion scale total weights).sum = scale := by
  have nonempty : weights ≠ [] := by
    rintro rfl
    rw [sum_nil] at whole
    omega
  have divided := @sum_floors_add_sum_remainders scale total weights
  have bounded := @sum_remainders_lt scale total weights positive nonempty
  rw [whole] at divided
  have atMost : (floors scale total weights).sum ≤ scale := by
    apply Nat.le_of_mul_le_mul_left _ positive
    omega
  -- Less is left than there are entries.
  have enough : scale - (floors scale total weights).sum ≤ weights.length := by
    apply Nat.le_of_mul_le_mul_left _ positive
    rw [Nat.mul_sub, Nat.mul_comm total weights.length]
    omega
  rw [apportion, sum_bump (entry_lt _), length_map, length_take, length_remainders,
    Nat.min_eq_left enough]
  omega

end LargestRemainder
