import Mathlib.Algebra.BigOperators.Field
import Mathlib.Algebra.Order.BigOperators.Ring.Finset
import Mathlib.Tactic.Abel

/-!
# Weighted paths through a trellis

A trellis has one row of weights for each time and weights for the steps between two times.  The
weight of a path is the product along it, and an expected value is a sum over all paths.  Both are
taken apart at the first time, where the weights with which a path arrives stand for its past; so
a recursion that carries these weights computes sums over all paths, and one that carries the best
of them finds a heaviest path.
-/

namespace Trellis

open List

section Paths

variable {State : Type*} [Fintype State]

def paths : Nat → Finset (List State)
  | 0 => {[]}
  | n + 1 => (Finset.univ ×ˢ paths n).map
      ⟨fun pair => pair.1 :: pair.2, by rintro ⟨_, _⟩ ⟨_, _⟩ same; simpa using same⟩

@[simp]
theorem mem_paths {n : Nat} {path : List State} : path ∈ paths n ↔ path.length = n := by
  induction n generalizing path with
  | zero => simp [paths]
  | succ n ih =>
    cases path with
    | nil => simp [paths]
    | cons state path =>
      simp only [paths, Finset.mem_map, Finset.mem_product, Finset.mem_univ, true_and,
        Prod.exists, length_cons, Nat.add_right_cancel_iff]
      constructor
      · rintro ⟨_, later, member, same⟩
        cases same
        exact ih.mp member
      · intro length
        exact ⟨state, path, ih.mpr length, rfl⟩

theorem sum_paths_zero {Weight : Type*} [AddCommMonoid Weight] (f : List State → Weight) :
    ∑ path ∈ paths 0, f path = f [] := by
  simp [paths]

theorem sum_paths_succ {Weight : Type*} [AddCommMonoid Weight] (n : Nat) (f : List State → Weight) :
    ∑ path ∈ paths (n + 1), f path = ∑ state, ∑ path ∈ paths n, f (state :: path) := by
  rw [paths, Finset.sum_map, Finset.sum_product]
  rfl

end Paths

section Weights

variable {State Weight : Type*} [CommSemiring Weight] (transition : State → State → Weight)

/-- The weight of a path whose first state it comes to with the weight `arriving`. -/
def joint : (State → Weight) → List (State → Weight) → List State → Weight
  | arriving, row :: rows, state :: path =>
    arriving state * row state * joint (transition state) rows path
  | _, _, _ => 1

@[simp]
theorem joint_nil (arriving : State → Weight) (path : List State) :
    joint transition arriving [] path = 1 := by
  cases path <;> rfl

@[simp]
theorem joint_cons (arriving row : State → Weight) (rows : List (State → Weight)) (state : State)
    (path : List State) :
    joint transition arriving (row :: rows) (state :: path) =
      arriving state * row state * joint transition (transition state) rows path :=
  rfl

theorem joint_scaled (factors : List Weight) (arriving : State → Weight)
    (rows : List (State → Weight)) (path : List State) (sameLength : factors.length = rows.length)
    (throughout : path.length = rows.length) :
    joint transition arriving
        (List.zipWith (fun factor row state => factor * row state) factors rows) path =
      factors.prod * joint transition arriving rows path := by
  induction rows generalizing factors arriving path with
  | nil => simp [length_eq_zero_iff.mp sameLength]
  | cons row rows ih =>
    obtain ⟨factor, factors, rfl⟩ := exists_cons_of_length_eq_add_one sameLength
    obtain ⟨state, path, rfl⟩ := exists_cons_of_length_eq_add_one throughout
    rw [zipWith_cons_cons, joint_cons, joint_cons, prod_cons,
      ih factors _ path (Nat.succ.inj sameLength) (Nat.succ.inj throughout)]
    ring

variable [Fintype State]

def expected (arriving : State → Weight) (rows : List (State → Weight))
    (f : List State → Weight) : Weight :=
  ∑ path ∈ paths rows.length, joint transition arriving rows path * f path

@[simp]
theorem expected_nil (arriving : State → Weight) (f : List State → Weight) :
    expected transition arriving [] f = f [] := by
  rw [expected, length_nil, sum_paths_zero, joint_nil, one_mul]

theorem expected_cons (arriving row : State → Weight) (rows : List (State → Weight))
    (f : List State → Weight) :
    expected transition arriving (row :: rows) f = ∑ state, arriving state * row state *
        expected transition (transition state) rows fun path => f (state :: path) := by
  rw [expected, length_cons, sum_paths_succ]
  apply Finset.sum_congr rfl
  intro state _
  rw [expected, Finset.mul_sum]
  apply Finset.sum_congr rfl
  intro path _
  rw [joint_cons, mul_assoc]

theorem expected_congr (arriving : State → Weight) (rows : List (State → Weight))
    {f g : List State → Weight} (same : ∀ path, path.length = rows.length → f path = g path) :
    expected transition arriving rows f = expected transition arriving rows g := by
  apply Finset.sum_congr rfl
  intro path member
  rw [same path (mem_paths.mp member)]

theorem expected_add (arriving : State → Weight) (rows : List (State → Weight))
    (f g : List State → Weight) :
    (expected transition arriving rows fun path => f path + g path) =
      expected transition arriving rows f + expected transition arriving rows g := by
  simp only [expected, mul_add, Finset.sum_add_distrib]

theorem expected_sum {Index : Type*} (indices : Finset Index) (arriving : State → Weight)
    (rows : List (State → Weight)) (f : Index → List State → Weight) :
    (expected transition arriving rows fun path => ∑ index ∈ indices, f index path) =
      ∑ index ∈ indices, expected transition arriving rows (f index) := by
  simp only [expected, Finset.mul_sum]
  exact Finset.sum_comm

theorem expected_zero (arriving : State → Weight) (rows : List (State → Weight)) :
    (expected transition arriving rows fun _ => 0) = 0 := by
  simp [expected]

variable {rows : List (State → Weight)}

theorem expected_tail (arriving row : State → Weight)
    (more : rows ≠ []) (f : List State → Weight) :
    (expected transition arriving (row :: rows) fun path => f path.tail) = expected transition
        (fun next => ∑ state, arriving state * row state * transition state next) rows f := by
  obtain ⟨first, rows, rfl⟩ := exists_cons_of_ne_nil more
  rw [expected_cons, expected_cons]
  simp only [tail_cons, expected_cons, Finset.mul_sum, Finset.sum_mul]
  rw [Finset.sum_comm]
  apply Finset.sum_congr rfl
  intro next _
  apply Finset.sum_congr rfl
  intro state _
  ring

theorem expected_scaled (factor : Weight) (arriving : State → Weight) (more : rows ≠ [])
    (f : List State → Weight) :
    expected transition (fun state => factor * arriving state) rows f =
      factor * expected transition arriving rows f := by
  obtain ⟨first, rows, rfl⟩ := exists_cons_of_ne_nil more
  rw [expected_cons, expected_cons, Finset.mul_sum]
  apply Finset.sum_congr rfl
  intro state _
  ring

theorem expected_rowsScaled (factors : List Weight) (arriving : State → Weight)
    (rows : List (State → Weight)) (sameLength : factors.length = rows.length)
    (f : List State → Weight) :
    expected transition arriving
        (List.zipWith (fun factor row state => factor * row state) factors rows) f =
      factors.prod * expected transition arriving rows f := by
  rw [expected, expected, length_zipWith, sameLength, Nat.min_self, Finset.mul_sum]
  apply Finset.sum_congr rfl
  intro path member
  rw [joint_scaled transition factors arriving rows path sameLength (mem_paths.mp member),
    mul_assoc]

/-- Where every step shares its weight out and all rows are alike, the paths together weigh as
much as the rows. -/
theorem expected_even {emission : Weight} (stochastic : ∀ state, ∑ next, transition state next = 1)
    {arriving : State → Weight} (begins : ∑ state, arriving state = 1)
    (even : ∀ row ∈ rows, ∀ state, row state = emission) :
    (expected transition arriving rows fun _ => 1) = emission ^ rows.length := by
  induction rows generalizing arriving with
  | nil => simp
  | cons row rows ih =>
    rw [forall_mem_cons] at even
    simp only [expected_cons, ih (stochastic _) even.2, even.1]
    rw [← Finset.sum_mul, ← Finset.sum_mul, begins, one_mul, length_cons, pow_succ']

end Weights

theorem joint_nonneg {State Weight : Type*} [CommSemiring Weight] [PartialOrder Weight]
    [IsOrderedRing Weight] {transition : State → State → Weight}
    (steps : ∀ state next, 0 ≤ transition state next) {arriving : State → Weight}
    (begins : ∀ state, 0 ≤ arriving state) {rows : List (State → Weight)}
    (emits : ∀ row ∈ rows, ∀ state, 0 ≤ row state) (path : List State) :
    0 ≤ joint transition arriving rows path := by
  induction rows generalizing arriving path with
  | nil => simp
  | cons row rows ih =>
    rw [forall_mem_cons] at emits
    cases path with
    | nil => exact zero_le_one
    | cons state path =>
      exact mul_nonneg (mul_nonneg (begins state) (emits.1 state)) (ih (steps state) emits.2 path)

section Features

variable {State : Type*} [DecidableEq State]

def visits (time : Nat) (state : State) (path : List State) : Nat :=
  if path[time]? = some state then 1 else 0

def steps (state next : State) : List State → Nat
  | [] => 0
  | first :: path =>
    (if first = state ∧ path.head? = some next then 1 else 0) + steps state next path

theorem sum_visits [Fintype State] {time : Nat} {path : List State} (within : time < path.length) :
    ∑ state, visits time state path = 1 := by
  simp [visits, List.getElem?_eq_getElem within]

end Features

section Heaviest

variable {State Score : Type*} [AddCommMonoid Score] (transition : State → State → Score)

/-- The sum along a path, of which `joint` is the product. -/
def tally : (State → Score) → List (State → Score) → List State → Score
  | arriving, row :: rows, state :: path =>
    arriving state + row state + tally (transition state) rows path
  | _, _, _ => 0

@[simp]
theorem tally_nil (arriving : State → Score) (path : List State) :
    tally transition arriving [] path = 0 := by
  cases path <;> rfl

@[simp]
theorem tally_cons (arriving row : State → Score) (rows : List (State → Score)) (state : State)
    (path : List State) :
    tally transition arriving (row :: rows) (state :: path) =
      arriving state + row state + tally transition (transition state) rows path :=
  rfl

variable [PartialOrder Score] {transition}

/-- No path of the length has a larger sum. -/
structure IsHeaviest (transition : State → State → Score) (arriving : State → Score)
    (rows : List (State → Score)) (path : List State) : Prop where
  length : path.length = rows.length
  heaviest : ∀ other, other.length = rows.length →
    tally transition arriving rows other ≤ tally transition arriving rows path

theorem isHeaviest_single {arriving row : State → Score} {best : State}
    (largest : ∀ state, arriving state + row state ≤ arriving best + row best) :
    IsHeaviest transition arriving [row] [best] where
  length := rfl
  heaviest other sameLength := by
    obtain ⟨state, rfl⟩ := length_eq_one_iff.mp sameLength
    simpa using largest state

theorem IsHeaviest.cons [IsOrderedAddMonoid Score] {arriving row next : State → Score}
    {rows : List (State → Score)} {predecessor : State → State} (reached : ∀ state,
      next state = arriving (predecessor state) + row (predecessor state) +
        transition (predecessor state) state)
    (largest : ∀ state previous,
      arriving previous + row previous + transition previous state ≤ next state)
    {first : State} {path : List State} (more : rows ≠ [])
    (later : IsHeaviest transition next rows (first :: path)) :
    IsHeaviest transition arriving (row :: rows) (predecessor first :: first :: path) where
  length := congrArg Nat.succ later.length
  heaviest other sameLength := by
    obtain ⟨following, rows, rfl⟩ := exists_cons_of_ne_nil more
    obtain ⟨previous, other, rfl⟩ := exists_cons_of_length_eq_add_one sameLength
    obtain ⟨state, other, rfl⟩ :=
      exists_cons_of_length_eq_add_one (Nat.succ.inj sameLength)
    have best := later.heaviest (state :: other) (Nat.succ.inj sameLength)
    simp only [tally_cons] at best ⊢
    calc arriving previous + row previous + (transition previous state + following state +
            tally transition (transition state) rows other)
        = arriving previous + row previous + transition previous state +
            (following state + tally transition (transition state) rows other) := by abel
      _ ≤ next state + (following state + tally transition (transition state) rows other) :=
          add_le_add_left (largest state previous) _
      _ ≤ next first + following first + tally transition (transition first) rows path := by
          rw [← add_assoc]
          exact best
      _ = _ := by
          rw [reached first]
          abel

end Heaviest

end Trellis
