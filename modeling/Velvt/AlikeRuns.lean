import Velvt.ModelFitting
import Velvt.StatePaths

/-!
# A fit of runs that are all alike

Every update makes the states emit the runs alike, so no path is likelier to emit them than another.
-/

namespace Velvt.Hmm

open Trellis List

/-- Rows of responsibilities. -/
structure AreShares (gamma : List (State → ℝ)) : Prop where
  nonneg : ∀ row ∈ gamma, ∀ state, 0 ≤ row state
  total : ∀ row ∈ gamma, ∑ state, row state = 1

theorem areShares_nil : AreShares [] :=
  ⟨by simp, by simp⟩

theorem AreShares.cons {row : State → ℝ} {gamma : List (State → ℝ)} (shares : AreShares gamma)
    (nonneg : ∀ state, 0 ≤ row state) (total : ∑ state, row state = 1) :
    AreShares (row :: gamma) :=
  ⟨forall_mem_cons.mpr ⟨nonneg, shares.nonneg⟩, forall_mem_cons.mpr ⟨total, shares.total⟩⟩

noncomputable def alikeEmission (config : HmmConfig) : ℝ :=
  -0.5 * Real.log (2 * Real.pi * max 0 config.varianceFloor)

/-- The model shares out the weight of every step, and its states emit the runs alike. -/
structure IsEven (runs : List Run) (config : HmmConfig) (model : StickyHmm) : Prop where
  initial_nonneg : ∀ state, 0 ≤ model.initial state
  transition_nonneg : ∀ state next, 0 ≤ model.transition state next
  initial_sum : ∑ state, model.initial state = 1
  transition_sum : ∀ state, ∑ next, model.transition state next = 1
  variance : ∀ state, model.logDwellVariance state = max 0 config.varianceFloor
  emission : ∀ state, ∀ run ∈ runs, model.logEmission state run = alikeEmission config

section Updates

variable {gamma : List (State → ℝ)} {xiSum : State → State → ℝ} {runs : List Run}
  {config : HmmConfig} {run : Run}

theorem zipWith_alike (f : (State → ℝ) → Run → ℝ) (alike : ∀ other ∈ runs, other = run)
    (sameLength : gamma.length = runs.length) :
    List.zipWith f gamma runs = gamma.map fun row => f row run := by
  induction gamma generalizing runs with
  | nil => simp
  | cons row gamma ih =>
    obtain ⟨first, runs, rfl⟩ := exists_cons_of_length_eq_add_one sameLength.symm
    rw [forall_mem_cons] at alike
    rw [zipWith_cons_cons, map_cons, alike.1, ih alike.2 (Nat.succ.inj sameLength)]

theorem pooled_alike (some_run : runs ≠ []) (alike : ∀ other ∈ runs, other = run) :
    PooledMoments.of runs config = ⟨run.logDwell, max 0 config.varianceFloor⟩ := by
  have count : (runs.length : ℝ) ≠ 0 :=
    Nat.cast_ne_zero.mpr (length_eq_zero_iff.not.mpr some_run)
  have dwell : (runs.map Run.logDwell).sum = runs.length * run.logDwell := by
    rw [sum_eq_card_nsmul _ run.logDwell (by simpa using fun other member => by rw [alike other member]),
      length_map, nsmul_eq_mul]
  have mean : (runs.map Run.logDwell).sum / runs.length = run.logDwell := by
    rw [dwell, mul_div_cancel_left₀ _ count]
  have spread : (runs.map fun other => (other.logDwell - run.logDwell) ^ 2).sum = 0 := by
    apply sum_eq_zero
    simp only [mem_map]
    rintro _ ⟨other, member, rfl⟩
    simp [alike other member]
  simp only [PooledMoments.of, mean, spread, zero_div]

theorem stateOccupancy_nonneg (shares : AreShares gamma) (state : State) :
    0 ≤ stateOccupancy gamma state := by
  apply sum_nonneg
  simp only [mem_map]
  rintro _ ⟨row, member, rfl⟩
  exact shares.nonneg row member state

/-- The update by shares of runs that are alike. -/
theorem maximise_even {model : StickyHmm} (alike : RunsAlike runs config)
    (shares : AreShares gamma) (steps : ∀ state next, 0 ≤ xiSum state next)
    (sameLength : gamma.length = runs.length)
    (updated : maximise gamma xiSum runs (PooledMoments.of runs config) config = some model) :
    IsEven runs config model := by
  cases runs with
  | nil =>
    rw [length_eq_zero_iff.mp sameLength] at updated
    cases updated
  | cons run runs =>
  have same : ∀ other ∈ run :: runs, other = run :=
    fun other member => alike.alike other member run mem_cons_self
  obtain ⟨first, gamma, rfl⟩ := exists_cons_of_length_eq_add_one sameLength
  rw [pooled_alike (cons_ne_nil _ _) same] at updated
  simp only [maximise] at updated
  split at updated
  case isFalse => cases updated
  case isTrue divides =>
  have occupied := stateOccupancy_nonneg shares
  have row_nonneg : ∀ state next, 0 ≤ transitionRow xiSum config state next := by
    intro state next
    have kappa := alike.stickinessKappa
    have boost : 0 ≤ if state = next then config.stickinessKappa else 0 := by
      split <;> first | exact kappa | exact le_rfl
    exact add_nonneg (add_nonneg (steps state next) alike.transitionAlpha) boost
  have mean : ∀ state, dwellMean (first :: gamma) (run :: runs)
      ⟨run.logDwell, max 0 config.varianceFloor⟩ config state = run.logDwell := by
    intro state
    have dwell : dwellSum (first :: gamma) (run :: runs) state =
        stateOccupancy (first :: gamma) state * run.logDwell := by
      rw [dwellSum, zipWith_alike _ same sameLength, stateOccupancy, sum_map_mul_right]
    rw [dwellMean, dwell, ← add_mul, mul_div_cancel_left₀ _ (divides state).2.2.1]
  have variance : ∀ state, model.logDwellVariance state = max 0 config.varianceFloor := by
    intro state
    have spread : scatter (first :: gamma) (run :: runs)
        ⟨run.logDwell, max 0 config.varianceFloor⟩ config state = 0 := by
      rw [scatter, zipWith_alike _ same sameLength, mean]
      simp
    have counted : 0 ≤ config.dwellVariancePseudoCounts + stateOccupancy (first :: gamma) state :=
      add_nonneg alike.dwellVariancePseudoCounts (occupied state)
    have floor := le_max_left (0 : ℝ) config.varianceFloor
    rw [← Option.some.inj updated]
    simp only [spread, add_zero]
    apply le_antisymm
    · refine max_le (div_le_of_le_mul₀ counted floor ?_) (le_max_right _ _)
      rw [mul_comm]
      exact mul_le_mul_of_nonneg_left (le_add_of_nonneg_right (occupied state)) floor
    · refine max_le (le_max_of_le_left (div_nonneg ?_ counted)) (le_max_right _ _)
      exact mul_nonneg alike.dwellVariancePseudoCounts floor
  have category : ∀ state, model.category state run.category = 1 := by
    intro state
    have counts : categoryCounts (first :: gamma) (run :: runs) state run.category =
        stateOccupancy (first :: gamma) state := by
      rw [categoryCounts, zipWith_alike _ same sameLength]
      simp [stateOccupancy]
    have divisor := (divides state).2.1
    rw [← Option.some.inj updated]
    simp only [counts, alike.categoryAlpha, mul_zero, add_zero] at divisor ⊢
    exact div_self divisor
  refine ⟨?_, ?_, ?_, ?_, variance, ?_⟩
  · intro state
    rw [← Option.some.inj updated]
    exact div_nonneg (add_nonneg (shares.nonneg first mem_cons_self state) zero_le_one)
      (by norm_num)
  · intro state next
    rw [← Option.some.inj updated]
    exact div_nonneg (row_nonneg state next) (Finset.sum_nonneg fun other _ => row_nonneg state other)
  · rw [← Option.some.inj updated]
    simp only [← Finset.sum_div, Finset.sum_add_distrib, shares.total first mem_cons_self]
    norm_num
  · intro state
    rw [← Option.some.inj updated]
    simp only [← Finset.sum_div]
    exact div_self (divides state).1
  · intro state other member
    have small : max 1 minPositive = 1 :=
      max_eq_left (minPositive_le_eighth.trans (by norm_num))
    have atMean : model.logDwellMean state = run.logDwell := by
      rw [← Option.some.inj updated]
      exact mean state
    rw [same other member]
    simp [StickyHmm.logEmission, category, variance, atMean, small, alikeEmission]

end Updates

section Evaluations

variable {runs : List Run} {config : HmmConfig} {model : StickyHmm}

/-- All even models give the runs the same likelihood. -/
theorem IsEven.logLikelihoodOf_eq {other : StickyHmm} (even : IsEven runs config model)
    (too : IsEven runs config other) : logLikelihoodOf model runs = logLikelihoodOf other runs := by
  have weight : ∀ {model : StickyHmm}, IsEven runs config model →
      totalWeight model model.logEmission runs = Real.exp (alikeEmission config) ^ runs.length := by
    intro model even
    have alike : ∀ row ∈ emissions model.logEmission runs, ∀ state,
        row state = Real.exp (alikeEmission config) := by
      simp only [emissions, mem_map]
      rintro _ ⟨run, member, rfl⟩ state
      exact congrArg Real.exp (even.emission state run member)
    have total := expected_even model.transition even.transition_sum even.initial_sum alike
    rw [expected_emissions] at total
    simpa [totalWeight, emissions] using total
  simp only [logLikelihoodOf, weight even, weight too, even.variance, too.variance]

/-- What an evaluation makes of the paths of an even model. -/
theorem expectRuns_even {expectation : Expectation} (even : IsEven runs config model)
    (through : expectRuns model runs = some expectation) :
    AreShares expectation.gamma ∧ (∀ state next, 0 ≤ expectation.xiSum state next) ∧
      expectation.gamma.length = runs.length := by
  unfold expectRuns at through
  split at through
  case isFalse => cases through
  case isTrue =>
  obtain ⟨exact, weight⟩ := expect_exact through
  have emits : ∀ row ∈ emissions model.logEmission runs, ∀ state, 0 ≤ row state := by
    simp only [emissions, mem_map]
    rintro _ ⟨run, _, rfl⟩ state
    exact (Real.exp_pos _).le
  have nonneg (path : List State) : 0 ≤ jointWeight model model.logEmission runs path :=
    joint_nonneg even.transition_nonneg even.initial_nonneg emits path
  refine ⟨⟨?_, ?_⟩, ?_, exact.gamma_length⟩
  · intro row member state
    obtain ⟨time, found⟩ := mem_iff_getElem?.mp member
    rw [exact.gamma time row found]
    exact div_nonneg (Finset.sum_nonneg fun path _ => nonneg path) weight.le
  · intro row member
    obtain ⟨time, found⟩ := mem_iff_getElem?.mp member
    have within : time < runs.length :=
      exact.gamma_length ▸ (List.getElem?_eq_some_iff.mp found).1
    simp only [exact.gamma time row found, ← Finset.sum_div, Finset.sum_filter]
    rw [Finset.sum_comm, div_eq_one_iff_eq weight.ne', totalWeight]
    apply Finset.sum_congr rfl
    intro path isPath
    rw [List.getElem?_eq_getElem ((mem_paths.mp isPath).symm ▸ within)]
    simp
  · intro state next
    rw [exact.xiSum]
    exact div_nonneg (Finset.sum_nonneg fun path _ => mul_nonneg (nonneg path) (Nat.cast_nonneg _))
      weight.le

end Evaluations

section Draws

theorem nextF64_nonneg (rng : SplitMix64) : 0 ≤ rng.nextF64.1 :=
  div_nonneg (Nat.cast_nonneg _) (by positivity)

theorem drawRow_shares (rng : SplitMix64) :
    (∀ state, 0 ≤ (drawRow rng).1 state) ∧ ∑ state, (drawRow rng).1 state = 1 := by
  have positive : ∀ {first second third : ℝ}, 0 ≤ first → 0 ≤ second → 0 ≤ third →
      ∀ state, 0 < slots first second third state := by
    intro first second third _ _ _ state
    fin_cases state <;> simp only [slots] <;> positivity
  have drawn := positive (nextF64_nonneg rng) (nextF64_nonneg rng.nextF64.2)
    (nextF64_nonneg rng.nextF64.2.nextF64.2)
  have total := Finset.sum_pos (fun state _ => drawn state) Finset.univ_nonempty
  refine ⟨fun state => div_nonneg (drawn state).le total.le, ?_⟩
  simp only [drawRow, ← Finset.sum_div]
  exact div_self total.ne'

theorem drawRows_shares (runs : Nat) (rng : SplitMix64) :
    AreShares (drawRows runs rng).1 ∧ (drawRows runs rng).1.length = runs := by
  induction runs generalizing rng with
  | zero => exact ⟨areShares_nil, rfl⟩
  | succ runs ih =>
    obtain ⟨shares, length⟩ := ih (drawRow rng).2
    obtain ⟨nonneg, total⟩ := drawRow_shares rng
    exact ⟨shares.cons nonneg total, congrArg (· + 1) length⟩

end Draws

section Restarts

variable {runs : List Run} {pooled : PooledMoments} {config : HmmConfig} {rng : SplitMix64}
  {Holds : Climb → Prop}

/-- The property holds where a restart begins, and an iteration keeps it. -/
structure IsClimbInvariant (runs : List Run) (pooled : PooledMoments) (config : HmmConfig)
    (Holds : Climb → Prop) : Prop where
  starts : ∀ rng model, maximise (drawRows runs.length rng).1 (fun _ _ => 0) runs pooled config =
    some model → Holds ⟨model, none, 0, false, none⟩
  stops : ∀ state iterations, Holds state → Holds { state with iterations := iterations }
  steps : ∀ state expectation model iterations converged, Holds state →
    expectRuns state.model runs = some expectation →
    maximise expectation.gamma expectation.xiSum runs pooled config = some model →
    Holds ⟨model, some expectation.logLikelihood, iterations, converged, some state.model⟩

theorem IsClimbInvariant.climb (invariant : IsClimbInvariant runs pooled config Holds) {left : Nat}
    {state final : Climb} (ran : climb runs pooled config left state = some final)
    (holds : Holds state) : Holds final := by
  induction left generalizing state with
  | zero =>
    cases ran
    exact holds
  | succ left ih =>
    rw [Hmm.climb] at ran
    cases evaluation : expectRuns state.model runs with
    | none =>
      rw [evaluation] at ran
      cases ran
      exact invariant.stops _ _ holds
    | some expectation =>
      rw [evaluation] at ran
      obtain ⟨model, update, ran⟩ := Option.bind_eq_some_iff.mp ran
      have next := fun iterations converged =>
        invariant.steps _ _ _ iterations converged holds evaluation update
      dsimp only at ran
      split at ran
      · cases ran
        exact next _ _
      · exact ih ran (next _ _)

/-- An invariant of the climb holds of the end of every restart. -/
theorem IsClimbInvariant.climbs (invariant : IsClimbInvariant runs pooled config Holds) {left : Nat}
    {finals : List Climb} (ran : climbs runs pooled config left rng = some finals) :
    ∀ final ∈ finals, Holds final := by
  induction left generalizing rng finals with
  | zero =>
    cases ran
    simp
  | succ left ih =>
    rw [Hmm.climbs] at ran
    obtain ⟨⟨final, later⟩, first, ran⟩ := Option.bind_eq_some_iff.mp ran
    obtain ⟨others, rest, same⟩ := Option.bind_eq_some_iff.mp ran
    cases same
    obtain ⟨model, update, first⟩ := Option.bind_eq_some_iff.mp first
    obtain ⟨last, climbed, same⟩ := Option.bind_eq_some_iff.mp first
    cases same
    rw [forall_mem_cons]
    exact ⟨invariant.climb climbed (invariant.starts rng model update), ih rest⟩

/-- The model of the climb is even, and so is the one that it has evaluated last. -/
structure Climb.IsEven (runs : List Run) (config : HmmConfig) (state : Climb) : Prop where
  model : Hmm.IsEven runs config state.model
  evaluated : ∀ model, state.evaluated = some model → Hmm.IsEven runs config model

theorem isEven_invariant (alike : RunsAlike runs config) :
    IsClimbInvariant runs (PooledMoments.of runs config) config (Climb.IsEven runs config) where
  starts rng _ update := by
    obtain ⟨shares, length⟩ := drawRows_shares runs.length rng
    exact ⟨maximise_even alike shares (fun _ _ => le_rfl) length update, nofun⟩
  stops _ _ even := { even with }
  steps state _ _ _ _ even evaluation update := by
    obtain ⟨shares, steps, length⟩ := expectRuns_even even.model evaluation
    refine ⟨maximise_even alike shares steps length update, ?_⟩
    rintro _ ⟨⟩
    exact even.model

end Restarts

end Velvt.Hmm
