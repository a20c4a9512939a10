import Mathlib.Data.List.GetD
import Velvt.AlikeRuns

/-!
# What a fit reports

The score of a restart is the log-likelihood under the model that it has evaluated last, and its
model is the update of that one.  A fit reports itself where these updates change nothing.
-/

namespace Velvt.Hmm

open Trellis List

section Scores

variable {runs : List Run} {pooled : PooledMoments} {config : HmmConfig}

theorem logLikelihoodOf_of_expect {model : StickyHmm} {expectation : Expectation}
    (through : expectRuns model runs = some expectation) :
    logLikelihoodOf model runs = (expectation.logLikelihood : ℝ) := by
  unfold expectRuns at through
  split at through
  case isTrue variances =>
    obtain ⟨exact, weight⟩ := expect_exact through
    rw [logLikelihoodOf, if_pos ⟨variances, weight⟩, exact.logLikelihood]
  case isFalse => cases through

/-- The restart has a score, and its model is the update of the one that it belongs to. -/
def IsScored (runs : List Run) (pooled : PooledMoments) (config : HmmConfig) (state : Climb) :
    Prop :=
  (state.evaluated = none ∧ state.previous = none) ∨
    ∃ evaluated expectation, state.evaluated = some evaluated ∧
      expectRuns evaluated runs = some expectation ∧
      state.previous = some expectation.logLikelihood ∧
      maximise expectation.gamma expectation.xiSum runs pooled config = some state.model

theorem isScored_invariant : IsClimbInvariant runs pooled config (IsScored runs pooled config) where
  starts _ _ _ := Or.inl ⟨rfl, rfl⟩
  stops _ _ scored := scored
  steps state expectation _ _ _ _ evaluation update :=
    Or.inr ⟨state.model, expectation, rfl, evaluation, rfl, update⟩

variable {final : Climb}

theorem IsScored.score {score : ℝ}
    (scored : IsScored runs pooled config final) (held : final.previous = some score) :
    ∃ evaluated expectation, final.evaluated = some evaluated ∧
      expectRuns evaluated runs = some expectation ∧
      maximise expectation.gamma expectation.xiSum runs pooled config = some final.model ∧
      logLikelihoodOf evaluated runs = score := by
  rcases scored with ⟨_, none⟩ | ⟨evaluated, expectation, ghost, evaluation, scored, update⟩
  · cases none.symm.trans held
  · cases scored.symm.trans held
    exact ⟨evaluated, expectation, ghost, evaluation, update, logLikelihoodOf_of_expect evaluation⟩

theorem IsScored.previous {evaluated : StickyHmm}
    (scored : IsScored runs pooled config final) (ghost : final.evaluated = some evaluated) :
    ∃ score : ℝ, final.previous = some score ∧ logLikelihoodOf evaluated runs = score := by
  rcases scored with ⟨none, _⟩ | ⟨other, expectation, same, evaluation, scored, _⟩
  · cases none.symm.trans ghost
  · cases same.symm.trans ghost
    exact ⟨_, scored, logLikelihoodOf_of_expect evaluation⟩

/-- The best so far comes from the restarts, and none of them has a larger score. -/
structure IsBest (finals : List Climb) (kept : Climb) (best : ℝ) : Prop where
  member : kept ∈ finals
  score : kept.previous = some best
  largest : ∀ other ∈ finals, ∀ score, other.previous = some score → score ≤ best

/-- What is kept after some restarts. -/
def BestSoFar (seen : List Climb) : Option (Climb × ℝ) → Prop
  | none => ∀ other ∈ seen, other.previous = none
  | some (kept, best) => IsBest seen kept best

theorem IsBest.append {seen : List Climb} {kept : Climb} {best : ℝ} (isBest : IsBest seen kept best)
    (notAbove : ∀ score, final.previous = some score → score ≤ best) :
    IsBest (seen ++ [final]) kept best where
  member := mem_append_left _ isBest.member
  score := isBest.score
  largest other member := by
    rcases mem_append.mp member with earlier | last
    · exact isBest.largest other earlier
    · exact mem_singleton.mp last ▸ notAbove

theorem isBest_last {seen : List Climb} {score : ℝ}
    (held : final.previous = some score)
    (above : ∀ other ∈ seen, ∀ earlier, other.previous = some earlier → earlier ≤ score) :
    IsBest (seen ++ [final]) final score where
  member := mem_append_right _ mem_cons_self
  score := held
  largest other member := by
    rcases mem_append.mp member with earlier | last
    · exact above other earlier
    · intro value found
      rw [mem_singleton.mp last, held] at found
      exact (Option.some.inj found).ge

theorem bestSoFar_keepBest {seen : List Climb} {best : Option (Climb × ℝ)}
    (sofar : BestSoFar seen best) (final : Climb) :
    BestSoFar (seen ++ [final]) (keepBest best final) := by
  cases scored : final.previous with
  | none =>
    cases best with
    | none =>
      simp only [keepBest, scored]
      intro other member
      rcases mem_append.mp member with earlier | last
      · exact sofar other earlier
      · exact mem_singleton.mp last ▸ scored
    | some held =>
      simp only [keepBest, scored]
      exact IsBest.append sofar fun score found => by cases scored.symm.trans found
  | some score =>
    cases best with
    | none =>
      simp only [keepBest, scored]
      exact isBest_last scored fun other member earlier found => by
        cases (sofar other member).symm.trans found
    | some held =>
      obtain ⟨kept, best⟩ := held
      simp only [keepBest, scored]
      split
      case isTrue above =>
        exact isBest_last scored fun other member earlier found =>
          (sofar.largest other member earlier found).trans above.le
      case isFalse notAbove =>
        apply IsBest.append sofar
        intro other found
        cases scored.symm.trans found
        exact not_lt.mp notAbove

theorem foldl_keepBest (seen finals : List Climb) {best : Option (Climb × ℝ)}
    (sofar : BestSoFar seen best) : BestSoFar (seen ++ finals) (finals.foldl keepBest best) := by
  induction finals generalizing seen best with
  | nil => simpa using sofar
  | cons final finals ih =>
    rw [foldl_cons, append_cons]
    exact ih (seen ++ [final]) (bestSoFar_keepBest sofar final)

end Scores

section Relabelling

variable {model : StickyHmm} {runs : List Run} {order : State → State}

theorem joint_permute (arriving : State → ℝ) (runs : List Run) (path : List State) :
    joint (model.permute order).transition (fun state => arriving (order state))
        (emissions (model.permute order).logEmission runs) path =
      joint model.transition arriving (emissions model.logEmission runs) (path.map order) := by
  induction runs generalizing arriving path with
  | nil => simp [emissions]
  | cons run runs ih =>
    cases path with
    | nil => rfl
    | cons state path =>
      simp only [emissions, map_cons, joint_cons] at ih ⊢
      rw [← ih]
      rfl

theorem jointWeight_permute (path : List State) :
    jointWeight (model.permute order) (model.permute order).logEmission runs path =
      jointWeight model model.logEmission runs (path.map order) :=
  joint_permute model.initial runs path

theorem totalWeight_permute (bijective : Function.Bijective order) :
    totalWeight (model.permute order) (model.permute order).logEmission runs =
      totalWeight model model.logEmission runs := by
  unfold totalWeight
  apply Finset.sum_bij fun path _ => path.map order
  · intro path member
    rw [mem_paths] at member ⊢
    rw [length_map, member]
  · intro first _ second _ same
    exact bijective.injective.list_map same
  · intro path member
    obtain ⟨before, rfl⟩ := bijective.surjective.list_map path
    exact ⟨before, by simpa using member, rfl⟩
  · intro path _
    exact jointWeight_permute path

theorem logLikelihoodOf_permute (bijective : Function.Bijective order) :
    logLikelihoodOf (model.permute order) runs = logLikelihoodOf model runs := by
  have variances : (∀ state, 0 < (model.permute order).logDwellVariance state) ↔
      ∀ state, 0 < model.logDwellVariance state :=
    (bijective.surjective.forall (p := fun state => 0 < model.logDwellVariance state)).symm
  simp only [logLikelihoodOf, totalWeight_permute bijective, variances]

theorem isOptimal_permute (bijective : Function.Bijective order) (path : List State) :
    IsOptimal (model.permute order) (model.permute order).logEmission runs path ↔
      IsOptimal model model.logEmission runs (path.map order) := by
  simp only [IsOptimal, jointWeight_permute, length_map]
  apply and_congr_right
  intro _
  constructor
  · intro optimal other length
    obtain ⟨before, rfl⟩ := bijective.surjective.list_map other
    exact optimal before (by simpa using length)
  · intro optimal other length
    exact optimal (other.map order) (by simpa using length)

theorem canonicalOrder_perm (means : State → ℝ) : (canonicalOrder means).Perm [0, 1, 2] :=
  mergeSort_perm _ _

theorem canonicalOrder_length (means : State → ℝ) : (canonicalOrder means).length = 3 :=
  (canonicalOrder_perm means).length_eq

theorem canonical_eq (means : State → ℝ) (target : State) : canonical means target =
      (canonicalOrder means).get (target.cast (canonicalOrder_length means).symm) :=
  getD_eq_getElem _ _ (target.isLt.trans_eq (canonicalOrder_length means).symm)

theorem canonical_bijective (means : State → ℝ) : Function.Bijective (canonical means) := by
  apply Finite.injective_iff_bijective.mp
  intro first second same
  have nodup : (canonicalOrder means).Nodup :=
    (canonicalOrder_perm means).nodup_iff.mpr (by decide)
  rw [canonical_eq, canonical_eq, nodup.get_inj_iff] at same
  exact Fin.cast_injective _ same

theorem canonical_descending (means : State → ℝ) {earlier later : State}
    (ordered : earlier ≤ later) :
    means (canonical means later) ≤ means (canonical means earlier) := by
  have sorted : (canonicalOrder means).Pairwise fun left right => means right ≤ means left := by
    have pairwise := @pairwise_mergeSort _
      (fun left right : State => decide (means right ≤ means left))
      (by simp only [decide_eq_true_eq]; exact fun _ _ _ first second => second.trans first)
      (by simp only [Bool.or_eq_true, decide_eq_true_eq]; exact fun _ _ => le_total _ _)
      [0, 1, 2]
    exact pairwise.imp fun above => of_decide_eq_true above
  rcases ordered.lt_or_eq with before | rfl
  · rw [canonical_eq, canonical_eq]
    exact pairwise_iff_get.mp sorted _ _ before
  · exact le_rfl

end Relabelling

section Fits

variable {runs : List Run} {config : HmmConfig} {result : HmmFit}

theorem sum_count (states : List State) : ∑ state, (states.count state : ℝ) = states.length := by
  induction states with
  | nil => simp
  | cons first states ih =>
    simp only [count_cons, Nat.cast_add, Finset.sum_add_distrib, ih, length_cons, Nat.cast_one]
    simp

theorem relabels_canonical (runs : List Run) (model : StickyHmm) :
    Relabels runs model (model.permute (canonical model.logDwellMean))
      (canonical model.logDwellMean) where
  model := rfl
  bijective := canonical_bijective _
  descending _ _ ordered := canonical_descending _ ordered
  logLikelihood := logLikelihoodOf_permute (canonical_bijective _)
  optimal := isOptimal_permute (canonical_bijective _)

theorem expectRuns_ne_nil {model : StickyHmm} {expectation : Expectation}
    (through : expectRuns model runs = some expectation) : runs ≠ [] := by
  rintro rfl
  simp [expectRuns, expect, expectScaled, guard] at through

theorem sum_occupancyOf (model : StickyHmm) (logEmission : State → Run → ℝ) (some_run : runs ≠ []) :
    ∑ state, occupancyOf runs.length (viterbi model logEmission runs) state = 1 := by
  simp only [occupancyOf, ← Finset.sum_div, sum_count]
  rw [(viterbi_isOptimal model logEmission runs).1, div_self]
  exact Nat.cast_ne_zero.mpr (length_eq_zero_iff.not.mpr some_run)

theorem fitRuns_spec (fitted : fitRuns runs config = some (.ok result)) : ∃ finals kept evaluated,
      IsKept runs config finals kept result.logLikelihood evaluated ∧
      result.model = kept.model.permute (canonical kept.model.logDwellMean) ∧
      result.HasOwnStates runs := by
  obtain ⟨finals, restarted, fitted⟩ := Option.bind_eq_some_iff.mp fitted
  have isBest := foldl_keepBest [] finals (show BestSoFar [] none by simp [BestSoFar])
  cases folded : finals.foldl keepBest none with
  | none =>
    rw [folded] at fitted
    cases fitted
  | some held =>
    obtain ⟨kept, score⟩ := held
    rw [folded] at fitted isBest
    obtain ⟨_, _, fitted⟩ := Option.bind_eq_some_iff.mp fitted
    cases fitted
    have scored := isScored_invariant.climbs restarted
    obtain ⟨evaluated, expectation, ghost, evaluation, update, likelihood⟩ :=
      (scored kept isBest.member).score isBest.score
    refine ⟨finals, kept, evaluated, ⟨restarted, folded, ghost, likelihood,
      ⟨expectation, evaluation, update⟩, ?_⟩, rfl, rfl, fun _ => rfl, ?_⟩
    · intro other member model same
      obtain ⟨value, held, valued⟩ := (scored other member).previous same
      rw [valued, likelihood]
      exact WithBot.coe_le_coe.mpr (isBest.largest other member value held)
    · exact sum_occupancyOf _ _ (expectRuns_ne_nil evaluation)

theorem fitRuns_of_fit {categories : List Nat} {logDwell : List (Option ℝ)}
    (fitted : fit categories logDwell config = some (.ok result)) :
    fitRuns (inputRuns categories logDwell) config = some (.ok result) := by
  unfold fit at fitted
  split at fitted
  · cases fitted
  split at fitted
  · cases fitted
  split at fitted
  · cases fitted
  split at fitted
  · cases fitted
  exact fitted

end Fits

def shortRun : Run := ⟨0, 0⟩

/-- A single evaluation and update; everything else but the prior of the categories as by
default. -/
noncomputable def oneIteration (categoryAlpha : ℝ) : HmmConfig where
  maxIterations := 1
  tolerance := 1e-7
  restarts := 1
  seed := 20260821
  stickinessKappa := 10
  categoryAlpha := categoryAlpha
  transitionAlpha := 1
  dwellMeanPseudoCounts := 1
  dwellVariancePseudoCounts := 2
  varianceFloor := 1e-3
  minRuns := 1

section ShortRun

variable (alpha : ℝ)

noncomputable def updateFrom (row : State → ℝ) : StickyHmm where
  initial state := (row state + 1) / (1 + 3)
  transition state next :=
    transitionRow (fun _ _ => 0) (oneIteration alpha) state next /
      ∑ other, transitionRow (fun _ _ => 0) (oneIteration alpha) state other
  category state category :=
    ((if shortRun.category = category then row state else 0) + alpha) / (row state + 8 * alpha)
  logDwellMean _ := 0
  logDwellVariance _ := 1e-3

/-- The joint weight of the run and a state, but for what the dwell adds alike to all of them. -/
noncomputable def shareOf (row : State → ℝ) (state : State) : ℝ :=
  (row state + 1) * (row state + alpha) / (row state + 8 * alpha)

noncomputable def sharesOf (row : State → ℝ) (state : State) : ℝ :=
  shareOf alpha row state / ∑ other, shareOf alpha row other

noncomputable def dwellFactor : ℝ :=
  Real.exp (-0.5 * Real.log (2 * Real.pi * 1e-3)) / 4

theorem dwellFactor_pos : 0 < dwellFactor :=
  div_pos (Real.exp_pos _) (by norm_num)

theorem updateFrom_variance (row : State → ℝ) (state : State) :
    0 < (updateFrom alpha row).logDwellVariance state := by
  simp only [updateFrom]
  norm_num

variable {alpha} (counted : 0 ≤ alpha) {row : State → ℝ} (positive : ∀ state, 0 < row state)

include positive

theorem updateFrom_positive : (updateFrom alpha row).HasPositiveRows where
  initial state := by
    have occupied := positive state
    simp only [updateFrom]
    linarith
  transition state next := by
    fin_cases state <;> fin_cases next <;>
      simp [updateFrom, transitionRow, oneIteration, Fin.sum_univ_three] <;> norm_num

include counted

theorem maximise_shortRun :
    maximise [row] (fun _ _ => 0) [shortRun] (PooledMoments.of [shortRun] (oneIteration alpha))
      (oneIteration alpha) = some (updateFrom alpha row) := by
  have divides : ∀ state, Divides [row] (fun _ _ => 0) (oneIteration alpha) state := by
    intro state
    have occupied := positive state
    refine ⟨?_, ?_, ?_, ?_⟩
    · fin_cases state <;> simp [transitionRow, oneIteration, Fin.sum_univ_three] <;> norm_num
    all_goals
      simp [stateOccupancy, oneIteration]
      linarith
  have mean : dwellMean [row] [shortRun] (PooledMoments.of [shortRun] (oneIteration alpha))
      (oneIteration alpha) = fun _ => 0 := by
    ext state
    simp [dwellMean, dwellSum, PooledMoments.of, shortRun]
  rw [maximise, if_pos divides, Option.some.injEq, updateFrom]
  congr 1
  · ext state category
    simp [categoryCounts, stateOccupancy, oneIteration]
  · ext state
    have occupied := positive state
    have spread : scatter [row] [shortRun] (PooledMoments.of [shortRun] (oneIteration alpha))
        (oneIteration alpha) state = 0 := by
      rw [scatter, mean]
      simp [shortRun]
    have floor : max (0 : ℝ) 1e-3 = 1e-3 := max_eq_right (by norm_num)
    simp only [spread, stateOccupancy]
    simp [PooledMoments.of, oneIteration, shortRun, floor]
    rw [div_le_iff₀ (by linarith)]
    linarith

theorem shareOf_pos (state : State) : 0 < shareOf alpha row state := by
  have occupied := positive state
  exact div_pos (mul_pos (by linarith) (by linarith)) (by linarith)

theorem sum_shareOf_pos : 0 < ∑ state, shareOf alpha row state :=
  Finset.sum_pos (fun state _ => shareOf_pos counted positive state) Finset.univ_nonempty

theorem sharesOf_pos (state : State) : 0 < sharesOf alpha row state :=
  div_pos (shareOf_pos counted positive state) (sum_shareOf_pos counted positive)

theorem jointWeight_updateFrom (state : State) :
    jointWeight (updateFrom alpha row) (updateFrom alpha row).logEmission [shortRun] [state] =
      dwellFactor * shareOf alpha row state := by
  have occupied := positive state
  have category : max ((row state + alpha) / (row state + 8 * alpha)) minPositive =
      (row state + alpha) / (row state + 8 * alpha) := by
    apply max_eq_left
    refine minPositive_le_eighth.trans ?_
    rw [le_div_iff₀ (by linarith)]
    linarith
  have likely : 0 < (row state + alpha) / (row state + 8 * alpha) :=
    div_pos (by linarith) (by linarith)
  simp only [jointWeight, emissions, map_cons, map_nil, joint_cons, joint_nil, mul_one]
  simp only [StickyHmm.logEmission, updateFrom, shortRun, if_true, category]
  rw [Real.exp_add, Real.exp_log likely, dwellFactor, shareOf]
  simp
  ring

theorem totalWeight_updateFrom :
    totalWeight (updateFrom alpha row) (updateFrom alpha row).logEmission [shortRun] =
      dwellFactor * ∑ state, shareOf alpha row state := by
  rw [totalWeight, length_singleton, sum_paths_succ, Finset.mul_sum]
  simp only [sum_paths_zero, jointWeight_updateFrom counted positive]

theorem logLikelihoodOf_updateFrom :
    logLikelihoodOf (updateFrom alpha row) [shortRun] =
      (Real.log (dwellFactor * ∑ state, shareOf alpha row state) : ℝ) := by
  have weight : 0 < dwellFactor * ∑ state, shareOf alpha row state :=
    mul_pos dwellFactor_pos (sum_shareOf_pos counted positive)
  rw [logLikelihoodOf, totalWeight_updateFrom counted positive,
    if_pos ⟨updateFrom_variance alpha row, weight⟩]

theorem expectRuns_updateFrom :
    ∃ logLikelihood, expectRuns (updateFrom alpha row) [shortRun] =
      some { gamma := [sharesOf alpha row], xiSum := fun _ _ => 0, logLikelihood } := by
  obtain ⟨expectation, through⟩ := expect_isSome (updateFrom alpha row).logEmission
    (updateFrom_positive positive) (cons_ne_nil shortRun [])
  have exact := (expect_exact through).1
  obtain ⟨found, same⟩ := length_eq_one_iff.mp exact.gamma_length
  have shares : found = sharesOf alpha row := by
    ext state
    rw [exact.gamma 0 found (by rw [same]; rfl), totalWeight_updateFrom counted positive,
      Finset.sum_filter, length_singleton, sum_paths_succ]
    simp only [sum_paths_zero, jointWeight_updateFrom counted positive, List.getElem?_cons_zero,
      Option.some.injEq, Finset.sum_ite_eq', Finset.mem_univ, if_true]
    exact mul_div_mul_left _ _ dwellFactor_pos.ne'
  have steps : expectation.xiSum = fun _ _ => 0 := by
    ext state next
    rw [exact.xiSum, length_singleton, sum_paths_succ]
    simp [sum_paths_zero, Trellis.steps]
  refine ⟨expectation.logLikelihood, ?_⟩
  rw [expectRuns, if_pos (updateFrom_variance alpha row), through, ← shares, ← same, ← steps]

end ShortRun

noncomputable def drawnSlots : State → ℝ :=
  slots (8995791070293174 / 2 ^ 53) (3310864892699497 / 2 ^ 53) (272019520244606 / 2 ^ 53)

noncomputable def drawnRow (state : State) : ℝ :=
  drawnSlots state / ∑ other, drawnSlots other

theorem drawRow_seed : (drawRow ⟨20260821⟩).1 = drawnRow := by
  have first : ((SplitMix64.nextU64 ⟨20260821⟩).1 >>> 11).toNat = 8995791070293174 := by decide
  have second : ((SplitMix64.nextU64 (SplitMix64.nextU64 ⟨20260821⟩).2).1 >>> 11).toNat =
      3310864892699497 := by decide
  have third : ((SplitMix64.nextU64 (SplitMix64.nextU64
      (SplitMix64.nextU64 ⟨20260821⟩).2).2).1 >>> 11).toNat = 272019520244606 := by decide
  ext state
  simp only [drawRow, SplitMix64.nextF64, first, second, third]
  norm_num [drawnRow, drawnSlots]

theorem drawnRow_pos (state : State) : 0 < drawnRow state := by
  have slots : ∀ state, 0 < drawnSlots state := by
    intro state
    fin_cases state <;> simp only [drawnSlots, slots] <;> norm_num
  exact div_pos (slots state) (Finset.sum_pos (fun other _ => slots other) Finset.univ_nonempty)

theorem shares_differ : ∑ state, shareOf 0.5 (sharesOf 0.5 drawnRow) state <
    ∑ state, shareOf 0.5 drawnRow state := by
  simp only [Fin.sum_univ_three, sharesOf, shareOf, drawnRow, drawnSlots, slots]
  norm_num

section Runs

variable {alpha : ℝ} (counted : 0 ≤ alpha)

include counted

theorem climbs_shortRun : ∃ logLikelihood,
    climbs [shortRun] (PooledMoments.of [shortRun] (oneIteration alpha)) (oneIteration alpha) 1
      ⟨20260821⟩ = some [{
        model := updateFrom alpha (sharesOf alpha drawnRow)
        previous := some logLikelihood
        iterations := 1
        converged := false
        evaluated := some (updateFrom alpha drawnRow) }] := by
  obtain ⟨logLikelihood, evaluation⟩ := expectRuns_updateFrom counted drawnRow_pos
  refine ⟨logLikelihood, ?_⟩
  have drawn : drawRows 1 ⟨20260821⟩ = ([drawnRow], (drawRow ⟨20260821⟩).2) := by
    rw [← drawRow_seed]
    rfl
  have first := maximise_shortRun counted drawnRow_pos
  have second := maximise_shortRun counted (sharesOf_pos counted drawnRow_pos)
  have once : (oneIteration alpha).maxIterations = 1 := rfl
  simp [climbs, restart, drawn, first, once, climb, evaluation, second, settles]

theorem fit_shortRun : ∃ result, fit [0] [some 0] (oneIteration alpha) = some (.ok result) := by
  obtain ⟨logLikelihood, ran⟩ := climbs_shortRun counted
  have variances : ∀ state, 0 < ((updateFrom alpha (sharesOf alpha drawnRow)).permute
      (canonical (updateFrom alpha (sharesOf alpha drawnRow)).logDwellMean)).logDwellVariance
        state :=
    fun state => updateFrom_variance alpha (sharesOf alpha drawnRow) state
  have checks : fit [0] [some 0] (oneIteration alpha) =
      fitRuns [shortRun] (oneIteration alpha) := by
    simp [fit, oneIteration, inputRuns, shortRun]
  have once : max (oneIteration alpha).restarts 1 = 1 := rfl
  have seed : (oneIteration alpha).seed = 20260821 := rfl
  rw [checks, fitRuns, once, seed, ran]
  simp only [Option.bind_eq_bind, Option.bind_some, foldl_cons, foldl_nil, keepBest]
  rw [guard, if_pos variances]
  exact ⟨_, rfl⟩

end Runs

theorem inputRuns_shortRun : inputRuns [0] [some 0] = [shortRun] :=
  rfl

section Main

variable {runs : List Run} {config : HmmConfig} {finals : List Climb} {kept : Climb} {score : ℝ}
  {evaluated : StickyHmm}

theorem IsKept.isBest (isKept : IsKept runs config finals kept score evaluated) :
    IsBest finals kept score := by
  have best := foldl_keepBest [] finals (show BestSoFar [] none by simp [BestSoFar])
  rw [isKept.folded] at best
  exact best

/-- Where the last updates are idle, every restart ends with the likelihood it is scored by. -/
theorem LastUpdatesIdle.logLikelihoodOf_eq (idle : LastUpdatesIdle runs config finals)
    (isKept : IsKept runs config finals kept score evaluated) {final : Climb}
    (member : final ∈ finals) : (∃ model, final.evaluated = some model ∧
      logLikelihoodOf final.model runs = logLikelihoodOf model runs) ∨
        logLikelihoodOf final.model runs = logLikelihoodOf evaluated runs := by
  rcases idle with still | alike
  · obtain ⟨model, same, expectation, evaluation, update⟩ := still final member
    left
    rcases isScored_invariant.climbs isKept.restarted final member with
      ⟨none, _⟩ | ⟨other, expectation', same', evaluation', _, update'⟩
    · cases none.symm.trans same
    · cases same.symm.trans same'
      cases evaluation.symm.trans evaluation'
      cases update.symm.trans update'
      exact ⟨final.model, same, rfl⟩
  · have even := (isEven_invariant alike).climbs isKept.restarted
    right
    exact (even final member).model.logLikelihoodOf_eq
      ((even kept isKept.isBest.member).evaluated evaluated isKept.lastEvaluated)

/-- What a fit says of its states is about the model that it returns; its log-likelihood is too,
and the best that a restart came to, if the last updates were idle. -/
theorem fit_reports_itself {categories : List Nat} {logDwell : List (Option ℝ)}
    {result : HmmFit} (fitted : fit categories logDwell config = some (.ok result)) :
    ∃ finals kept evaluated,
      IsKept (inputRuns categories logDwell) config finals kept result.logLikelihood evaluated ∧
      (∃ order, Relabels (inputRuns categories logDwell) kept.model result.model order) ∧
      result.HasOwnStates (inputRuns categories logDwell) ∧
      (LastUpdatesIdle (inputRuns categories logDwell) config finals →
        result.ReportsItself (inputRuns categories logDwell) finals kept) := by
  obtain ⟨finals, kept, evaluated, isKept, model, own⟩ := fitRuns_spec (fitRuns_of_fit fitted)
  have relabels := relabels_canonical (inputRuns categories logDwell) kept.model
  rw [← model] at relabels
  refine ⟨finals, kept, evaluated, isKept, ⟨_, relabels⟩, own, fun idle => ?_⟩
  have same : logLikelihoodOf kept.model (inputRuns categories logDwell) =
      logLikelihoodOf evaluated (inputRuns categories logDwell) := by
    rcases idle.logLikelihoodOf_eq isKept isKept.isBest.member with ⟨model, last, same⟩ | same
    · cases isKept.lastEvaluated.symm.trans last
      exact same
    · exact same
  refine ⟨relabels.logLikelihood.trans (same.trans isKept.score), ?_, ⟨_, relabels⟩, own⟩
  intro other member
  rw [← isKept.score]
  rcases idle.logLikelihoodOf_eq isKept member with ⟨model, last, same⟩ | same
  · exact same.trans_le (isKept.best other member model last)
  · exact same.le

theorem runsAlike_shortRun : RunsAlike (inputRuns [0] [some 0]) (oneIteration 0) := by
  constructor <;> simp [inputRuns, oneIteration]

/-- Without a prior of the categories, the fit of a single run reports itself. -/
theorem shortRun_reports_itself :
    ∃ result, fit [0] [some 0] (oneIteration 0) = some (.ok result) ∧ ∃ finals kept,
      result.ReportsItself (inputRuns [0] [some 0]) finals kept := by
  obtain ⟨result, fitted⟩ := fit_shortRun le_rfl
  obtain ⟨finals, kept, _, _, _, _, reports⟩ := fit_reports_itself fitted
  exact ⟨result, fitted, finals, kept, reports (.inr runsAlike_shortRun)⟩

/-- The update of the run draws the responsibilities together, and the run gets less likely. -/
theorem fit_reports_another_model :
    ∃ result, fit [0] [some 0] (oneIteration 0.5) = some (.ok result) ∧
      logLikelihoodOf result.model (inputRuns [0] [some 0]) < (result.logLikelihood : ℝ) := by
  have counted : (0 : ℝ) ≤ 0.5 := by norm_num
  obtain ⟨result, fitted⟩ := fit_shortRun counted
  refine ⟨result, fitted, ?_⟩
  obtain ⟨finals, kept, evaluated, isKept, model, _⟩ := fitRuns_spec (fitRuns_of_fit fitted)
  obtain ⟨logLikelihood, ran⟩ := climbs_shortRun counted
  rw [inputRuns_shortRun] at isKept ⊢
  have alone := Option.some.inj (ran.symm.trans isKept.restarted)
  have folded := isKept.folded
  rw [← alone] at folded
  cases Option.some.inj folded
  cases Option.some.inj isKept.lastEvaluated
  rw [model, logLikelihoodOf_permute (canonical_bijective _), ← isKept.score,
    logLikelihoodOf_updateFrom counted drawnRow_pos,
    logLikelihoodOf_updateFrom counted (sharesOf_pos counted drawnRow_pos)]
  apply WithBot.coe_lt_coe.mpr
  apply Real.log_lt_log
  · exact mul_pos dwellFactor_pos (sum_shareOf_pos counted (sharesOf_pos counted drawnRow_pos))
  · exact mul_lt_mul_of_pos_left shares_differ dwellFactor_pos

end Main

end Velvt.Hmm
