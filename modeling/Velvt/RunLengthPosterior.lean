import Velvt.ChangePoints
import Velvt.RunLengths
import Velvt.RunningMoments

/-!
# The posterior over run lengths

Out of log space, a step of the detector is a step of the recursion over run lengths, and the
statistics beside a run length are those of as many observations.
-/

noncomputable section

namespace Velvt.ChangePoints

open RunLengths RunningMoments List

variable {predictive : BocpdConfig → SegmentStats → Fin CATEGORY_COUNT → ℝ → ℝ}
  {config : BocpdConfig} {detector : Bocpd} {values : List ℝ}
  {history : List (Fin CATEGORY_COUNT × ℝ)} {category : Fin CATEGORY_COUNT} {d : ℝ}
  {run : RunObservation}

theorem sum_exp_pos (nonempty : values ≠ []) : 0 < (values.map Real.exp).sum := by
  apply sum_pos _ _ (by simpa using nonempty)
  intro weight isWeight
  obtain ⟨value, -, rfl⟩ := mem_map.mp isWeight
  exact Real.exp_pos value

theorem exp_logSumExp (nonempty : values ≠ []) :
    Real.exp (logSumExp values) = (values.map Real.exp).sum := by
  obtain ⟨first, later, rfl⟩ := exists_cons_of_ne_nil nonempty
  rw [logSumExp]
  set shift := later.foldl max first
  have scaled : ((first :: later).map fun value => Real.exp (value - shift)).sum =
      ((first :: later).map Real.exp).sum * Real.exp (-shift) := by
    rw [← sum_map_mul_right]
    congr 1
    apply map_congr_left
    intro value _
    rw [← Real.exp_add, sub_eq_add_neg]
  have positive := mul_pos (sum_exp_pos nonempty) (Real.exp_pos (-shift))
  rw [scaled, Real.exp_add, Real.exp_log positive, mul_comm, mul_assoc, ← Real.exp_add,
    neg_add_cancel, Real.exp_zero, mul_one]

theorem map_exp_sub (nonempty : values ≠ []) :
    (values.map (· - logSumExp values)).map Real.exp = normalise (values.map Real.exp) := by
  rw [normalise, map_map, map_map]
  apply map_congr_left
  intro value _
  rw [Function.comp_apply, Function.comp_apply, Real.exp_sub, exp_logSumExp nonempty]

/-- The logarithms of the joint weights of the run lengths and an observation. -/
def logJoint (predictive : BocpdConfig → SegmentStats → Fin CATEGORY_COUNT → ℝ → ℝ)
    (detector : Bocpd) (category : Fin CATEGORY_COUNT) (d : ℝ) : List ℝ :=
  List.zipWith (· + ·) detector.logPosterior
    (detector.stats.map fun stats => predictive detector.config stats category d)

theorem advance_posterior (nonempty : logJoint predictive detector category d ≠ [])
    {hazard : ℝ} (change : Real.exp detector.logHazard = hazard)
    (growth : Real.exp detector.logSurvive = 1 - hazard) :
    (detector.advance predictive category d).runLengthPosterior =
      step hazard (detector.config.rMax + 1)
        ((logJoint predictive detector category d).map Real.exp) := by
  rw [Bocpd.runLengthPosterior, Bocpd.advance]
  dsimp only
  rw [← logJoint, take_succ_cons, map_exp_sub (cons_ne_nil _ _), step, messages,
    take_succ_cons, map_cons, Real.exp_add, exp_logSumExp nonempty, change, mul_comm,
    ← map_take, ← map_take, ← map_take, map_map, map_map]
  congr 2
  apply map_congr_left
  intro value _
  rw [Function.comp_apply, Function.comp_apply, Real.exp_add, growth, mul_comm]

def segment (observations : List (Fin CATEGORY_COUNT × ℝ)) : SegmentStats where
  counts category := observations.countP (·.1 = category)
  categoryTotal := observations.length
  dwellCount := observations.length
  dwellMean := mean (observations.map Prod.snd)
  dwellM2 := deviations (observations.map Prod.snd)

theorem segment_nil : segment [] = SegmentStats.EMPTY := by
  simp [segment, SegmentStats.EMPTY, mean, deviations]

theorem segment_cons : segment ((category, d) :: history) = (segment history).absorb category d := by
  have counted : ((history.map Prod.snd).length : ℝ) = history.length := by
    rw [length_map]
  ext other
  · rw [segment, SegmentStats.absorb]
    dsimp only
    rw [countP_cons]
    by_cases same : other = category
    · simp [same, segment]
    · simp [same, Ne.symm same, segment]
  · simp [segment, SegmentStats.absorb]
  · simp [segment, SegmentStats.absorb]
  · rw [segment, SegmentStats.absorb, map_cons]
    dsimp only
    rw [mean_cons, counted]
    rfl
  · rw [segment, SegmentStats.absorb, map_cons]
    dsimp only
    rw [deviations_cons, mean_cons, counted]
    rfl

/-- The observation of a closed run, if it is one the detector takes. -/
def accepted (run : RunObservation) : Option (Fin CATEGORY_COUNT × ℝ) :=
  if known : run.category < CATEGORY_COUNT then
    (run.dwellSeconds.filter (0 ≤ ·)).map fun dwellSeconds =>
      (⟨run.category, known⟩, logDwell dwellSeconds)
  else none

/-- The accepted observations of some closed runs, the last one first. -/
def observations (runs : List RunObservation) : List (Fin CATEGORY_COUNT × ℝ) :=
  (runs.filterMap accepted).reverse

def feed (predictive : BocpdConfig → SegmentStats → Fin CATEGORY_COUNT → ℝ → ℝ)
    (config : BocpdConfig) (runs : List RunObservation) : Bocpd :=
  runs.foldl (fun detector run => (detector.observe predictive run).2) (.new config)

theorem observe_cases : (accepted run = none ∧ (∃ error, detector.observe predictive run =
      (.error error, detector))) ∨
    ∃ category d, accepted run = some (category, d) ∧ detector.observe predictive run =
      (.ok (detector.advance predictive category d).summarise,
        detector.advance predictive category d) := by
  unfold accepted Bocpd.observe
  by_cases known : run.category < CATEGORY_COUNT
  · rw [dif_pos known, dif_pos known]
    cases run.dwellSeconds with
    | none => exact Or.inl ⟨rfl, _, rfl⟩
    | some dwellSeconds =>
      dsimp only
      by_cases negative : dwellSeconds < 0
      · rw [if_pos negative, Option.filter_some, if_neg (by simpa using negative)]
        exact Or.inl ⟨rfl, _, rfl⟩
      · rw [if_neg negative, Option.filter_some, if_pos (by simpa using negative)]
        exact Or.inr ⟨_, _, rfl, rfl⟩
  · rw [dif_neg known, dif_neg known]
    exact Or.inl ⟨rfl, _, rfl⟩

/-- What the detector holds after some observations, the last one first. -/
structure Tracks (config : BocpdConfig) (history : List (Fin CATEGORY_COUNT × ℝ))
    (detector : Bocpd) : Prop where
  config_eq : detector.config = config
  change : Real.exp detector.logHazard = config.hazard
  growth : Real.exp detector.logSurvive = 1 - config.hazard
  observed : detector.observed = history.length
  length : detector.logPosterior.length = min history.length config.rMax + 1
  sum_eq_one : detector.runLengthPosterior.sum = 1
  hazard_le : ∃ first, detector.runLengthPosterior[0]? = some first ∧ config.hazard ≤ first
  eq_hazard : history ≠ [] → history.length ≤ config.rMax →
    detector.runLengthPosterior[0]? = some config.hazard
  stats : detector.stats =
    (List.range (min history.length config.rMax + 1)).map fun runLength =>
      segment (history.take runLength)

theorem tracks_new (positive : 0 < config.hazard) (below : config.hazard < 1) :
    Tracks config [] (.new config) where
  config_eq := rfl
  change := Real.exp_log positive
  growth := Real.exp_log (sub_pos.mpr below)
  observed := rfl
  length := rfl
  sum_eq_one := by simp [Bocpd.runLengthPosterior, Bocpd.new]
  hazard_le := ⟨1, by simp [Bocpd.runLengthPosterior, Bocpd.new], below.le⟩
  eq_hazard nonempty := absurd rfl nonempty
  stats := by simp [Bocpd.new, segment_nil]

theorem stats_advance (tracks : Tracks config history detector) :
    (detector.advance predictive category d).stats =
      (List.range (min ((category, d) :: history).length config.rMax + 1)).map fun runLength =>
        segment (((category, d) :: history).take runLength) := by
  have absorbed : (SegmentStats.EMPTY :: detector.stats.map fun stats => stats.absorb category d) =
      (List.range (min history.length config.rMax + 2)).map fun runLength =>
        segment (((category, d) :: history).take runLength) := by
    rw [range_succ_eq_map, map_cons, take_zero, segment_nil, tracks.stats, map_map, map_map]
    congr 1
    apply map_congr_left
    intro runLength _
    rw [Function.comp_apply, Function.comp_apply, take_succ_cons, segment_cons]
  rw [Bocpd.advance]
  dsimp only
  rw [absorbed, tracks.config_eq, ← map_take, take_range, length_cons]
  congr 2
  omega

theorem length_logJoint (tracks : Tracks config history detector) :
    (logJoint predictive detector category d).length = min history.length config.rMax + 1 := by
  rw [logJoint, length_zipWith, length_map, tracks.stats, length_map,
    length_range, tracks.length, min_self]

theorem tracks_advance (positive : 0 < config.hazard) (below : config.hazard < 1)
    (tracks : Tracks config history detector) :
    Tracks config ((category, d) :: history) (detector.advance predictive category d) := by
  have counted := @length_logJoint predictive _ _ _ category d tracks
  have nonempty : logJoint predictive detector category d ≠ [] := by
    rw [← length_pos_iff, counted]
    omega
  have weights := sum_exp_pos nonempty
  have nonneg : ∀ weight ∈ (logJoint predictive detector category d).map Real.exp,
      0 ≤ weight := by
    intro weight isWeight
    obtain ⟨value, -, rfl⟩ := mem_map.mp isWeight
    exact (Real.exp_pos value).le
  have stepped := advance_posterior nonempty tracks.change tracks.growth
  rw [tracks.config_eq] at stepped
  constructor
  case config_eq => exact tracks.config_eq
  case change => exact tracks.change
  case growth => exact tracks.growth
  case observed => exact congrArg (· + 1) tracks.observed
  case length =>
    have posterior := congrArg List.length stepped
    rw [length_step, length_map, counted, Bocpd.runLengthPosterior, length_map]
      at posterior
    rw [posterior, length_cons]
    omega
  case sum_eq_one =>
    rw [stepped]
    exact sum_step positive below nonneg weights
  case hazard_le =>
    rw [stepped]
    exact hazard_le_step_head positive below nonneg weights
  case eq_hazard =>
    intro _ all
    rw [length_cons] at all
    rw [stepped]
    apply step_head_eq weights
    rw [length_map, counted]
    omega
  case stats => exact stats_advance tracks

theorem tracks_feed (positive : 0 < config.hazard) (below : config.hazard < 1)
    (runs : List RunObservation) :
    Tracks config (observations runs) (feed predictive config runs) := by
  induction runs using List.reverseRecOn with
  | nil => exact tracks_new positive below
  | append_singleton runs run ih =>
    rw [feed, foldl_append, foldl_cons, foldl_nil, ← feed, observations,
      filterMap_append, filterMap_cons, filterMap_nil]
    obtain ⟨refused, error, observed⟩ | ⟨category, d, isAccepted, observed⟩ :=
      @observe_cases predictive (feed predictive config runs) run
    · rw [refused, observed, append_nil]
      exact ih
    · rw [isAccepted, observed, reverse_append]
      exact tracks_advance positive below ih

theorem recent_foldl (horizon start : Nat) (summary : ℝ × (Nat × Option ℝ) × ℝ) :
    ((values.zipIdx start).foldl (summariseEntry horizon) summary).1 =
      summary.1 + ((values.map Real.exp).take (horizon - start)).sum := by
  induction values generalizing start summary with
  | nil => simp
  | cons value values ih =>
    rw [zipIdx_cons, foldl_cons, ih, summariseEntry, map_cons]
    by_cases recent : start < horizon
    · have here : horizon - start = horizon - (start + 1) + 1 := by omega
      rw [if_pos recent, here, take_succ_cons, sum_cons, add_assoc]
    · have here : horizon - start = 0 := by omega
      have later : horizon - (start + 1) = 0 := by omega
      rw [if_neg recent, here, later, take_zero, take_zero]

theorem pRecentChange_eq (tracks : Tracks config history detector) :
    detector.summarise.pRecentChange =
      (detector.runLengthPosterior.take config.recentRunHorizon).sum := by
  have nonneg : ∀ weight ∈ detector.runLengthPosterior, 0 ≤ weight := by
    intro weight isWeight
    obtain ⟨value, -, rfl⟩ := mem_map.mp isWeight
    exact (Real.exp_pos value).le
  have atLeast := @sum_take_nonneg ℝ _ detector.runLengthPosterior config.recentRunHorizon _ _ nonneg
  have atMost := @sum_take_le ℝ _ detector.runLengthPosterior config.recentRunHorizon _ _ nonneg
  rw [tracks.sum_eq_one] at atMost
  rw [Bocpd.summarise]
  dsimp only
  rw [tracks.config_eq, recent_foldl, Nat.sub_zero, zero_add, ← Bocpd.runLengthPosterior,
    min_eq_left atMost, max_eq_right atLeast]

theorem hazard_le_recent (tracks : Tracks config history detector)
    (horizon : 1 ≤ config.recentRunHorizon) :
    config.hazard ≤ detector.summarise.pRecentChange := by
  obtain ⟨first, isFirst, atLeast⟩ := tracks.hazard_le
  rw [pRecentChange_eq tracks]
  apply atLeast.trans
  apply single_le_sum
  · intro weight isWeight
    obtain ⟨value, -, rfl⟩ := mem_map.mp (mem_of_mem_take isWeight)
    exact (Real.exp_pos value).le
  · apply mem_of_getElem?
    rw [List.getElem?_take_of_lt horizon]
    exact isFirst

/-- The law of the posterior after some observations, the last one first. -/
structure PosteriorLaw (config : BocpdConfig) (history : List (Fin CATEGORY_COUNT × ℝ))
    (detector : Bocpd) : Prop where
  observed : detector.observed = history.length
  sum_eq_one : detector.runLengthPosterior.sum = 1
  length : detector.runLengthPosterior.length = min history.length config.rMax + 1
  eq_hazard : history ≠ [] → history.length ≤ config.rMax →
    detector.runLengthPosterior[0]? = some config.hazard
  hazard_le : ∃ first, detector.runLengthPosterior[0]? = some first ∧ config.hazard ≤ first
  hazard_le_recent : 1 ≤ config.recentRunHorizon → config.hazard ≤ detector.summarise.pRecentChange
  length_stats : detector.stats.length = min history.length config.rMax + 1
  stats : ∀ runLength stats, detector.stats[runLength]? = some stats →
    stats = segment (history.take runLength)

/-- After any closed runs the law holds of the accepted ones, a refused one leaves the detector as
it was, and an accepted one is answered with the summary of the detector after it. -/
theorem posterior_law (predictive : BocpdConfig → SegmentStats → Fin CATEGORY_COUNT → ℝ → ℝ)
    (positive : 0 < config.hazard) (below : config.hazard < 1) (runs : List RunObservation) :
    PosteriorLaw config (observations runs) (feed predictive config runs) ∧
    ∀ run answer after, (feed predictive config runs).observe predictive run = (answer, after) →
      after = feed predictive config (runs ++ [run]) ∧
      match answer with
      | .error _ => after = feed predictive config runs
      | .ok update => update = after.summarise := by
  have tracks := @tracks_feed predictive config positive below runs
  constructor
  · constructor
    case observed => exact tracks.observed
    case sum_eq_one => exact tracks.sum_eq_one
    case length => rw [Bocpd.runLengthPosterior, length_map, tracks.length]
    case eq_hazard => exact tracks.eq_hazard
    case hazard_le => exact tracks.hazard_le
    case hazard_le_recent => exact hazard_le_recent tracks
    case length_stats => rw [tracks.stats, length_map, length_range]
    case stats =>
      intro runLength stats isStats
      rw [tracks.stats, List.getElem?_map, Option.map_eq_some_iff] at isStats
      obtain ⟨position, isPosition, rfl⟩ := isStats
      obtain ⟨inside, rfl⟩ := List.getElem?_eq_some_iff.mp isPosition
      rw [getElem_range]
  · intro run answer after answered
    have fed : feed predictive config (runs ++ [run]) =
        ((feed predictive config runs).observe predictive run).2 := by
      rw [feed, foldl_append]
      rfl
    rw [fed]
    obtain ⟨-, error, observed⟩ | ⟨category, d, -, observed⟩ :=
      @observe_cases predictive (feed predictive config runs) run
    · rw [observed] at answered ⊢
      obtain ⟨rfl, rfl⟩ := Prod.mk.inj answered
      exact ⟨rfl, rfl⟩
    · rw [observed] at answered ⊢
      obtain ⟨rfl, rfl⟩ := Prod.mk.inj answered
      exact ⟨rfl, rfl⟩

/-- A run of a minute, one of no known category, and one without a dwell. -/
theorem shipped_posterior_law :
    PosteriorLaw { } (observations [⟨0, some 60⟩, ⟨8, some 60⟩, ⟨1, none⟩])
        (feed logPosteriorPredictive { } [⟨0, some 60⟩, ⟨8, some 60⟩, ⟨1, none⟩]) :=
  (posterior_law logPosteriorPredictive (by norm_num [BocpdConfig.hazard, DEFAULT_LAMBDA_RUNS])
    (by norm_num [BocpdConfig.hazard, DEFAULT_LAMBDA_RUNS]) _).1

end Velvt.ChangePoints

end
