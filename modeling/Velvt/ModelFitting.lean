import Velvt.HiddenStates

/-!
# The fit of the hidden Markov model

Every restart draws its responsibilities, and then evaluates its model and updates it in turn until
the score settles, the iterations are used up or an evaluation fails.  The restart with the best
score is kept, and its states are put in the order of their mean dwell.  Where a denominator
vanishes or a variance is not positive there is no exact value, and here no result.
-/

namespace Velvt.Hmm

structure HmmConfig where
  maxIterations : Nat
  tolerance : ℝ
  restarts : Nat
  seed : UInt64
  stickinessKappa : ℝ
  categoryAlpha : ℝ
  transitionAlpha : ℝ
  dwellMeanPseudoCounts : ℝ
  dwellVariancePseudoCounts : ℝ
  varianceFloor : ℝ
  minRuns : Nat

inductive HmmAbstention
  | insufficientRuns (runs required : Nat)
  | mismatchedInputs (categories logDwell : Nat)
  | unknownCategory (index : Nat)
  | nonFiniteDwell
  | degenerateLikelihood

structure HmmFit where
  model : StickyHmm
  logLikelihood : ℝ
  iterations : Nat
  restarts : Nat
  converged : Bool
  states : List State
  occupancy : State → ℝ
  runs : Nat

structure SplitMix64 where
  state : UInt64

def SplitMix64.nextU64 (rng : SplitMix64) : UInt64 × SplitMix64 :=
  let state := rng.state + 0x9E3779B97F4A7C15
  let z := (state ^^^ (state >>> 30)) * 0xBF58476D1CE4E5B9
  let z := (z ^^^ (z >>> 27)) * 0x94D049BB133111EB
  (z ^^^ (z >>> 31), ⟨state⟩)

noncomputable def SplitMix64.nextF64 (rng : SplitMix64) : ℝ × SplitMix64 :=
  let (value, rng) := rng.nextU64
  (((value >>> 11).toNat : ℝ) / 2 ^ 53, rng)

noncomputable def slots (first second third : ℝ) : State → ℝ
  | 0 => 0.1 + first
  | 1 => 0.1 + second
  | 2 => 0.1 + third

noncomputable def drawRow (rng : SplitMix64) : (State → ℝ) × SplitMix64 :=
  let (first, rng) := rng.nextF64
  let (second, rng) := rng.nextF64
  let (third, rng) := rng.nextF64
  let row := slots first second third
  (fun state => row state / ∑ other, row other, rng)

noncomputable def drawRows : Nat → SplitMix64 → List (State → ℝ) × SplitMix64
  | 0, rng => ([], rng)
  | runs + 1, rng =>
    let (row, rng) := drawRow rng
    let (rows, rng) := drawRows runs rng
    (row :: rows, rng)

section Updates

/-- What the emissions are shrunk toward. -/
structure PooledMoments where
  mean : ℝ
  variance : ℝ

noncomputable def PooledMoments.of (runs : List Run) (config : HmmConfig) : PooledMoments :=
  let mean : ℝ := (runs.map Run.logDwell).sum / runs.length
  let variance : ℝ := (runs.map fun run => (run.logDwell - mean) ^ 2).sum / runs.length
  ⟨mean, max variance config.varianceFloor⟩

variable (gamma : List (State → ℝ)) (xiSum : State → State → ℝ) (runs : List Run)
  (pooled : PooledMoments) (config : HmmConfig)

noncomputable def stateOccupancy (state : State) : ℝ :=
  (gamma.map fun row => row state).sum

noncomputable def categoryCounts (state : State) (category : Category) : ℝ :=
  (List.zipWith (fun (row : State → ℝ) (run : Run) =>
    if run.category = category then row state else 0) gamma runs).sum

noncomputable def dwellSum (state : State) : ℝ :=
  (List.zipWith (fun (row : State → ℝ) (run : Run) => row state * run.logDwell) gamma runs).sum

noncomputable def transitionRow (state next : State) : ℝ :=
  xiSum state next + config.transitionAlpha + (if state = next then config.stickinessKappa else 0)

noncomputable def dwellMean (state : State) : ℝ :=
  (config.dwellMeanPseudoCounts * pooled.mean + dwellSum gamma runs state) /
    (config.dwellMeanPseudoCounts + stateOccupancy gamma state)

noncomputable def scatter (state : State) : ℝ :=
  (List.zipWith (fun (row : State → ℝ) (run : Run) =>
    row state * (run.logDwell - dwellMean gamma runs pooled config state) *
      (run.logDwell - dwellMean gamma runs pooled config state)) gamma runs).sum

/-- All that the update divides by is something. -/
def Divides (state : State) : Prop :=
  ∑ next, transitionRow xiSum config state next ≠ 0 ∧
    stateOccupancy gamma state + 8 * config.categoryAlpha ≠ 0 ∧
    config.dwellMeanPseudoCounts + stateOccupancy gamma state ≠ 0 ∧
    config.dwellVariancePseudoCounts + stateOccupancy gamma state ≠ 0

noncomputable instance (state : State) : Decidable (Divides gamma xiSum config state) :=
  inferInstanceAs (Decidable (_ ∧ _))

noncomputable def maximise : Option StickyHmm :=
  match gamma with
  -- The index of the first run panics on an empty slice.
  | [] => none
  | first :: _ =>
    if ∀ state, Divides gamma xiSum config state then
      some {
        initial := fun state => (first state + 1) / (1 + 3)
        transition := fun state next =>
          transitionRow xiSum config state next / ∑ other, transitionRow xiSum config state other
        category := fun state category =>
          (categoryCounts gamma runs state category + config.categoryAlpha) /
            (stateOccupancy gamma state + 8 * config.categoryAlpha)
        logDwellMean := dwellMean gamma runs pooled config
        logDwellVariance := fun state =>
          max ((config.dwellVariancePseudoCounts * pooled.variance +
              scatter gamma runs pooled config state) /
            (config.dwellVariancePseudoCounts + stateOccupancy gamma state))
            config.varianceFloor }
    else none

end Updates

section Restarts

/-- `expect` of the source.  Without a positive variance the emissions are no numbers, and neither
is the first normaliser. -/
noncomputable def expectRuns (model : StickyHmm) (runs : List Run) : Option Expectation :=
  if ∀ state, 0 < model.logDwellVariance state then expect model model.logEmission runs else none

/-- Where a restart stands.  Its first score is negative infinity. -/
structure Climb where
  model : StickyHmm
  previous : Option ℝ
  iterations : Nat
  converged : Bool
  /-- The model that was evaluated last, which the code does not keep. -/
  evaluated : Option StickyHmm

variable (runs : List Run) (pooled : PooledMoments) (config : HmmConfig)

noncomputable def settles (previous : Option ℝ) (logLikelihood : ℝ) : Bool :=
  match previous with
  | none => false
  | some previous =>
    decide (|logLikelihood - previous| ≤ config.tolerance * (1 + |logLikelihood|))

noncomputable def climb : Nat → Climb → Option Climb
  | 0, state => some state
  | left + 1, state =>
    let iterations := state.iterations + 1
    match expectRuns state.model runs with
    | none => some { state with iterations := iterations }
    | some expectation => do
        let model ← maximise expectation.gamma expectation.xiSum runs pooled config
        let converged := settles config state.previous expectation.logLikelihood
        let next : Climb := {
          model := model
          previous := some expectation.logLikelihood
          iterations := iterations
          converged := converged
          evaluated := some state.model }
        if converged then some next else climb left next

noncomputable def restart (rng : SplitMix64) : Option (Climb × SplitMix64) := do
  let (responsibilities, rng) := drawRows runs.length rng
  let model ← maximise responsibilities (fun _ _ => 0) runs pooled config
  let final ← climb runs pooled config config.maxIterations {
    model := model
    previous := none
    iterations := 0
    converged := false
    evaluated := none }
  some (final, rng)

noncomputable def climbs : Nat → SplitMix64 → Option (List Climb)
  | 0, _ => some []
  | left + 1, rng => do
      let (final, rng) ← restart runs pooled config rng
      let later ← climbs left rng
      some (final :: later)

/-- The restart with a score that is above all before, with its score. -/
noncomputable def keepBest (best : Option (Climb × ℝ)) (final : Climb) : Option (Climb × ℝ) :=
  match final.previous, best with
  | none, best => best
  | some score, none => some (final, score)
  | some score, some (kept, best) =>
    if best < score then some (final, score) else some (kept, best)

end Restarts

def StickyHmm.permute (model : StickyHmm) (order : State → State) : StickyHmm where
  initial target := model.initial (order target)
  transition target inner := model.transition (order target) (order inner)
  category target := model.category (order target)
  logDwellMean target := model.logDwellMean (order target)
  logDwellVariance target := model.logDwellVariance (order target)

noncomputable def canonicalOrder (means : State → ℝ) : List State :=
  [0, 1, 2].mergeSort fun left right => decide (means right ≤ means left)

/-- `order[target]`. -/
noncomputable def canonical (means : State → ℝ) (target : State) : State :=
  (canonicalOrder means).getD target 0

noncomputable def occupancyOf (runs : Nat) (states : List State) (state : State) : ℝ :=
  states.count state / runs

noncomputable def fitRuns (runs : List Run) (config : HmmConfig) :
    Option (Except HmmAbstention HmmFit) := do
  let pooled := PooledMoments.of runs config
  let finals ← climbs runs pooled config (max config.restarts 1) ⟨config.seed⟩
  match finals.foldl keepBest none with
  | none => some (.error .degenerateLikelihood)
  | some (best, logLikelihood) => do
      let model := best.model.permute (canonical best.model.logDwellMean)
      -- The search for the path needs the logarithms of the emissions.
      guard (∀ state, 0 < model.logDwellVariance state)
      let states := viterbi model model.logEmission runs
      some (.ok {
        model := model
        logLikelihood := logLikelihood
        iterations := best.iterations
        restarts := max config.restarts 1
        converged := best.converged
        states := states
        occupancy := occupancyOf runs.length states
        runs := runs.length })

def inputRuns (categories : List Nat) (logDwell : List (Option ℝ)) : List Run :=
  List.zipWith (fun category value => ⟨Fin.ofNat 8 category, value.getD 0⟩) categories logDwell

/-- `fit`.  A dwell value that is not finite is none. -/
noncomputable def fit (categories : List Nat) (logDwell : List (Option ℝ)) (config : HmmConfig) :
    Option (Except HmmAbstention HmmFit) :=
  if categories.length ≠ logDwell.length then
    some (.error (.mismatchedInputs categories.length logDwell.length))
  else if categories.length < config.minRuns then
    some (.error (.insufficientRuns categories.length config.minRuns))
  else
    match categories.find? fun index => decide (8 ≤ index) with
    | some bad => some (.error (.unknownCategory bad))
    | none =>
      if logDwell.any Option.isNone then some (.error .nonFiniteDwell)
      else fitRuns (inputRuns categories logDwell) config

/-- The log-likelihood of the runs under the model, which some models do not have. -/
noncomputable def logLikelihoodOf (model : StickyHmm) (runs : List Run) : WithBot ℝ :=
  if (∀ state, 0 < model.logDwellVariance state) ∧
      0 < totalWeight model model.logEmission runs then
    ((Real.log (totalWeight model model.logEmission runs) : ℝ) : WithBot ℝ)
  else ⊥

/-- The states have other numbers, by descending mean, and nothing else has changed. -/
structure Relabels (runs : List Run) (before after : StickyHmm) (order : State → State) : Prop where
  model : after = before.permute order
  bijective : Function.Bijective order
  descending : ∀ earlier later, earlier ≤ later →
    after.logDwellMean later ≤ after.logDwellMean earlier
  logLikelihood : logLikelihoodOf after runs = logLikelihoodOf before runs
  optimal : ∀ path, IsOptimal after after.logEmission runs path ↔
    IsOptimal before before.logEmission runs (path.map order)

/-- The path is that of the model, and the occupancy that of the path. -/
structure HmmFit.HasOwnStates (result : HmmFit) (runs : List Run) : Prop where
  states : result.states = viterbi result.model result.model.logEmission runs
  occupancy : ∀ state, result.occupancy state = result.states.count state / runs.length
  total : ∑ state, result.occupancy state = 1

/-- The fit reports the log-likelihood of its own model, which is the best that a restart came to,
and this model's states. -/
structure HmmFit.ReportsItself (result : HmmFit) (runs : List Run) (finals : List Climb)
    (kept : Climb) : Prop where
  logLikelihood : logLikelihoodOf result.model runs = (result.logLikelihood : ℝ)
  best : ∀ other ∈ finals, logLikelihoodOf other.model runs ≤ (result.logLikelihood : ℝ)
  relabels : ∃ order, Relabels runs kept.model result.model order
  own : result.HasOwnStates runs

/-- The restart that a fit keeps has the best score, which is the log-likelihood under the model
that it has evaluated last, and its model is the update of that one. -/
structure IsKept (runs : List Run) (config : HmmConfig) (finals : List Climb) (kept : Climb)
    (score : ℝ) (evaluated : StickyHmm) : Prop where
  restarted : climbs runs (PooledMoments.of runs config) config (max config.restarts 1)
    ⟨config.seed⟩ = some finals
  folded : finals.foldl keepBest none = some (kept, score)
  lastEvaluated : kept.evaluated = some evaluated
  score : logLikelihoodOf evaluated runs = (score : ℝ)
  updated : ∃ expectation, expectRuns evaluated runs = some expectation ∧
    maximise expectation.gamma expectation.xiSum runs (PooledMoments.of runs config) config =
      some kept.model
  best : ∀ other ∈ finals, ∀ model, other.evaluated = some model →
    logLikelihoodOf model runs ≤ logLikelihoodOf evaluated runs

/-- An evaluation of the model, and the update after it, leave it as it is. -/
def StandsStill (runs : List Run) (config : HmmConfig) (model : StickyHmm) : Prop :=
  ∃ expectation, expectRuns model runs = some expectation ∧
    maximise expectation.gamma expectation.xiSum runs (PooledMoments.of runs config) config =
      some model

/-- The runs do not tell the states apart: all are alike, their categories are counted without
a prior, and nothing negative is added to what is counted. -/
structure RunsAlike (runs : List Run) (config : HmmConfig) : Prop where
  alike : ∀ run ∈ runs, ∀ other ∈ runs, run = other
  categoryAlpha : config.categoryAlpha = 0
  transitionAlpha : 0 ≤ config.transitionAlpha
  stickinessKappa : 0 ≤ config.stickinessKappa
  dwellVariancePseudoCounts : 0 ≤ config.dwellVariancePseudoCounts

/-- Every restart has come to a model that stands still, or there is nothing to tell apart. -/
def LastUpdatesIdle (runs : List Run) (config : HmmConfig) (finals : List Climb) : Prop :=
  (∀ final ∈ finals, ∃ model, final.evaluated = some model ∧ StandsStill runs config model) ∨
    RunsAlike runs config

end Velvt.Hmm
