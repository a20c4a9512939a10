import Mathlib.Analysis.SpecialFunctions.Log.Basic
import Mathlib.Analysis.SpecialFunctions.Trigonometric.Basic
import Velvt.Trellis

/-!
# The sticky hidden Markov model

The offline model of the runs, over the reals.  Forward and backward passes work with rows that are
rescaled at every time; the offsets of the emissions and the normalisers of the forward pass add up
to the likelihood.  The best path is searched with floors under the logarithms.
-/

namespace Velvt.Hmm

open Trellis

-- The literals below take these by name instead of a proof made up for each.
scoped instance atLeastTwoTwo : Nat.AtLeastTwo 2 := ⟨by decide⟩
scoped instance atLeastTwoThree : Nat.AtLeastTwo 3 := ⟨by decide⟩
scoped instance atLeastTwoFour : Nat.AtLeastTwo 4 := ⟨by decide⟩
scoped instance atLeastTwoEight : Nat.AtLeastTwo 8 := ⟨by decide⟩
scoped instance neZeroThree : NeZero 3 := ⟨by decide⟩
scoped instance neZeroEight : NeZero 8 := ⟨by decide⟩

section Model

/-- One of `STATE_COUNT` states. -/
abbrev State := Fin 3

/-- One of `CATEGORY_COUNT` categories. -/
abbrev Category := Fin 8

noncomputable def minPositive : ℝ := (1 / 2) ^ 1022

structure StickyHmm where
  initial : State → ℝ
  transition : State → State → ℝ
  category : State → Category → ℝ
  logDwellMean : State → ℝ
  logDwellVariance : State → ℝ

/-- The category and the `d_t` of a run. -/
structure Run where
  category : Category
  logDwell : ℝ

noncomputable def StickyHmm.logEmission (model : StickyHmm) (state : State) (run : Run) : ℝ :=
  let variance := model.logDwellVariance state
  let z := run.logDwell - model.logDwellMean state
  let normal := -0.5 * Real.log (2 * Real.pi * variance) - z * z / (2 * variance)
  Real.log (max (model.category state run.category) minPositive) + normal

/-- What the forward pass keeps of a time. -/
structure ForwardStep where
  emission : State → ℝ
  alpha : State → ℝ
  scale : ℝ

structure Expectation where
  gamma : List (State → ℝ)
  xiSum : State → State → ℝ
  logLikelihood : ℝ

variable (model : StickyHmm)

def StickyHmm.carry (alpha : State → ℝ) (state : State) : ℝ :=
  ∑ previous, alpha previous * model.transition previous state

noncomputable def forward : (State → ℝ) → List (State → ℝ) → Option (List ForwardStep)
  | _, [] => some []
  | arriving, emission :: later =>
    let scale := ∑ state, arriving state * emission state
    if scale ≤ 0 then none
    else
      let alpha := fun state => arriving state * emission state / scale
      (forward (model.carry alpha) later).map fun steps => { emission, alpha, scale } :: steps

/-- `beta` of a time, and of those after it, from the steps after it. -/
noncomputable def backward : List ForwardStep → (State → ℝ) × List (State → ℝ)
  | [] => (fun _ => 1, [])
  | next :: later =>
    let (beta, betas) := backward later
    (fun state => (∑ following, model.transition state following * next.emission following *
      beta following) / next.scale, beta :: betas)

/-- `beta` of every time. -/
noncomputable def betas : List ForwardStep → List (State → ℝ)
  | [] => []
  | _ :: later => (backward model later).1 :: (backward model later).2

noncomputable def normalise (weights : State → ℝ) : Option (State → ℝ) :=
  let total := ∑ state, weights state
  if total ≤ 0 then none else some fun state => weights state / total

/-- `alpha` times `beta`. -/
noncomputable def products (steps : List ForwardStep) : List (State → ℝ) :=
  List.zipWith (fun step beta state => step.alpha state * beta state) steps (betas model steps)

noncomputable def xiSum (steps : List ForwardStep) (state next : State) : ℝ :=
  (List.zipWith (fun step (later : ForwardStep × (State → ℝ)) =>
      step.alpha state * model.transition state next * later.1.emission next * later.2 next /
        later.1.scale)
    steps (steps.tail.zip (betas model steps).tail)).sum

/-- `expect` from the logarithms of the emissions, with these offsets. -/
noncomputable def expectScaled (offsets : List ℝ) (logs : List (State → ℝ)) :
    Option Expectation := do
  let emission := List.zipWith (fun offset values state => Real.exp (values state - offset))
    offsets logs
  -- The index of the first run panics on an empty slice.
  guard (emission ≠ [])
  let steps ← forward model model.initial emission
  let gamma ← (products model steps).mapM normalise
  some {
    gamma := gamma
    xiSum := xiSum model steps
    logLikelihood :=
      (List.zipWith (fun step offset => Real.log step.scale + offset) steps offsets).sum }

noncomputable def peak (values : State → ℝ) : ℝ :=
  max (max (values 0) (values 1)) (values 2)

/-- `expect`, for any emissions in the place of `log_emission`. -/
noncomputable def expect {Observation : Type*} (logEmission : State → Observation → ℝ)
    (runs : List Observation) : Option Expectation :=
  let logs := runs.map fun run state => logEmission state run
  expectScaled model (logs.map peak) logs

/-- The first state with the largest value.  The source compares with negative infinity first,
which every value is above. -/
noncomputable def argmax (values : State → ℝ) : State :=
  [1, 2].foldl (fun best state => if values best < values state then state else best) 0

/-- The first state of the path and the others, from the scores with which the states are come
to. -/
noncomputable def viterbiFrom (logTransition : State → State → ℝ) :
    (State → ℝ) → (State → ℝ) → List (State → ℝ) → State × List State
  | arriving, row, [] => (argmax fun state => arriving state + row state, [])
  | arriving, row, next :: later =>
    let score := fun state => arriving state + row state
    let pointers := fun state =>
      argmax fun previous => score previous + logTransition previous state
    let best := fun state => score (pointers state) + logTransition (pointers state) state
    let (state, path) := viterbiFrom logTransition best next later
    (pointers state, state :: path)

/-- `viterbi`, for any emissions in the place of `log_emission`. -/
noncomputable def viterbi {Observation : Type*} (logEmission : State → Observation → ℝ) :
    List Observation → List State
  | [] => []
  | first :: later =>
    let (state, path) := viterbiFrom
      (fun previous state => Real.log (max (model.transition previous state) minPositive))
      (fun state => Real.log (max (model.initial state) minPositive))
      (fun state => logEmission state first)
      (later.map fun run state => logEmission state run)
    state :: path

end Model

section Meaning

variable {Observation : Type*} (model : StickyHmm) (logEmission : State → Observation → ℝ)
  (runs : List Observation)

noncomputable def emissions : List (State → ℝ) :=
  runs.map fun run state => Real.exp (logEmission state run)

noncomputable def jointWeight (path : List State) : ℝ :=
  joint model.transition model.initial (emissions logEmission runs) path

noncomputable def totalWeight : ℝ :=
  ∑ path ∈ paths runs.length, jointWeight model logEmission runs path

/-- The expectation is that of the path, drawn with its share of the weight. -/
structure Expectation.IsExact (expectation : Expectation) : Prop where
  logLikelihood : expectation.logLikelihood = Real.log (totalWeight model logEmission runs)
  gamma_length : expectation.gamma.length = runs.length
  gamma : ∀ (time : Nat) (row : State → ℝ), expectation.gamma[time]? = some row → ∀ state,
    row state = (∑ path ∈ (paths runs.length).filter fun path => path[time]? = some state,
      jointWeight model logEmission runs path) / totalWeight model logEmission runs
  xiSum : ∀ state next, expectation.xiSum state next =
    (∑ path ∈ paths runs.length, jointWeight model logEmission runs path *
      steps state next path) / totalWeight model logEmission runs

structure StickyHmm.HasPositiveRows : Prop where
  initial : ∀ state, 0 < model.initial state
  transition : ∀ state next, 0 < model.transition state next

noncomputable def StickyHmm.floored : StickyHmm :=
  { model with
    initial := fun state => max (model.initial state) minPositive
    transition := fun state next => max (model.transition state next) minPositive }

/-- No path of the length has a larger joint weight. -/
def IsOptimal (path : List State) : Prop :=
  path.length = runs.length ∧ ∀ other, other.length = runs.length →
    jointWeight model logEmission runs other ≤ jointWeight model logEmission runs path

end Meaning

end Velvt.Hmm
