import Mathlib.Analysis.SpecialFunctions.Log.Basic
import Mathlib.Analysis.SpecialFunctions.Trigonometric.Basic

/-!
# Change points

The recursion over the run length of the current segment, in log space. One observation is a closed
run: its category and its dwell. Numbers are exact reals.
-/

noncomputable section

namespace Velvt.ChangePoints

def CATEGORY_COUNT : Nat := 8

def DWELL_CLIP_SECONDS : ℝ := 1800

def DEFAULT_LAMBDA_RUNS : ℝ := 6

def DEFAULT_R_MAX : Nat := 64

def DEFAULT_DIRICHLET_ALPHA : ℝ := 0.5

def DEFAULT_RECENT_RUN_HORIZON : Nat := 3

def WARMUP_RUNS : Nat := 8

def logDwell (dwellSeconds : ℝ) : ℝ := Real.log (1 + max 0 (min dwellSeconds DWELL_CLIP_SECONDS))

/-- One closed run, with no dwell where it is not a finite number. -/
structure RunObservation where
  category : Nat
  dwellSeconds : Option ℝ

inductive BocpdError where
  | unknownCategory (index : Nat)
  | nonFiniteDwell

structure NormalGammaPrior where
  mu : ℝ := Real.log (1 + 300)
  kappa : ℝ := 1
  alpha : ℝ := 1
  beta : ℝ := 1

structure BocpdConfig where
  lambdaRuns : ℝ := DEFAULT_LAMBDA_RUNS
  rMax : Nat := DEFAULT_R_MAX
  dirichletAlpha : ℝ := DEFAULT_DIRICHLET_ALPHA
  dwellPrior : NormalGammaPrior := { }
  recentRunHorizon : Nat := DEFAULT_RECENT_RUN_HORIZON

def BocpdConfig.hazard (config : BocpdConfig) : ℝ := 1 / config.lambdaRuns

/-- The sufficient statistics of one run-length hypothesis. -/
@[ext]
structure SegmentStats where
  counts : Fin CATEGORY_COUNT → ℝ
  categoryTotal : ℝ
  dwellCount : ℝ
  dwellMean : ℝ
  dwellM2 : ℝ

namespace SegmentStats

def EMPTY : SegmentStats where
  counts _ := 0
  categoryTotal := 0
  dwellCount := 0
  dwellMean := 0
  dwellM2 := 0

def absorb (stats : SegmentStats) (category : Fin CATEGORY_COUNT) (logDwellValue : ℝ) :
    SegmentStats :=
  let dwellCount := stats.dwellCount + 1
  let delta := logDwellValue - stats.dwellMean
  let dwellMean := stats.dwellMean + delta / dwellCount
  { counts := Function.update stats.counts category (stats.counts category + 1)
    categoryTotal := stats.categoryTotal + 1
    dwellCount
    dwellMean
    dwellM2 := stats.dwellM2 + delta * (logDwellValue - dwellMean) }

end SegmentStats

/-- One step of the detector, as it is logged. -/
structure BocpdUpdate where
  index : Nat
  pRecentChange : ℝ
  mapRunLength : Nat
  expectedRunLength : ℝ
  warm : Bool

structure Bocpd where
  config : BocpdConfig
  logHazard : ℝ
  logSurvive : ℝ
  logPosterior : List ℝ
  stats : List SegmentStats
  observed : Nat

def Bocpd.new (config : BocpdConfig) : Bocpd :=
  let hazard := 1 / config.lambdaRuns
  { config
    logHazard := Real.log hazard
    logSurvive := Real.log (1 - hazard)
    logPosterior := [0]
    stats := [.EMPTY]
    observed := 0 }

def Bocpd.runLengthPosterior (detector : Bocpd) : List ℝ := detector.logPosterior.map Real.exp

def LANCZOS : List ℝ :=
  [0.9999999999998099, 676.5203681218851, -1259.1392167224028, 771.3234287776531,
    -176.6150291621406, 12.507343278686905, -0.1385710952657201, 9.984369578019572e-6,
    1.5056327351493115e-7]

def lnGammaFrom (x : ℝ) : ℝ :=
  let x := x - 1
  let series := (LANCZOS.zipIdx.drop 1).foldl
    (fun series entry => series + entry.1 / (x + entry.2)) (LANCZOS.headD 0)
  let t := x + 7.5
  0.5 * Real.log (2 * Real.pi) + (x + 0.5) * Real.log t - t + Real.log series

def lnGamma (x : ℝ) : ℝ :=
  if x < 0.5 then
    Real.log |Real.pi / Real.sin (Real.pi * x)| - lnGammaFrom (1 - x)
  else lnGammaFrom x

/-- The logarithm of the probability of an observation under the statistics of a segment. -/
def logPosteriorPredictive (config : BocpdConfig) (stats : SegmentStats)
    (category : Fin CATEGORY_COUNT) (d : ℝ) : ℝ :=
  let alpha := config.dirichletAlpha
  let categorical :=
    Real.log ((stats.counts category + alpha) / (stats.categoryTotal + CATEGORY_COUNT * alpha))
  let prior := config.dwellPrior
  let n := stats.dwellCount
  let kappaN := prior.kappa + n
  let muN := (prior.kappa * prior.mu + n * stats.dwellMean) / kappaN
  let alphaN := prior.alpha + 0.5 * n
  let meanGap := stats.dwellMean - prior.mu
  let betaN := prior.beta + 0.5 * stats.dwellM2 +
    (prior.kappa * n * meanGap * meanGap) / (2 * kappaN)
  let nu := 2 * alphaN
  let scaleSquared := betaN * (kappaN + 1) / (alphaN * kappaN)
  let z := d - muN
  let studentT := lnGamma (0.5 * (nu + 1)) - lnGamma (0.5 * nu) -
    0.5 * Real.log (nu * Real.pi * scaleSquared) -
      0.5 * (nu + 1) * Real.log (1 + z * z / (nu * scaleSquared))
  categorical + studentT

/-- The logarithm of a sum of exponentials, of at least one value. -/
def logSumExp : List ℝ → ℝ
  | [] => 0
  | first :: later =>
    let max := later.foldl max first
    let sum := ((first :: later).map fun value => Real.exp (value - max)).sum
    max + Real.log sum

/-- The recent mass, the best run length with its log mass, and the expected run length. -/
def summariseEntry (horizon : Nat) (summary : ℝ × (Nat × Option ℝ) × ℝ) (entry : ℝ × Nat) :
    ℝ × (Nat × Option ℝ) × ℝ :=
  let (recent, best, expected) := summary
  let (logMass, runLength) := entry
  let mass := Real.exp logMass
  (if runLength < horizon then recent + mass else recent,
    if best.2.all (· < logMass) then (runLength, some logMass) else best,
    expected + mass * runLength)

def Bocpd.summarise (detector : Bocpd) : BocpdUpdate :=
  let (recent, best, expected) := detector.logPosterior.zipIdx.foldl
    (summariseEntry detector.config.recentRunHorizon) (0, (0, none), 0)
  { index := detector.observed
    pRecentChange := max 0 (min recent 1)
    mapRunLength := best.1
    expectedRunLength := expected
    warm := WARMUP_RUNS ≤ detector.observed }

variable (predictive : BocpdConfig → SegmentStats → Fin CATEGORY_COUNT → ℝ → ℝ)

def Bocpd.advance (detector : Bocpd) (category : Fin CATEGORY_COUNT) (d : ℝ) : Bocpd :=
  let logPredictive :=
    detector.stats.map fun stats => predictive detector.config stats category d
  let joint := List.zipWith (· + ·) detector.logPosterior logPredictive
  let next := (logSumExp joint + detector.logHazard) :: joint.map (· + detector.logSurvive)
  let nextStats := .EMPTY :: detector.stats.map fun stats => stats.absorb category d
  let keep := detector.config.rMax + 1
  let next := next.take keep
  let nextStats := nextStats.take keep
  let total := logSumExp next
  { detector with
    logPosterior := next.map (· - total)
    stats := nextStats
    observed := detector.observed + 1 }

/-- What the detector answers to a closed run, and the detector after it. -/
def Bocpd.observe (detector : Bocpd) (run : RunObservation) :
    Except BocpdError BocpdUpdate × Bocpd :=
  if known : run.category < CATEGORY_COUNT then
    match run.dwellSeconds with
    | none => (.error .nonFiniteDwell, detector)
    | some dwellSeconds =>
      if dwellSeconds < 0 then (.error .nonFiniteDwell, detector)
      else
        let detector := detector.advance predictive ⟨run.category, known⟩ (logDwell dwellSeconds)
        (.ok detector.summarise, detector)
  else (.error (.unknownCategory run.category), detector)

end Velvt.ChangePoints

end
