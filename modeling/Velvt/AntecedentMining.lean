import Mathlib.Algebra.Order.Floor.Div
import Mathlib.Data.Rat.Floor
import Velvt.CandidateRegistry

/-!
# Antecedent mining

The risk difference of every registered antecedent, with a permutation null, a correction over the
whole family, a support floor and a replication on held-out days. Numbers are exact rationals, and
the functions that rationals are not closed under are parameters.
-/

namespace Velvt.Antecedents

/-- The analytic functions of the numbers in use. -/
structure Floats where
  sqrt : ℚ → ℚ
  exp : ℚ → ℚ
  ln : ℚ → ℚ
  SQRT_2 : ℚ

def MIN_SUPPORT_PER_ARM : Nat := 12

def FDR_Q : ℚ := 0.10

def REQUESTED_PERMUTATIONS : Nat := 2000

def PERMUTATION_SCREEN_ALPHA : ℚ := 0.05

def CONFIRMATION_ALPHA : ℚ := 0.05

def CREDIBLE_MASS : ℚ := 0.90

def CREDIBLE_INTERVAL_DRAWS : Nat := 20000

def PRE_DECLARED_EPISODE_COUNT : Nat := 120

def MIN_DAYS_FOR_PERMUTATION : Nat := 10

def DISCOVERY_DAY_FRACTION : ℚ := 0.60

/-- One episode onset. -/
structure Episode where
  dayIndex : Int
  onsetAt : Int
  features : EpisodeFeatures
  outcome : Bool
deriving DecidableEq

structure Controls where
  permutationNull : Bool
  fdr : Bool
  minSupport : Bool
  heldOutReplication : Bool

def Controls.shipped : Controls := ⟨true, true, true, true⟩

def Controls.disabled : Controls := ⟨false, false, false, false⟩

/-- The parameters of an analysis, with the pre-registered ones as defaults. -/
structure MinerConfig where
  minSupport : Nat := MIN_SUPPORT_PER_ARM
  fdrQ : ℚ := FDR_Q
  permutations : Nat := REQUESTED_PERMUTATIONS
  permutationScreenAlpha : ℚ := PERMUTATION_SCREEN_ALPHA
  confirmationAlpha : ℚ := CONFIRMATION_ALPHA
  naiveAlpha : ℚ := 0.05
  credibleMass : ℚ := CREDIBLE_MASS
  credibleIntervalDraws : Nat := CREDIBLE_INTERVAL_DRAWS
  discoveryDayFraction : ℚ := DISCOVERY_DAY_FRACTION
  minDaysForPermutation : Nat := MIN_DAYS_FOR_PERMUTATION
  singleLookAtEpisodes : Option Nat := some PRE_DECLARED_EPISODE_COUNT
  controls : Controls := Controls.shipped
  familySize : Nat := FAMILY_SIZE
  seed : UInt64 := 0x56454C5654204131

/-- Why the analysis declined to produce a result. -/
inductive Abstention where
  | awaitingPreDeclaredN (episodes required : Nat)
  | insufficientEpisodes (episodes required : Nat)
  | insufficientDays (days required : Nat)
  | noHeldOutWindow (days : Nat)

structure Arm where
  episodes : Nat
  events : Nat

def Arm.risk (arm : Arm) : ℚ := arm.events / arm.episodes

/-- An interval, with no bounds where nothing was drawn. -/
structure CredibleInterval where
  lower : Option ℚ
  upper : Option ℚ
  mass : ℚ
  draws : Nat

def CredibleInterval.excludesZero (interval : CredibleInterval) : Bool :=
  match interval.lower, interval.upper with
  | some lower, some upper => (0 < lower && 0 < upper) || (lower < 0 && upper < 0)
  | _, _ => false

/-- Everything computed for one antecedent in one window. -/
structure CandidateResult where
  candidate : Candidate
  candidateId : String
  present : Arm
  absent : Arm
  unobserved : Nat
  riskDifference : ℚ
  credibleInterval : Option CredibleInterval
  permutationP : Option ℚ
  calibratedP : ℚ
  qValue : ℚ
  passedSupport : Bool
  passedPermutation : Bool
  passedFdr : Bool

def CandidateResult.isDiscovery (result : CandidateResult) : Bool :=
  result.passedSupport && result.passedPermutation && result.passedFdr

structure MiningReport where
  registryVersion : Nat
  familySize : Nat
  outcomeId : String
  horizonSeconds : Int
  episodes : Nat
  days : Nat
  firstDay : Int
  lastDay : Int
  distinctShiftsAvailable : Nat
  permutationsUsed : Nat
  permutationPFloor : ℚ
  bhThresholdForRankOne : ℚ
  candidatesTested : Nat
  results : List CandidateResult

/-- Why a discovery did not replicate. -/
inductive ConfirmationFailure where
  | supportLost (present absent : Nat)
  | noPermutationNull (days : Nat)
  | notSignificantOnHeldOut
  | signFlipped
  | intervalIncludesZero

structure Finding where
  candidate : Candidate
  candidateId : String
  registryVersion : Nat
  familySize : Nat
  discovery : CandidateResult
  confirmation : Option CandidateResult
  confirmed : Bool
  confirmationFailure : Option ConfirmationFailure

structure Analysis where
  registryVersion : Nat
  familySize : Nat
  episodes : Nat
  days : Nat
  discoveryDays : Int × Int
  confirmationDays : Option (Int × Int)
  abstention : Option Abstention
  discovery : Option MiningReport
  findings : List Finding
  controls : Controls

section Sampling

/-- The state of xoshiro256**. -/
structure Rng where
  first : UInt64
  second : UInt64
  third : UInt64
  fourth : UInt64

namespace Rng

def rotateLeft (word : UInt64) (bits : UInt64) : UInt64 :=
  word <<< bits ||| word >>> (64 - bits)

def splitmix (z : UInt64) : UInt64 :=
  let value := (z ^^^ z >>> 30) * 0xBF58476D1CE4E5B9
  let value := (value ^^^ value >>> 27) * 0x94D049BB133111EB
  value ^^^ value >>> 31

def new (seed : UInt64) : Rng where
  first := splitmix (seed + 0x9E3779B97F4A7C15)
  second := splitmix (seed + 2 * 0x9E3779B97F4A7C15)
  third := splitmix (seed + 3 * 0x9E3779B97F4A7C15)
  fourth := splitmix (seed + 4 * 0x9E3779B97F4A7C15)

def nextU64 (rng : Rng) : UInt64 × Rng :=
  let result := rotateLeft (rng.second * 5) 7 * 9
  let t := rng.second <<< 17
  let third := rng.third ^^^ rng.first
  let fourth := rng.fourth ^^^ rng.second
  let second := rng.second ^^^ third
  let first := rng.first ^^^ fourth
  (result, ⟨first, second, third ^^^ t, rotateLeft fourth 45⟩)

def uniform (rng : Rng) : ℚ × Rng :=
  let (word, rng) := rng.nextU64
  let bits := word >>> 11
  ((bits.toNat + 1 / 2) * (1 / 9007199254740992), rng)

variable (floats : Floats)

def normal : Nat → Rng → Option (ℚ × Rng)
  | 0, _ => none
  | attempts + 1, rng =>
    let (first, rng) := rng.uniform
    let u := 2 * first - 1
    let (second, rng) := rng.uniform
    let v := 2 * second - 1
    let s := u * u + v * v
    if 0 < s ∧ s < 1 then some (u * floats.sqrt (-2 * floats.ln s / s), rng)
    else normal attempts rng

def gammaFrom (d c : ℚ) : Nat → Rng → Option (ℚ × Rng)
  | 0, _ => none
  | attempts + 1, rng => do
      let (x, rng) ← normal floats (attempts + 1) rng
      let v := (1 + c * x) ^ 3
      if v ≤ 0 then
        gammaFrom d c attempts rng
      else
        let (u, rng) := rng.uniform
        if u < 1 - 0.0331 * x * x * x * x then some (d * v, rng)
        else if floats.ln u < 0.5 * x * x + d * (1 - v + floats.ln v) then some (d * v, rng)
        else gammaFrom d c attempts rng

def gamma (attempts : Nat) (shape : ℚ) (rng : Rng) : Option (ℚ × Rng) :=
  let d := shape - 1 / 3
  let c := 1 / floats.sqrt (9 * d)
  gammaFrom floats d c attempts rng

def beta (attempts : Nat) (alpha beta : ℚ) (rng : Rng) : Option (ℚ × Rng) := do
  let (x, rng) ← gamma floats attempts alpha rng
  let (y, rng) ← gamma floats attempts beta rng
  return (x / (x + y), rng)

end Rng

variable (floats : Floats) (attempts : Nat)

def drawDifferences (a1 b1 a0 b0 : ℚ) : Nat → Rng → Option (List ℚ × Rng)
  | 0, rng => some ([], rng)
  | draws + 1, rng => do
      let (first, rng) ← rng.beta floats attempts a1 b1
      let (second, rng) ← rng.beta floats attempts a0 b0
      let (later, rng) ← drawDifferences a1 b1 a0 b0 draws rng
      return ((first - second) :: later, rng)

def quantile (sorted : List ℚ) (probability : ℚ) : Option ℚ :=
  if sorted = [] then none
  else
    let position := probability * ((sorted.length : ℚ) - 1)
    let low := ⌊position⌋.toNat
    let high := ⌈position⌉.toNat
    if low = high then sorted[low]?
    else
      let weight := position - low
      return (← sorted[low]?) * (1 - weight) + (← sorted[high]?) * weight

/-- The interval on the risk difference from draws of both posteriors. -/
def credibleInterval (present absent : Arm) (mass : ℚ) (draws : Nat) (rng : Rng) :
    Option (CredibleInterval × Rng) := do
  let a1 : ℚ := 1 + present.events
  let b1 : ℚ := 1 + (present.episodes - present.events : Nat)
  let a0 : ℚ := 1 + absent.events
  let b0 : ℚ := 1 + (absent.episodes - absent.events : Nat)
  let (differences, rng) ← drawDifferences floats attempts a1 b1 a0 b0 draws rng
  let differences := differences.insertionSort (· ≤ ·)
  let tail := (1 - mass) / 2
  return (⟨quantile differences tail, quantile differences (1 - tail), mass, draws⟩, rng)

end Sampling

section Tails

variable (floats : Floats)

def erfc (x : ℚ) : ℚ :=
  let z := |x|
  let t := 1 / (1 + 0.5 * z)
  let poly := -z * z - 1.26551223 + t * (1.00002368 + t * (0.37409196 + t * (0.09678418 +
    t * (-0.18628806 + t * (0.27886807 + t * (-1.13520398 + t * (1.48851587 +
      t * (-0.82215223 + t * 0.17087277))))))))
  let value := t * floats.exp poly
  if 0 ≤ x then value else 2 - value

def twoSidedNormalP (z : ℚ) : ℚ := max 0 (min (erfc floats (|z| / floats.SQRT_2)) 1)

/-- The rank of what was observed among the null, and its tail at the scale of the null. -/
def permutationPValues (observed : ℚ) (null : List ℚ) : ℚ × ℚ :=
  if null = [] then (1, 1)
  else
    let m : ℚ := null.length
    let mean := null.sum / m
    let deviation := |observed - mean|
    let atLeastAsExtreme :=
      null.countP fun value => decide (deviation - 1 / 10 ^ 12 ≤ |value - mean|)
    let rankP := (1 + (atLeastAsExtreme : ℚ)) / (1 + m)
    if null.length < 3 then (rankP, rankP)
    else
      let variance := (null.map fun value => (value - mean) * (value - mean)).sum / (m - 1)
      let sd := floats.sqrt variance
      if sd ≤ 0 then (rankP, 1) else (rankP, twoSidedNormalP floats (deviation / sd))

def naiveTwoProportionP (present absent : Arm) : ℚ :=
  if present.episodes = 0 ∨ absent.episodes = 0 then 1
  else
    let n1 : ℚ := present.episodes
    let n0 : ℚ := absent.episodes
    let pooled := ((present.events + absent.events : Nat) : ℚ) / (n1 + n0)
    let variance := pooled * (1 - pooled) * (1 / n1 + 1 / n0)
    if variance ≤ 0 then 1
    else twoSidedNormalP floats (|present.risk - absent.risk| / floats.sqrt variance)

end Tails

/-- The day of an episode and its onset, in this order. -/
def Before (first second : Episode) : Prop :=
  first.dayIndex < second.dayIndex ∨
    first.dayIndex = second.dayIndex ∧ first.onsetAt ≤ second.onsetAt
  deriving Decidable

def inOrder (episodes : List Episode) : List Episode := episodes.insertionSort Before

def distinctDaysFrom (current : Option Int) : List Episode → List Int
  | [] => []
  | episode :: later =>
    if current = some episode.dayIndex then distinctDaysFrom current later
    else episode.dayIndex :: distinctDaysFrom (some episode.dayIndex) later

def distinctDays (ordered : List Episode) : List Int := distinctDaysFrom none ordered

def dayStartsFrom (current : Option Int) (index : Nat) : List Episode → List Nat
  | [] => []
  | episode :: later =>
    if current = some episode.dayIndex then dayStartsFrom current (index + 1) later
    else index :: dayStartsFrom (some episode.dayIndex) (index + 1) later

def dayStartIndices (ordered : List Episode) : List Nat := dayStartsFrom none 0 ordered

def swap (entries : List Nat) (left right : Nat) : List Nat :=
  match entries[left]?, entries[right]? with
  | some first, some second => (entries.set left second).set right first
  | _, _ => entries

def pickShift (chosen : List Nat × Rng) (index : Nat) : List Nat × Rng :=
  let (available, rng) := chosen
  let (word, rng) := rng.nextU64
  let pick := index + word.toNat % (available.length - index)
  (swap available index pick, rng)

/-- The shifts by whole days other than the identity, or a sample of them. -/
def chooseShifts (dayStarts : List Nat) (requested : Nat) (rng : Rng) : List Nat × Rng :=
  let available := dayStarts.drop 1
  if available.length ≤ requested then (available, rng)
  else
    let (available, rng) := (List.range requested).foldl pickShift (available, rng)
    ((available.take requested).insertionSort (· ≤ ·), rng)

section Estimates

def armIndices (candidate : Candidate) (ordered : List Episode) (want : Presence) : List Nat :=
  (ordered.zipIdx.filter fun entry => candidate.presence entry.1.features = want).map
    fun entry => entry.2 % 2 ^ 32

/-- How many of some indices have an event, with the outcomes moved. -/
def shiftedEvents (indices : List Nat) (outcomes : List Bool) (shift : Nat) : Nat :=
  indices.countP fun index => outcomes.getD ((index + shift) % outcomes.length) false

def shiftedRiskDifference (present absent : List Nat) (outcomes : List Bool) (shift : Nat) : ℚ :=
  (shiftedEvents present outcomes shift : ℚ) / present.length -
    (shiftedEvents absent outcomes shift : ℚ) / absent.length

def Arm.count (arm : Arm) (outcome : Bool) : Arm :=
  ⟨arm.episodes + 1, arm.events + outcome.toNat⟩

def countEpisode (candidate : Candidate) (counts : Arm × Arm × Nat) (episode : Episode) :
    Arm × Arm × Nat :=
  let (present, absent, unobserved) := counts
  match candidate.presence episode.features with
  | .present => (present.count episode.outcome, absent, unobserved)
  | .absent => (present, absent.count episode.outcome, unobserved)
  | .unobserved => (present, absent, unobserved + 1)

def estimate (candidate : Candidate) (ordered : List Episode) : CandidateResult :=
  let (present, absent, unobserved) :=
    ordered.foldl (countEpisode candidate) (⟨0, 0⟩, ⟨0, 0⟩, 0)
  { candidate
    candidateId := candidate.id
    present
    absent
    unobserved
    riskDifference :=
      if present.episodes = 0 ∨ absent.episodes = 0 then 0 else present.risk - absent.risk
    credibleInterval := none
    permutationP := none
    calibratedP := 1
    qValue := 1
    passedSupport := false
    passedPermutation := false
    passedFdr := false }

variable (floats : Floats)

def permutationTest (candidate : Candidate) (ordered : List Episode) (permutations : Nat)
    (rng : Rng) : (ℚ × ℚ) × Rng :=
  let outcomes := ordered.map Episode.outcome
  let (shifts, rng) := chooseShifts (dayStartIndices ordered) permutations rng
  let presentIndex := armIndices candidate ordered .present
  let absentIndex := armIndices candidate ordered .absent
  if presentIndex = [] ∨ absentIndex = [] then ((1, 1), rng)
  else
    let observed : ℚ :=
      (presentIndex.countP fun index => outcomes.getD index false : Nat) / presentIndex.length -
        (absentIndex.countP fun index => outcomes.getD index false : Nat) / absentIndex.length
    let null := shifts.map (shiftedRiskDifference presentIndex absentIndex outcomes)
    (permutationPValues floats observed null, rng)

end Estimates

section Correction

variable {count : Nat}

/-- The tested antecedents with their p-values, from the least on. -/
def ranked (results : Fin count → CandidateResult) (tested : List (Fin count)) :
    List (Fin count × ℚ) :=
  (tested.map fun index => (index, (results index).calibratedP)).insertionSort
    fun left right => left.2 ≤ right.2

/-- One step of the running minimum of the q-values, from the last rank down. -/
def stepQValue (family : ℚ) (entry : (Fin count × ℚ) × Nat)
    (state : ℚ × (Fin count → CandidateResult)) : ℚ × (Fin count → CandidateResult) :=
  let ((index, p), position) := entry
  let rank : ℚ := position + 1
  let value := min (family * p / rank) 1
  let running := min state.1 value
  (running, Function.update state.2 index { state.2 index with qValue := running })

/-- The largest position whose p-value is within the bound of its rank. -/
def largestPosition (fdrQ family : ℚ) (ranked : List (Fin count × ℚ)) : Option Nat :=
  ranked.zipIdx.foldl (fun largest entry =>
    let rank : ℚ := entry.2 + 1
    if entry.1.2 ≤ rank * fdrQ / family then some entry.2 else largest) none

def passFdr (results : Fin count → CandidateResult) (entry : Fin count × ℚ) :
    Fin count → CandidateResult :=
  Function.update results entry.1 { results entry.1 with passedFdr := true }

def applyFdr (results : Fin count → CandidateResult) (tested : List (Fin count))
    (config : MinerConfig) : Fin count → CandidateResult :=
  if tested = [] then results
  else
    let family : ℚ := (max config.familySize tested.length : Nat)
    let ranked := ranked results tested
    let (_, results) := ranked.zipIdx.reverse.foldl
      (fun state entry => stepQValue family entry state) (1, results)
    if config.controls.fdr then
      match largestPosition config.fdrQ family ranked with
      | none => results
      | some cut => (ranked.take (cut + 1)).foldl passFdr results
    else
      ranked.foldl (fun results entry => Function.update results entry.1
        { results entry.1 with passedFdr := decide (entry.2 ≤ config.naiveAlpha) }) results

end Correction

section Analysis

variable (floats : Floats) (attempts : Nat)

def isTestable (config : MinerConfig) (result : CandidateResult) : Bool :=
  if config.controls.minSupport then
    decide (config.minSupport ≤ result.present.episodes) &&
      decide (config.minSupport ≤ result.absent.episodes)
  else decide (0 < result.present.episodes) && decide (0 < result.absent.episodes)

def mineCandidate (ordered : List Episode) (shifts : List Nat) (config : MinerConfig)
    (candidate : Candidate) : CandidateResult :=
  let result := estimate candidate ordered
  let result := { result with passedSupport := isTestable config result }
  if !result.passedSupport then { result with calibratedP := 1 }
  else if config.controls.permutationNull then
    let presentIndex := armIndices candidate ordered .present
    let absentIndex := armIndices candidate ordered .absent
    let outcomes := ordered.map Episode.outcome
    let null := shifts.map (shiftedRiskDifference presentIndex absentIndex outcomes)
    let (rankP, calibrated) := permutationPValues floats result.riskDifference null
    { result with
      permutationP := some rankP
      calibratedP := calibrated
      passedPermutation := decide (rankP ≤ config.permutationScreenAlpha) }
  else
    { result with
      calibratedP := naiveTwoProportionP floats result.present result.absent
      permutationP := none
      passedPermutation := true }

def testedIndices (results : List CandidateResult) : List (Fin results.length) :=
  (List.finRange results.length).filter fun index => (results.get index).passedSupport

def attachIntervals (config : MinerConfig) :
    List CandidateResult → Rng → Option (List CandidateResult)
  | [], _ => some []
  | result :: later, rng =>
    if result.isDiscovery then do
      let (interval, rng) ← credibleInterval floats attempts result.present result.absent
        config.credibleMass config.credibleIntervalDraws rng
      let later ← attachIntervals config later rng
      return { result with credibleInterval := some interval } :: later
    else do
      let later ← attachIntervals config later rng
      return result :: later

def mine (episodes : List Episode) (config : MinerConfig) :
    Option (Except Abstention MiningReport) :=
  let ordered := inOrder episodes
  let minimumEpisodes := 2 * max config.minSupport 1
  if ordered.length < minimumEpisodes then
    some (.error (.insufficientEpisodes ordered.length minimumEpisodes))
  else
    let days := distinctDays ordered
    if config.controls.permutationNull ∧ days.length < config.minDaysForPermutation then
      some (.error (.insufficientDays days.length config.minDaysForPermutation))
    else
      let shifts :=
        if config.controls.permutationNull then
          (chooseShifts (dayStartIndices ordered) config.permutations (.new config.seed)).1
        else []
      let results := registry.map (mineCandidate floats ordered shifts config)
      let tested := testedIndices results
      let corrected := List.ofFn (applyFdr results.get tested config)
      let intervalRng := Rng.new (config.seed ^^^ 0xA0761D6478BD642F)
      do
        let results ← attachIntervals floats attempts config corrected intervalRng
        return .ok
          { registryVersion := CANDIDATE_REGISTRY_VERSION
            familySize := config.familySize
            outcomeId := OUTCOME_ID
            horizonSeconds := HORIZON_SECONDS
            episodes := ordered.length
            days := days.length
            firstDay := days.headD 0
            lastDay := days.getLastD 0
            distinctShiftsAvailable := days.length - 1
            permutationsUsed := shifts.length
            permutationPFloor := 1 / (shifts.length + 1)
            bhThresholdForRankOne := config.fdrQ / config.familySize
            candidatesTested := tested.length
            results }

def signum (number : ℚ) : Int := if number < 0 then -1 else 1

def confirm (heldOut : List Episode) (config : MinerConfig) (discovery : CandidateResult)
    (rng : Rng) : Option ((CandidateResult × Option ConfirmationFailure) × Rng) := do
  let result := estimate discovery.candidate heldOut
  let passedSupport := !config.controls.minSupport ||
    (decide (config.minSupport ≤ result.present.episodes) &&
      decide (config.minSupport ≤ result.absent.episodes))
  let result := { result with passedSupport, passedFdr := true }
  let heldOutDays := (distinctDays heldOut).length
  let noNull := passedSupport && config.controls.permutationNull &&
    decide (heldOutDays < config.minDaysForPermutation)
  let (result, rng) ←
    if passedSupport then do
      let (result, rng) :=
        if config.controls.permutationNull then
          if noNull then (result, rng)
          else
            let ((_, calibrated), rng) :=
              permutationTest floats discovery.candidate heldOut config.permutations rng
            ({ result with
                calibratedP := calibrated
                passedPermutation := decide (calibrated ≤ config.confirmationAlpha) }, rng)
        else
          let calibrated := naiveTwoProportionP floats result.present result.absent
          ({ result with
              calibratedP := calibrated
              passedPermutation := decide (calibrated ≤ config.confirmationAlpha) }, rng)
      let (interval, rng) ← credibleInterval floats attempts result.present result.absent
        config.credibleMass config.credibleIntervalDraws rng
      pure ({ result with credibleInterval := some interval }, rng)
    else pure (result, rng)
  let failure :=
    if !result.passedSupport then
      some (.supportLost result.present.episodes result.absent.episodes)
    else if noNull then some (.noPermutationNull heldOutDays)
    else if signum result.riskDifference ≠ signum discovery.riskDifference then some .signFlipped
    else if !result.passedPermutation then some .notSignificantOnHeldOut
    else if !(result.credibleInterval.any CredibleInterval.excludesZero) then
      some .intervalIncludesZero
    else none
  return ((result, failure), rng)

def findings (heldOut : Option (List Episode)) (config : MinerConfig) :
    List CandidateResult → Rng → Option (List Finding)
  | [], _ => some []
  | discovery :: later, rng => do
      let ((confirmation, failure), rng) ←
        match heldOut with
        | none => pure ((none, none), rng)
        | some heldOut => do
            let ((result, failure), rng) ← confirm floats attempts heldOut config discovery rng
            pure ((some result, failure), rng)
      let later ← findings heldOut config later rng
      return {
        candidate := discovery.candidate
        candidateId := discovery.candidateId
        registryVersion := CANDIDATE_REGISTRY_VERSION
        familySize := config.familySize
        discovery
        confirmation
        confirmed := failure.isNone
        confirmationFailure := failure } :: later

/-- The window that is mined, the held-out window, and the first and last day of each. -/
structure Windows where
  discovery : List Episode
  confirmation : Option (List Episode)
  discoveryDays : Int × Int
  confirmationDays : Option (Int × Int)

def cutDay (dayCount : Nat) (config : MinerConfig) : Nat :=
  min ⌊(dayCount : ℚ) * config.discoveryDayFraction⌋.toNat dayCount

def split (ordered : List Episode) (config : MinerConfig) : Option Windows :=
  let days := distinctDays ordered
  if config.controls.heldOutReplication then
    let cut := cutDay days.length config
    if cut = 0 ∨ cut = days.length then none
    else
      let boundary := days.getD cut 0
      some
        { discovery := ordered.filter fun episode => episode.dayIndex < boundary
          confirmation := some (ordered.filter fun episode => boundary ≤ episode.dayIndex)
          discoveryDays := (days.getD 0 0, days.getD (cut - 1) 0)
          confirmationDays := some (days.getD cut 0, days.getD (days.length - 1) 0) }
  else
    some
      { discovery := ordered
        confirmation := none
        discoveryDays := (days.headD 0, days.getLastD 0)
        confirmationDays := none }

/-- The earlier days are mined, and every discovery is carried to the later ones. -/
def analyse (episodes : List Episode) (config : MinerConfig) : Option Analysis :=
  let ordered := inOrder episodes
  let days := distinctDays ordered
  let base : Analysis :=
    { registryVersion := CANDIDATE_REGISTRY_VERSION
      familySize := config.familySize
      episodes := ordered.length
      days := days.length
      discoveryDays := (days.headD 0, days.getLastD 0)
      confirmationDays := none
      abstention := none
      discovery := none
      findings := []
      controls := config.controls }
  match config.singleLookAtEpisodes.filter (ordered.length < ·) with
  | some required =>
    some { base with abstention := some (.awaitingPreDeclaredN ordered.length required) }
  | none =>
    match split ordered config with
    | none => some { base with abstention := some (.noHeldOutWindow days.length) }
    | some windows =>
      let base := { base with
        discoveryDays := windows.discoveryDays
        confirmationDays := windows.confirmationDays }
      match mine floats attempts windows.discovery config with
      | none => none
      | some (.error abstention) => some { base with abstention := some abstention }
      | some (.ok report) => do
          let discoveries := report.results.filter CandidateResult.isDiscovery
          let findings ← findings floats attempts windows.confirmation config discoveries
            (.new (config.seed ^^^ 0x9E3779B97F4A7C15))
          return { base with discovery := some report, findings }

end Analysis

end Velvt.Antecedents
