import Velvt.Instants

/-!
# Records of the work-block engine

The data of the work-block manager, under the names of `persistence/models.rs` and the shared
types.  A record that is both held in memory and stored carries the resolution of its instants: a
row of the store holds whole seconds, so what is read back is on a whole second.
-/

namespace Velvt

/-- A block or invitation identifier.  The store keeps its canonical text, and
parsing that text gives the identifier back, so the text is not modelled. -/
abbrev Uuid := BitVec 128

inductive WorkBlockPhase
  | idle
  | active
  | paused
  | completed
  | abandoned
  | expired
  deriving DecidableEq, Repr

namespace WorkBlockPhase

def isLive : WorkBlockPhase → Bool
  | active | paused => true
  | _ => false

def isTerminal : WorkBlockPhase → Bool
  | completed | abandoned | expired => true
  | _ => false

end WorkBlockPhase

inductive WorkBlockPurpose
  | deepWork
  | study
  | creativePractice
  | healthyTechUse
  | workLifeBoundary
  deriving Repr

inductive WorkBlockIntensity
  | light
  | medium
  | intense
  deriving Repr

inductive WorkBlockOrigin
  | manual
  | invitation
  deriving DecidableEq, Repr

inductive WorkBlockLifecycleEvent
  | sleep
  | wake
  | clockChanged
  | timeZoneChanged
  deriving Repr

inductive ClassificationStatus
  | classified
  | ambiguous
  | unclassified
  deriving DecidableEq, Repr

inductive ClassificationConfidence
  | high
  | medium
  | low
  | none
  deriving DecidableEq, Repr

inductive ConfidenceLevel
  | none
  | low
  | medium
  | high
  deriving Repr

inductive WorkBlockCoverage
  | insufficient
  | partialCoverage
  | good
  deriving DecidableEq, Repr

inductive WorkBlockDndOutcome
  | completedUnderDnd
  | deliverySuppressedDnd
  deriving Repr

/-- The user's reply to an offer. -/
inductive InterventionResponse
  | acceptedAction
  | notHelpful
  | wrongClassification
  | wasFocused
  | dismissed
  deriving Repr

/-- `normal` rings and renders, `quiet` only renders. -/
inductive InterventionSalience
  | normal
  | quiet
  deriving DecidableEq, Repr

/-- Outcome of an in-session drift intervention. -/
inductive WorkBlockInterventionOutcome
  | offered
  | acceptedAction
  | returned
  | notHelpful
  | wrongClassification
  | wasFocused
  | dismissed
  | deliverySuppressedDnd
  | withheldDemotion
  | noResponse
  deriving DecidableEq, Repr

namespace WorkBlockInterventionOutcome

def isTerminal : WorkBlockInterventionOutcome → Bool
  | offered => false
  | _ => true

def isNegative : WorkBlockInterventionOutcome → Bool
  | notHelpful | wrongClassification | wasFocused | dismissed => true
  | _ => false

def isDelivered : WorkBlockInterventionOutcome → Bool
  | deliverySuppressedDnd | withheldDemotion => false
  | _ => true

end WorkBlockInterventionOutcome

/-- The verdicts of the drift gate, in the order the gate evaluates them. -/
inductive GateVerdict
  | abstainedWarmup
  | abstainedRemaining
  | abstainedBlockCap
  | abstainedBackoff
  | abstainedNoAnchor
  | abstainedMinSwitches
  | abstainedAtAnchor
  | withheldDemotion
  | suppressedDnd
  | offered
  deriving Repr

inductive InterventionDemotionState
  | active
  | demoted
  deriving DecidableEq, Repr

structure StartWorkBlock where
  intention : Option String
  plannedDurationSeconds : Nat
  purpose : Option WorkBlockPurpose
  intensity : WorkBlockIntensity

structure WorkBlockRecord (resolution : Resolution) where
  blockId : Uuid
  phase : WorkBlockPhase
  intention : Option String
  purpose : Option WorkBlockPurpose
  intensity : WorkBlockIntensity
  plannedDurationSeconds : Nat
  startedAt : Int
  pausedAt : Option Int
  totalPausedSeconds : Nat
  endedAt : Option Int
  recoveredAfterRestart : Bool
  recoveryOf : Option Uuid
  origin : WorkBlockOrigin
  intentionExpiresAt : Int
  updatedAt : Int

structure WorkBlockObservation (resolution : Resolution) where
  occurredAt : Int
  endedAt : Option Int
  category : String
  classificationStatus : ClassificationStatus
  classificationConfidence : ClassificationConfidence

structure WorkBlockIntervention (resolution : Resolution) where
  offeredAt : Int
  actionId : String
  anchorCategory : String
  switchCount : Nat
  windowSeconds : Nat
  outcome : WorkBlockInterventionOutcome
  outcomeAt : Option Int
  salience : InterventionSalience
  cardSeenAt : Option Int

/-- One logged decision of the drift gate.  Its random identifier never
repeats and is left out: the log is in writing order, and a decision is its
place in it. -/
structure InterventionDecision (resolution : Resolution) where
  occurredAt : Int
  blockId : Option Uuid
  policyVersion : Nat
  anchorCategory : Option String
  switchCount : Nat
  elapsedSeconds : Nat
  remainingSeconds : Nat
  gateVerdict : GateVerdict
  propensity : ℚ
  anchorSeenWithin600s : Option Bool
  outcomeAt : Option Int

structure DemotionStateRecord (resolution : Resolution) where
  state : InterventionDemotionState
  demotedAt : Option Int
  manualResetAt : Option Int
  thresholdPolicyVersion : Nat
  repromotionPolicyVersion : Nat
  updatedAt : Int

/-- One dwell reported to the raw event buffer, as the engine reads it. -/
structure ReportedDwell where
  occurredAt : Int
  durationSeconds : Nat
  category : String
  classificationStatus : ClassificationStatus
  classificationConfidence : ClassificationConfidence

def ReportedDwell.endedAt (dwell : ReportedDwell) : Int :=
  dwell.occurredAt + Duration.seconds dwell.durationSeconds

/-- The columns of `raw_event_buffer` that the work-block engine reads.  The
classification is stored as text. -/
structure RawEventRow where
  occurredAt : Int
  durationSeconds : Int
  category : String
  classificationStatus : String
  classificationConfidence : String

structure WrongInterventionCounts where
  delivered : Nat
  wasFocused : Nat

structure WorkBlockNextAction where
  actionId : String
  label : String
  durationSeconds : Nat

/-- The result of a finished block.  The coverage ratio is the exact quotient
the source rounds to a double. -/
structure WorkBlockResult where
  plannedDurationSeconds : Nat
  elapsedDurationSeconds : Nat
  longestUninterruptedSeconds : Nat
  switchAwayCount : Nat
  recoveryCount : Nat
  confidence : ConfidenceLevel
  coverage : WorkBlockCoverage
  coverageRatio : ℚ
  safeEvidenceCategory : Option String
  observation : String
  nextAction : WorkBlockNextAction
  dndOutcomes : List WorkBlockDndOutcome
  reconciliation : Option String

structure WorkBlockCompletion where
  phase : WorkBlockPhase
  endedAt : Int
  result : WorkBlockResult

structure ActiveIntervention where
  actionId : String
  title : String
  body : String
  anchorCategory : String
  switchCount : Nat
  windowSeconds : Nat
  offeredAt : Int
  salience : InterventionSalience

/-- An approved offer, as the caller of the gate receives it. -/
structure DriftIntervention where
  blockId : Uuid
  actionId : String
  title : String
  body : String
  salience : InterventionSalience

structure WorkBlockSnapshot where
  stateVersion : Nat
  phase : WorkBlockPhase
  blockId : Option Uuid
  intention : Option String
  purpose : Option WorkBlockPurpose
  intensity : Option WorkBlockIntensity
  plannedDurationSeconds : Nat
  elapsedDurationSeconds : Nat
  remainingDurationSeconds : Nat
  startedAt : Option Int
  analysisEndedAt : Option Int
  endsAt : Option Int
  pausedAt : Option Int
  recoveredAfterRestart : Bool
  currentCategory : Option String
  anchorCategory : Option String
  classificationStatus : ClassificationStatus
  confidence : ClassificationConfidence
  statusLine : String
  result : Option WorkBlockResult
  activeIntervention : Option ActiveIntervention

structure ObservationOutcome where
  snapshot : WorkBlockSnapshot
  intervention : Option DriftIntervention

structure BackoffState where
  suppressed : Bool
  salience : InterventionSalience

structure DemotionEvaluation where
  state : InterventionDemotionState
  counts : WrongInterventionCounts
  demotedAt : Option Int

/-- The inspectable demotion state of the disclosure surface. -/
structure DemotionState where
  state : InterventionDemotionState
  wrongCount : Nat
  deliveredCount : Nat
  thresholdPercent : Nat
  minimumSample : Nat
  windowDays : Nat
  thresholdPolicyVersion : Nat
  repromotionPolicyVersion : Nat
  demotedAt : Option Int
  disclosure : Option String

inductive WorkBlockError
  | persistence
  | invalidTransition
  | invalidRequest
  deriving Repr

namespace WorkBlockRecord

/-- The row `create` inserts. -/
@[simps]
def stored (record : WorkBlockRecord .nanoseconds) : WorkBlockRecord .seconds where
  blockId := record.blockId
  phase := record.phase
  intention := record.intention
  purpose := record.purpose
  intensity := record.intensity
  plannedDurationSeconds := record.plannedDurationSeconds
  startedAt := timestamp record.startedAt
  pausedAt := record.pausedAt.map timestamp
  totalPausedSeconds := record.totalPausedSeconds
  endedAt := record.endedAt.map timestamp
  recoveredAfterRestart := record.recoveredAfterRestart
  recoveryOf := record.recoveryOf
  origin := record.origin
  intentionExpiresAt := timestamp record.intentionExpiresAt
  updatedAt := timestamp record.updatedAt

/-- `work_block_from_row`. -/
@[simps]
def loaded (row : WorkBlockRecord .seconds) : WorkBlockRecord .nanoseconds where
  blockId := row.blockId
  phase := row.phase
  intention := row.intention
  purpose := row.purpose
  intensity := row.intensity
  plannedDurationSeconds := row.plannedDurationSeconds
  startedAt := fromTimestamp row.startedAt
  pausedAt := row.pausedAt.map fromTimestamp
  totalPausedSeconds := row.totalPausedSeconds
  endedAt := row.endedAt.map fromTimestamp
  recoveredAfterRestart := row.recoveredAfterRestart
  recoveryOf := row.recoveryOf
  origin := row.origin
  intentionExpiresAt := fromTimestamp row.intentionExpiresAt
  updatedAt := fromTimestamp row.updatedAt

end WorkBlockRecord

namespace WorkBlockObservation

/-- The row `append_observation` inserts. -/
@[simps]
def stored (observation : WorkBlockObservation .nanoseconds) : WorkBlockObservation .seconds where
  occurredAt := timestamp observation.occurredAt
  endedAt := observation.endedAt.map timestamp
  category := observation.category
  classificationStatus := observation.classificationStatus
  classificationConfidence := observation.classificationConfidence

/-- `work_block_observation_from_row`. -/
@[simps]
def loaded (row : WorkBlockObservation .seconds) : WorkBlockObservation .nanoseconds where
  occurredAt := fromTimestamp row.occurredAt
  endedAt := row.endedAt.map fromTimestamp
  category := row.category
  classificationStatus := row.classificationStatus
  classificationConfidence := row.classificationConfidence

end WorkBlockObservation

namespace WorkBlockIntervention

/-- The row `record_intervention` inserts; the sighting column is not among
the inserted ones and starts out empty. -/
@[simps]
def stored (intervention : WorkBlockIntervention .nanoseconds) :
    WorkBlockIntervention .seconds where
  offeredAt := timestamp intervention.offeredAt
  actionId := intervention.actionId
  anchorCategory := intervention.anchorCategory
  switchCount := intervention.switchCount
  windowSeconds := intervention.windowSeconds
  outcome := intervention.outcome
  outcomeAt := intervention.outcomeAt.map timestamp
  salience := intervention.salience
  cardSeenAt := none

@[simps]
def loaded (row : WorkBlockIntervention .seconds) : WorkBlockIntervention .nanoseconds where
  offeredAt := fromTimestamp row.offeredAt
  actionId := row.actionId
  anchorCategory := row.anchorCategory
  switchCount := row.switchCount
  windowSeconds := row.windowSeconds
  outcome := row.outcome
  outcomeAt := row.outcomeAt.map fromTimestamp
  salience := row.salience
  cardSeenAt := row.cardSeenAt.map fromTimestamp

end WorkBlockIntervention

/-- The row `record_decision` inserts. -/
@[simps]
def InterventionDecision.stored (decision : InterventionDecision .nanoseconds) :
    InterventionDecision .seconds where
  occurredAt := timestamp decision.occurredAt
  blockId := decision.blockId
  policyVersion := decision.policyVersion
  anchorCategory := decision.anchorCategory
  switchCount := decision.switchCount
  elapsedSeconds := decision.elapsedSeconds
  remainingSeconds := decision.remainingSeconds
  gateVerdict := decision.gateVerdict
  propensity := decision.propensity
  anchorSeenWithin600s := decision.anchorSeenWithin600s
  outcomeAt := decision.outcomeAt.map timestamp

namespace DemotionStateRecord

/-- The row `set_demotion_state` writes. -/
def stored (record : DemotionStateRecord .nanoseconds) : DemotionStateRecord .seconds where
  state := record.state
  demotedAt := record.demotedAt.map timestamp
  manualResetAt := record.manualResetAt.map timestamp
  thresholdPolicyVersion := record.thresholdPolicyVersion
  repromotionPolicyVersion := record.repromotionPolicyVersion
  updatedAt := timestamp record.updatedAt

def loaded (row : DemotionStateRecord .seconds) : DemotionStateRecord .nanoseconds where
  state := row.state
  demotedAt := row.demotedAt.map fromTimestamp
  manualResetAt := row.manualResetAt.map fromTimestamp
  thresholdPolicyVersion := row.thresholdPolicyVersion
  repromotionPolicyVersion := row.repromotionPolicyVersion
  updatedAt := fromTimestamp row.updatedAt

end DemotionStateRecord

end Velvt
