import Velvt.WorkBlockOperations

/-!
# What an operation can do to a block

The operations of the manager as changes of single blocks.  What an operation reads besides the
block, the raw event buffer, the Focus/DND source and the intervention table, are its surroundings.
`Advance` lists what an operation can do to a block, `Evolution` what it can do to the table.
-/

namespace Velvt

namespace WorkBlockStore

variable (store : WorkBlockStore)

/-- The last manual reset of the demotion policy, as it is stored. -/
def manualResetAt : Option Int :=
  store.demotionRow.bind (·.manualResetAt)

def demotionVerdict (now : Int) : InterventionDemotionState :=
  demotionStateOf
    (wrongInterventionCounts store.interventionRows
      (demotionSince (store.manualResetAt.map fromTimestamp) now))

def backoff (now : Int) : BackoffState :=
  backoffOf (recentInterventions store.interventionRows backoffHistoryLimit) now

end WorkBlockStore

/-- What an operation reads besides the block it changes. -/
structure Surroundings where
  reportedDwells : Int → Int → List ReportedDwell
  focusActive : Int → Bool
  demotion : Int → InterventionDemotionState
  backoff : Int → BackoffState

def WorkBlockManager.surroundings (manager : WorkBlockManager) : Surroundings where
  reportedDwells := manager.store.reportedDwells
  focusActive instant :=
    match manager.focus with
    | none => false
    | some isFocusActive => isFocusActive instant
  demotion := manager.store.demotionVerdict
  backoff := manager.store.backoff

/-- What the drift gate decided, and the evidence it named. -/
structure GateReading where
  verdict : GateVerdict
  anchorCategory : Option String
  switchCount : Nat

def gateReading (surroundings : Surroundings) (block : WorkBlock)
    (record : WorkBlockRecord .nanoseconds) (now : Int) : GateReading :=
  let elapsed := elapsedSeconds record now
  if elapsed < driftMinElapsedSeconds then
    ⟨.abstainedWarmup, none, 0⟩
  else if record.plannedDurationSeconds - elapsed < driftMinRemainingSeconds then
    ⟨.abstainedRemaining, none, 0⟩
  else if block.interventionRow.isSome then
    ⟨.abstainedBlockCap, none, 0⟩
  else if (surroundings.backoff now).suppressed then
    ⟨.abstainedBackoff, none, 0⟩
  else
    match dominantCategory block.observations with
    | none => ⟨.abstainedNoAnchor, none, 0⟩
    | some anchor =>
      let scan := departureScan block.observations anchor
        (now - Duration.seconds driftWindowSeconds)
      if scan.switchCount < driftMinSwitches then
        ⟨.abstainedMinSwitches, some anchor, scan.switchCount⟩
      else if scan.previousWasAnchor = some true then
        ⟨.abstainedAtAnchor, some anchor, scan.switchCount⟩
      else if surroundings.demotion now = .demoted then
        ⟨.withheldDemotion, some anchor, scan.switchCount⟩
      else if surroundings.focusActive now then
        ⟨.suppressedDnd, some anchor, scan.switchCount⟩
      else
        ⟨.offered, some anchor, scan.switchCount⟩

namespace GateReading

variable (reading : GateReading)

def decision (record : WorkBlockRecord .nanoseconds) (now : Int) :
    InterventionDecision .nanoseconds :=
  let elapsed := elapsedSeconds record now
  { occurredAt := now
    blockId := some record.blockId
    policyVersion := driftPolicyVersion
    anchorCategory := reading.anchorCategory
    switchCount := reading.switchCount
    elapsedSeconds := elapsed
    remainingSeconds := record.plannedDurationSeconds - elapsed
    gateVerdict := reading.verdict
    propensity := driftDeterministicPropensity
    anchorSeenWithin600s := none
    outcomeAt := none }

def offer (salience : InterventionSalience) (now : Int) :
    Option (WorkBlockIntervention .nanoseconds) :=
  let row (outcome : WorkBlockInterventionOutcome) (outcomeAt : Option Int)
      (salience : InterventionSalience) : WorkBlockIntervention .nanoseconds :=
    { offeredAt := now
      actionId := driftActionId
      anchorCategory := reading.anchorCategory.getD ""
      switchCount := reading.switchCount
      windowSeconds := driftWindowSeconds
      outcome := outcome
      outcomeAt := outcomeAt
      salience := salience
      cardSeenAt := none }
  match reading.verdict with
  | .withheldDemotion => some (row .withheldDemotion (some now) .normal)
  | .suppressedDnd => some (row .deliverySuppressedDnd (some now) .normal)
  | .offered => some (row .offered none salience)
  | _ => none

end GateReading

/-- The result a block ends with, once its ledger is closed and its offer
resolved. -/
def WorkBlock.resultAt (block : WorkBlock) (surroundings : Surroundings)
    (phase : WorkBlockPhase) (endedAt : Int) : WorkBlockResult :=
  let record := block.record.loaded
  let elapsed := elapsedSeconds record endedAt
  let covered := reportedCoverageSeconds
    (surroundings.reportedDwells record.startedAt endedAt) block.observations
    record.startedAt endedAt
  let held := block.interventionRow.any fun offer =>
    offer.outcome == .deliverySuppressedDnd
  withDndEvidence (aggregateResult record phase elapsed block.observations covered)
    (phase == .completed && surroundings.focusActive endedAt) (if held then 1 else 0)

@[simp]
theorem WorkBlock.resultAt_elapsed (block : WorkBlock) (surroundings : Surroundings)
    (phase : WorkBlockPhase) (endedAt : Int) :
    (block.resultAt surroundings phase endedAt).elapsedDurationSeconds =
      elapsedSeconds block.record.loaded endedAt :=
  rfl

@[simp]
theorem WorkBlock.resultAt_planned (block : WorkBlock) (surroundings : Surroundings)
    (phase : WorkBlockPhase) (endedAt : Int) :
    (block.resultAt surroundings phase endedAt).plannedDurationSeconds =
      block.record.plannedDurationSeconds :=
  rfl

namespace BlockUpdate

def closeAtReportedEnd (surroundings : Surroundings) (boundary : Int) : BlockUpdate where
  apply block :=
    match block.latestObservation.filter (·.endedAt.isNone) with
    | none => block
    | some openRow =>
      (closeOpenObservation (reportedEnd openRow
        (surroundings.reportedDwells openRow.occurredAt boundary) boundary)).apply
        block
  keepsId block := by split <;> rfl

/-- What precedes the result: the ledger closes, and silence answers a pending
offer. -/
def settling (surroundings : Surroundings) (endedAt : Int) : BlockUpdate :=
  (closeAtReportedEnd surroundings endedAt).andThen (resolveIntervention .noResponse endedAt)

def finishing (surroundings : Surroundings) (phase : WorkBlockPhase) (endedAt : Int) :
    BlockUpdate where
  apply block :=
    let settled := (settling surroundings endedAt).apply block
    (finalize
      { phase := phase
        endedAt := endedAt
        result := settled.resultAt surroundings phase endedAt }).apply settled
  keepsId block := by
    rw [BlockUpdate.keepsId, BlockUpdate.keepsId]

def pausing (surroundings : Surroundings) (instant : Int) : BlockUpdate :=
  (closeAtReportedEnd surroundings instant).andThen (setPaused instant)

def recovering (surroundings : Surroundings) (now : Int) : BlockUpdate :=
  (closeAtReportedEnd surroundings now).andThen (markRecovered now)

def observing (observation : WorkBlockObservation .nanoseconds) : BlockUpdate :=
  (closeOpenObservation observation.occurredAt).andThen (appendObservation observation)

def returning (observation : WorkBlockObservation .nanoseconds) : BlockUpdate where
  apply block :=
    if isConfidentEvidence observation ∧
        block.interventionRow.any (fun pending =>
          eqIgnoreAsciiCase pending.anchorCategory observation.category) then
      (resolveIntervention .returned observation.occurredAt).apply block
    else
      block
  keepsId block := by split <;> rfl

/-- One evaluation of the drift gate: the decision it logs and the row it may
insert. -/
def judging (surroundings : Surroundings) (record : WorkBlockRecord .nanoseconds)
    (now : Int) : BlockUpdate where
  apply block :=
    let reading := gateReading surroundings block record now
    { block with
      decisionRows := block.decisionRows ++ [(reading.decision record now).stored]
      interventionRow := block.interventionRow.or
        ((reading.offer (surroundings.backoff now).salience now).map WorkBlockIntervention.stored) }
  keepsId _ := rfl

variable (surroundings : Surroundings) (block : WorkBlock)

@[simp]
theorem closeAtReportedEnd_record (boundary : Int) :
    ((closeAtReportedEnd surroundings boundary).apply block).record = block.record := by
  simp only [closeAtReportedEnd]
  split <;> rfl

@[simp]
theorem closeAtReportedEnd_resultRow (boundary : Int) :
    ((closeAtReportedEnd surroundings boundary).apply block).resultRow =
      block.resultRow := by
  simp only [closeAtReportedEnd]
  split <;> rfl

@[simp]
theorem closeAtReportedEnd_interventionRow (boundary : Int) :
    ((closeAtReportedEnd surroundings boundary).apply block).interventionRow =
      block.interventionRow := by
  simp only [closeAtReportedEnd]
  split <;> rfl

@[simp]
theorem closeAtReportedEnd_decisionRows (boundary : Int) :
    ((closeAtReportedEnd surroundings boundary).apply block).decisionRows =
      block.decisionRows := by
  simp only [closeAtReportedEnd]
  split <;> rfl

@[simp]
theorem settling_record (endedAt : Int) :
    ((settling surroundings endedAt).apply block).record = block.record :=
  closeAtReportedEnd_record surroundings block endedAt

@[simp]
theorem settling_resultRow (endedAt : Int) :
    ((settling surroundings endedAt).apply block).resultRow = block.resultRow :=
  closeAtReportedEnd_resultRow surroundings block endedAt

@[simp]
theorem settling_interventionRow (endedAt : Int) :
    ((settling surroundings endedAt).apply block).interventionRow =
      block.interventionRow.map (resolveRow .noResponse (timestamp endedAt)) :=
  congrArg (Option.map _) (closeAtReportedEnd_interventionRow surroundings block endedAt)

@[simp]
theorem settling_decisionRows (endedAt : Int) :
    ((settling surroundings endedAt).apply block).decisionRows = block.decisionRows :=
  closeAtReportedEnd_decisionRows surroundings block endedAt

@[simp]
theorem recovering_observationRows (now : Int) :
    ((recovering surroundings now).apply block).observationRows =
      ((closeAtReportedEnd surroundings now).apply block).observationRows := by
  simp only [recovering, andThen, markRecovered]
  split <;> rfl

@[simp]
theorem pausing_observationRows (instant : Int) :
    ((pausing surroundings instant).apply block).observationRows =
      ((closeAtReportedEnd surroundings instant).apply block).observationRows := by
  simp only [pausing, andThen, setPaused]
  split <;> rfl

@[simp]
theorem returning_record (observation : WorkBlockObservation .nanoseconds) :
    ((returning observation).apply block).record = block.record := by
  simp only [returning]
  split <;> rfl

@[simp]
theorem returning_resultRow (observation : WorkBlockObservation .nanoseconds) :
    ((returning observation).apply block).resultRow = block.resultRow := by
  simp only [returning]
  split <;> rfl

@[simp]
theorem returning_observationRows (observation : WorkBlockObservation .nanoseconds) :
    ((returning observation).apply block).observationRows = block.observationRows := by
  simp only [returning]
  split <;> rfl

@[simp]
theorem returning_decisionRows (observation : WorkBlockObservation .nanoseconds) :
    ((returning observation).apply block).decisionRows = block.decisionRows := by
  simp only [returning]
  split <;> rfl

@[simp]
theorem observing_record (observation : WorkBlockObservation .nanoseconds) :
    ((observing observation).apply block).record = { block.record with
        updatedAt := max block.record.updatedAt (timestamp observation.occurredAt) } :=
  rfl

@[simp]
theorem observing_observationRows (observation : WorkBlockObservation .nanoseconds) :
    ((observing observation).apply block).observationRows =
      block.observationRows.map (closeRow (timestamp observation.occurredAt)) ++
        [observation.stored] :=
  rfl

@[simp]
theorem observing_resultRow (observation : WorkBlockObservation .nanoseconds) :
    ((observing observation).apply block).resultRow = block.resultRow :=
  rfl

@[simp]
theorem observing_interventionRow (observation : WorkBlockObservation .nanoseconds) :
    ((observing observation).apply block).interventionRow = block.interventionRow :=
  rfl

@[simp]
theorem observing_decisionRows (observation : WorkBlockObservation .nanoseconds) :
    ((observing observation).apply block).decisionRows = block.decisionRows :=
  rfl

@[simp]
theorem judging_record (record : WorkBlockRecord .nanoseconds) (now : Int) :
    ((judging surroundings record now).apply block).record = block.record :=
  rfl

@[simp]
theorem judging_observationRows (record : WorkBlockRecord .nanoseconds) (now : Int) :
    ((judging surroundings record now).apply block).observationRows =
      block.observationRows :=
  rfl

@[simp]
theorem judging_resultRow (record : WorkBlockRecord .nanoseconds) (now : Int) :
    ((judging surroundings record now).apply block).resultRow = block.resultRow :=
  rfl

variable {block}

theorem pausing_apply (instant : Int) (active : block.phase = .active) :
    (pausing surroundings instant).apply block =
      { (closeAtReportedEnd surroundings instant).apply block with
        record :=
          { block.record with
            phase := .paused
            pausedAt := some (timestamp instant)
            updatedAt := timestamp instant } } := by
  have recordActive : block.record.phase = .active := active
  simp [pausing, andThen, setPaused, recordActive]

theorem setActive_apply (instant : Int) (total : Nat) (paused : block.phase = .paused) :
    (setActive instant total).apply block = { block with
        record :=
          { block.record with
            phase := .active
            pausedAt := none
            totalPausedSeconds := total
            updatedAt := timestamp instant } } := by
  have recordPaused : block.record.phase = .paused := paused
  simp [setActive, recordPaused]

theorem markRecovered_apply (instant : Int) (live : block.phase.isLive = true) :
    (markRecovered instant).apply block = { block with
        record :=
          { block.record with
            recoveredAfterRestart := true
            updatedAt := timestamp instant } } := by
  have recordLive : block.record.phase.isLive = true := live
  simp [markRecovered, recordLive]

theorem recovering_apply (now : Int) (live : block.phase.isLive = true) :
    (recovering surroundings now).apply block =
      { (closeAtReportedEnd surroundings now).apply block with
        record :=
          { block.record with
            recoveredAfterRestart := true
            updatedAt := timestamp now } } := by
  have recordLive : block.record.phase.isLive = true := live
  simp [recovering, andThen, markRecovered, recordLive]

theorem finishing_apply (phase : WorkBlockPhase) (endedAt : Int)
    (live : block.phase.isLive = true) (noResult : block.resultRow = none) :
    (finishing surroundings phase endedAt).apply block =
      let settled := (settling surroundings endedAt).apply block
      { settled with
        record :=
          { block.record with
            phase := phase
            endedAt := some (timestamp endedAt)
            pausedAt := none
            intentionExpiresAt := min block.record.intentionExpiresAt
              (timestamp (endedAt + Duration.hours 24))
            updatedAt := timestamp endedAt }
        resultRow := some (settled.resultAt surroundings phase endedAt) } := by
  have recordLive : block.record.phase.isLive = true := live
  simp [finishing, finalize, WorkBlock.phase, noResult, recordLive]

end BlockUpdate

namespace WorkBlock

variable (block : WorkBlock)

def withIntention (intention : Option String) : WorkBlock :=
  { block with record := { block.record with intention := intention } }

/-- An instant as a running block reads it: no earlier than its last update and
no later than its deadline. -/
def clampedInstant (now : Int) : Int :=
  min (max now (fromTimestamp block.record.updatedAt)) (fromTimestamp block.record.deadline)

/-- The block runs, with time left. -/
@[mk_iff]
structure Running (now : Int) : Prop where
  active : block.phase = .active
  timeLeft : block.record.elapsedAt (timestamp now) < block.record.plannedDurationSeconds

/-- The report opens a row of its own: the latest row is not already open with
the same evidence. -/
def OpensRow (observation : WorkBlockObservation .nanoseconds) : Prop :=
  ∀ latest, block.latestObservation = some latest → latest.endedAt = none →
    sameEvidence observation.category observation.classificationStatus
      observation.classificationConfidence latest = false

/-- The report belongs to a dwell a boundary has cut: the latest row is closed,
has the same evidence, and began no earlier. -/
def ContinuesDecidedDwell (observation : WorkBlockObservation .nanoseconds)
    (occurredAt : Int) : Prop :=
  ∃ latest, block.latestObservation = some latest ∧ latest.endedAt.isSome ∧
    sameEvidence observation.category observation.classificationStatus
      observation.classificationConfidence latest = true ∧
    timestamp occurredAt ≤ timestamp latest.occurredAt

instance (observation : WorkBlockObservation .nanoseconds) (occurredAt : Int) :
    Decidable (block.ContinuesDecidedDwell observation occurredAt) :=
  inferInstanceAs (Decidable (∃ _ ∈ block.latestObservation, _ ∧ _ ∧ _))

/-- How an operation ends a live block, and when. -/
inductive Ends (op : Operation) : WorkBlockPhase → Int → Prop
  | deadline (phase : WorkBlockPhase) (active : block.phase = .active)
      (spent : block.record.plannedDurationSeconds ≤ block.record.elapsedAt (timestamp op.instant))
      (ending : phase = .completed ∨ phase = .expired) :
      Ends op phase (fromTimestamp block.record.deadline)
  | running (now : Int) (isEnd : op = .endBlock block.blockId now)
      (running : block.Running now) :
      Ends op .abandoned (max now (fromTimestamp block.record.updatedAt))
  | paused (now : Int) (isEnd : op = .endBlock block.blockId now)
      (paused : block.phase = .paused) :
      Ends op .abandoned ((block.record.pausedAt.map fromTimestamp).getD
        (max now (fromTimestamp block.record.updatedAt)))

end WorkBlock

namespace Operation

def isPause : Operation → Bool
  | pause _ _ | lifecycle .sleep _ => true
  | _ => false

def isReport : Operation → Bool
  | observeSafeCategory _ _ _ _ _ => true
  | _ => false

end Operation

def reportedObservation (block : WorkBlock) (category : String)
    (status : ClassificationStatus) (confidence : ClassificationConfidence)
    (occurredAt : Int) : WorkBlockObservation .nanoseconds where
  occurredAt := block.clampedInstant occurredAt
  endedAt := none
  category := category
  classificationStatus := status
  classificationConfidence := confidence

/-- What a running block makes of a report that opens a row of its own. -/
def BlockUpdate.reporting (surroundings : Surroundings) (category : String)
    (status : ClassificationStatus) (confidence : ClassificationConfidence)
    (occurredAt : Int) : BlockUpdate where
  apply block :=
    let observation := reportedObservation block category status confidence occurredAt
    let observed := (BlockUpdate.observing observation).apply block
    if block.ContinuesDecidedDwell observation occurredAt then
      observed
    else
      (judging surroundings block.record.loaded observation.occurredAt).apply
        ((returning observation).apply observed)
  keepsId block := by
    dsimp only
    split
    · rfl
    · rw [BlockUpdate.keepsId, BlockUpdate.keepsId, BlockUpdate.keepsId]

/-- What one operation can do to one block. -/
inductive Advance (surroundings : Surroundings) (op : Operation) (block : WorkBlock) :
    WorkBlock → Prop
  | unchanged : Advance surroundings op block block
  | cardSeen (now : Int) (isReport : op = .recordInterventionCardSeen block.blockId now) :
      Advance surroundings op block ((BlockUpdate.markInterventionCardSeen now).apply block)
  | replied (response : InterventionResponse) (now : Int)
      (isReport : op = .reportInterventionOutcome block.blockId response now) :
      Advance surroundings op block
        ((BlockUpdate.resolveIntervention (outcomeFor response) now).apply block)
  | paused (running : block.Running op.instant) (isPause : op.isPause = true) :
      Advance surroundings op block
        ((BlockUpdate.pausing surroundings (block.clampedInstant op.instant)).apply block)
  | resumed (now pausedAt : Int) (isResume : op = .resume block.blockId now)
      (paused : block.phase = .paused) (since : block.record.pausedAt = some pausedAt) :
      Advance surroundings op block
        ((BlockUpdate.setActive (max now (fromTimestamp block.record.updatedAt))
          (saturatingAdd block.record.totalPausedSeconds
            (positiveSeconds (max now (fromTimestamp block.record.updatedAt) -
              fromTimestamp pausedAt)))).apply block)
  | recovered (now : Int) (isRestart : op = .recoverAfterRestart now)
      (running : block.Running now) :
      Advance surroundings op block ((BlockUpdate.recovering surroundings now).apply block)
  | recoveredPaused (now : Int) (isRestart : op = .recoverAfterRestart now)
      (paused : block.phase = .paused) :
      Advance surroundings op block ((BlockUpdate.markRecovered now).apply block)
  | continued (category : String) (status : ClassificationStatus)
      (confidence : ClassificationConfidence) (occurredAt receivedAt : Int)
      (isReport : op = .observeSafeCategory category status confidence occurredAt receivedAt)
      (running : block.Running occurredAt)
      (observation : WorkBlockObservation .nanoseconds)
      (reported : observation = reportedObservation block category status confidence occurredAt)
      (opens : block.OpensRow observation)
      (continues : block.ContinuesDecidedDwell observation occurredAt) :
      Advance surroundings op block ((BlockUpdate.observing observation).apply block)
  | judged (category : String) (status : ClassificationStatus)
      (confidence : ClassificationConfidence) (occurredAt receivedAt : Int)
      (isReport : op = .observeSafeCategory category status confidence occurredAt receivedAt)
      (running : block.Running occurredAt)
      (observation : WorkBlockObservation .nanoseconds)
      (reported : observation = reportedObservation block category status confidence occurredAt)
      (opens : block.OpensRow observation)
      (fresh : ¬ block.ContinuesDecidedDwell observation occurredAt) :
      Advance surroundings op block
        ((BlockUpdate.judging surroundings block.record.loaded observation.occurredAt).apply
          ((BlockUpdate.returning observation).apply ((BlockUpdate.observing observation).apply block)))
  | finished (phase : WorkBlockPhase) (endedAt : Int) (live : block.phase.isLive = true)
      (ends : block.Ends op phase endedAt) :
      Advance surroundings op block ((BlockUpdate.finishing surroundings phase endedAt).apply block)

/-- A block as a start command creates it. -/
structure Started (record : WorkBlockRecord .nanoseconds) (now : Int) : Prop where
  active : record.phase = .active
  startedAt : record.startedAt = now
  updatedAt : record.updatedAt = now
  notPaused : record.pausedAt = none
  neverPaused : record.totalPausedSeconds = 0
  notEnded : record.endedAt = none
  bounds : minDurationSeconds ≤ record.plannedDurationSeconds ∧
    record.plannedDurationSeconds ≤ maxDurationSeconds

/-- Every block of the table advances by itself.  The intentions of all blocks
may expire on the way. -/
def Advances (manager : WorkBlockManager) (op : Operation) (blocks : List WorkBlock) :
    Prop :=
  ∃ update : BlockUpdate, blocks = manager.store.blocks.map update.apply ∧
    ∀ block ∈ manager.store.blocks, ∃ intention,
      Advance manager.surroundings op (block.withIntention intention) (update.apply block)

/-- What one operation can do to the table: blocks advance, or a new one is added
where no block is live. -/
inductive Evolution (manager : WorkBlockManager) (op : Operation) (blocks : List WorkBlock) : Prop
  | advanced (advances : Advances manager op blocks)
  | created (record : WorkBlockRecord .nanoseconds)
      (idle : ∀ block, manager.store.latestBlock = some block → block.phase.isLive = false)
      (started : Started record op.reading)
      (added : blocks = manager.store.blocks ++ [WorkBlockStore.createdBlock record])

namespace WorkBlock

variable (block : WorkBlock)

/-- A live block has no result, and a terminal one has. -/
def Accounted : Prop :=
  (block.phase.isLive = true ∧ block.resultRow = none) ∨
    (block.phase.isTerminal = true ∧ block.resultRow.isSome = true)

/-- A snapshot shows a block as it reads at a second. -/
structure ShownBy (second : Int) (snapshot : WorkBlockSnapshot) : Prop where
  blockId : snapshot.blockId = some block.blockId
  phase : snapshot.phase = block.phase
  planned : snapshot.plannedDurationSeconds = block.record.plannedDurationSeconds
  elapsed : snapshot.elapsedDurationSeconds = block.record.elapsedAt second
  remaining : snapshot.remainingDurationSeconds =
    block.record.plannedDurationSeconds - block.record.elapsedAt second
  result : snapshot.result = block.resultRow

end WorkBlock

/-- The instants at which an operation reads the demotion policy: the reading it is
handled at, or its instant as the clock of a block reads it. -/
inductive ActsAt (manager : WorkBlockManager) (op : Operation) : Int → Prop
  | itself (onTime : op.reading = op.instant) : ActsAt manager op op.instant
  | afterUpdate (onTime : op.reading = op.instant) (block : WorkBlock)
      (member : block ∈ manager.store.blocks) :
      ActsAt manager op (max op.instant (fromTimestamp block.record.updatedAt))
  | clamped (block : WorkBlock) (member : block ∈ manager.store.blocks)
      (running : block.Running op.instant) :
      ActsAt manager op (block.clampedInstant op.instant)

/-- What a reported snapshot shows: a block of the table, or none, with a live
offer only where the policy is not demoted. -/
structure Reports (manager next : WorkBlockManager) (op : Operation)
    (snapshot : WorkBlockSnapshot) : Prop where
  shown : snapshot = idleSnapshot ∨
    ∃ block ∈ next.store.blocks, ∃ second, block.ShownBy second snapshot
  silent : snapshot.activeIntervention.isSome = true →
    ∃ instant, ActsAt manager op instant ∧ next.store.demotionVerdict instant = .active

namespace Operation

def rawEventsAfter (before : List RawEventRow) : Operation → List RawEventRow
  | replaceRawEvents rows _ => rows
  | _ => before

def focusAfter (before : Option (Int → Bool)) : Operation → Option (Int → Bool)
  | attachFocusSource focus _ => focus
  | _ => before

def resetAfter (before : Option Int) : Operation → Option Int
  | resetDemotion now => some (timestamp now)
  | _ => before

/-- The operation leaves the surroundings of the blocks alone. -/
def OnBlocks : Operation → Prop
  | replaceRawEvents _ _ | attachFocusSource _ _ | resetDemotion _ => False
  | _ => True

end Operation

/-- Everything one step of the manager can do. -/
structure Stepped (manager : WorkBlockManager) (op : Operation)
    (reported : Option WorkBlockSnapshot) (next : WorkBlockManager) : Prop where
  evolution : Evolution manager op next.store.blocks
  rawEventBuffer : next.store.rawEventBuffer = op.rawEventsAfter manager.store.rawEventBuffer
  focus : next.focus = op.focusAfter manager.focus
  manualResetAt : next.store.manualResetAt = op.resetAfter manager.store.manualResetAt
  reports : ∀ snapshot ∈ reported, Reports manager next op snapshot

end Velvt
