import Velvt.WorkBlockStore

/-!
# The work-block manager

The operations of `WorkBlockManager`, statement by statement.  An operation
reads and changes the store, publishes deadlines, and answers or fails; what it
wrote before a failure stays written.  The store itself never fails here beyond
its own constraints and missing rows.
-/

namespace Velvt

def minDurationSeconds : Nat := 5 * 60

def maxDurationSeconds : Nat := 180 * 60

def intentionRetentionHours : Int := 24

def driftMinSwitches : Nat := 3

def driftMinElapsedSeconds : Nat := 3 * 60

def driftMinRemainingSeconds : Nat := 2 * 60

def driftPolicyVersion : Nat := 5

def driftDeterministicPropensity : ℚ := 1

def wrongInterventionRollingDays : Int := 14

def demotionThresholdPolicyVersion : Nat := 1

def demotionThresholdPercent : Nat := 15

def demotionMinDeliveredSample : Nat := 10

def demotionRepromotionPolicyVersion : Nat := 1

def backoffBaseSeconds : Int := 2 * 60 * 60

def backoffMaxSeconds : Int := 24 * 60 * 60

def backoffHistoryLimit : Nat := 20

def workBlockStateVersion : Nat := 1

/-- The manager with its store, the Focus/DND evidence source attached to it,
and the deadline it last published. -/
structure WorkBlockManager where
  store : WorkBlockStore
  focus : Option (Int → Bool)
  deadline : Option Int

/-- A step of a manager operation. -/
def ManagerM (Result : Type) : Type :=
  WorkBlockManager → Except WorkBlockError Result × WorkBlockManager

namespace ManagerM

variable {Result Next : Type}

instance : Monad ManagerM where
  pure result := fun manager => (.ok result, manager)
  bind first rest := fun manager =>
    match first manager with
    | (.ok result, manager) => rest result manager
    | (.error error, manager) => (.error error, manager)

def fail (error : WorkBlockError) : ManagerM Result :=
  fun manager => (.error error, manager)

def query (read : WorkBlockStore → Result) : ManagerM Result :=
  fun manager => (.ok (read manager.store), manager)

def command (write : WorkBlockStore → WorkBlockStore) : ManagerM Unit :=
  fun manager => (.ok (), { manager with store := write manager.store })

@[simp]
theorem pure_apply (result : Result) (manager : WorkBlockManager) :
    (pure result : ManagerM Result) manager = (.ok result, manager) :=
  rfl

@[simp]
theorem bind_apply (first : ManagerM Result) (rest : Result → ManagerM Next)
    (manager : WorkBlockManager) :
    (first >>= rest) manager = match first manager with
      | (.ok result, manager) => rest result manager
      | (.error error, manager) => (.error error, manager) :=
  rfl

@[simp]
theorem map_apply (view : Result → Next) (first : ManagerM Result) (manager : WorkBlockManager) :
    (view <$> first) manager = match first manager with
      | (.ok result, manager) => (.ok (view result), manager)
      | (.error error, manager) => (.error error, manager) :=
  rfl

@[simp]
theorem ite_apply (condition : Prop) [Decidable condition] (first second : ManagerM Result)
    (manager : WorkBlockManager) :
    (if condition then first else second) manager =
      if condition then first manager else second manager := by
  split <;> rfl

@[simp]
theorem fail_apply (error : WorkBlockError) (manager : WorkBlockManager) :
    (fail error : ManagerM Result) manager = (.error error, manager) :=
  rfl

@[simp]
theorem query_apply (read : WorkBlockStore → Result) (manager : WorkBlockManager) :
    query read manager = (.ok (read manager.store), manager) :=
  rfl

@[simp]
theorem command_apply (write : WorkBlockStore → WorkBlockStore) (manager : WorkBlockManager) :
    command write manager = (.ok (), { manager with store := write manager.store }) :=
  rfl

end ManagerM

open ManagerM

def focusActive (instant : Int) : ManagerM Bool :=
  fun manager =>
    (.ok (match manager.focus with
      | none => false
      | some isFocusActive => isFocusActive instant), manager)

def publishDeadline (deadline : Option Int) : ManagerM Unit :=
  fun manager => (.ok (), { manager with deadline := deadline })

/-- `get`: the record of a block, or not found. -/
def getBlock (blockId : Uuid) : ManagerM (WorkBlockRecord .nanoseconds) := do
  match ← query (·.block blockId) with
  | some block => return block.record.loaded
  | none => fail .persistence

/-- An update that must change a row: `update_work_block`. -/
def updateWorkBlock (blockId : Uuid) (matching : WorkBlock → Bool)
    (update : BlockUpdate) : ManagerM Unit := do
  match ← query (·.block blockId) with
  | some block =>
    if matching block then
      command (·.updateBlock blockId update)
    else
      fail .persistence
  | none => fail .persistence

def setPaused (blockId : Uuid) (instant : Int) : ManagerM Unit :=
  updateWorkBlock blockId (fun block => block.phase == .active) (.setPaused instant)

def setActive (blockId : Uuid) (instant : Int) (totalPausedSeconds : Nat) :
    ManagerM Unit :=
  updateWorkBlock blockId (fun block => block.phase == .paused)
    (.setActive instant totalPausedSeconds)

def markRecovered (blockId : Uuid) (instant : Int) : ManagerM Unit :=
  updateWorkBlock blockId (fun block => block.phase.isLive) (.markRecovered instant)

def create (record : WorkBlockRecord .nanoseconds) : ManagerM Unit :=
  fun manager =>
    match manager.store.create record with
    | .ok store => (.ok (), { manager with store := store })
    | .error error => (.error error, manager)

def finalize (blockId : Uuid) (completion : WorkBlockCompletion) :
    ManagerM WorkBlockResult := do
  match ← query (·.result blockId) with
  | some payload => return payload
  | none =>
    updateWorkBlock blockId (fun block => block.phase.isLive) (.finalize completion)
    return completion.result

def expireIntentions (now : Int) : ManagerM Unit :=
  command (·.updateBlocks (.expireIntention now))

def closeOpenObservation (blockId : Uuid) (instant : Int) : ManagerM Unit :=
  command (·.updateBlock blockId (.closeOpenObservation instant))

def resolveIntervention (blockId : Uuid) (outcome : WorkBlockInterventionOutcome)
    (instant : Int) : ManagerM Unit :=
  command (·.updateBlock blockId (.resolveIntervention outcome instant))

/-- The rolling window of the demotion policy starts at the later of its first
day and the last manual reset. -/
def demotionSince (manualResetAt : Option Int) (now : Int) : Int :=
  let since := now - Duration.days wrongInterventionRollingDays
  match manualResetAt with
  | some resetAt => max since resetAt
  | none => since

def demotionStateOf (counts : WrongInterventionCounts) : InterventionDemotionState :=
  if demotionMinDeliveredSample ≤ counts.delivered ∧
      saturatingMul counts.delivered demotionThresholdPercent <
        saturatingMul counts.wasFocused 100 then
    .demoted
  else
    .active

def demotedAtFor (stored : Option (DemotionStateRecord .nanoseconds))
    (state : InterventionDemotionState) (now : Int) : Option Int :=
  match (stored.map (·.state)).getD .active, state with
  | .demoted, .demoted => (stored.bind (·.demotedAt)).or (some now)
  | _, .demoted => some now
  | _, _ => none

/-- Evaluates the deterministic auto-demotion policy and persists the
transition when the state changed. -/
def evaluateDemotion (now : Int) : ManagerM DemotionEvaluation := do
  let row ← query (·.demotionRow)
  let stored := row.map DemotionStateRecord.loaded
  let manualResetAt := stored.bind (·.manualResetAt)
  let since := demotionSince manualResetAt now
  let counts ← query fun store => wrongInterventionCounts store.interventionRows since
  let state := demotionStateOf counts
  let demotedAt := demotedAtFor stored state now
  let changed : Bool := decide (stored.map (·.state) ≠ some state) ||
    decide (stored.bind (·.demotedAt) ≠ demotedAt)
  if changed then
    let record : DemotionStateRecord .nanoseconds :=
      { state := state
        demotedAt := demotedAt
        manualResetAt := manualResetAt
        thresholdPolicyVersion := demotionThresholdPolicyVersion
        repromotionPolicyVersion := demotionRepromotionPolicyVersion
        updatedAt := now }
    command fun store => { store with demotionRow := some record.stored }
  return { state := state, counts := counts, demotedAt := demotedAt }

def demotionStatePayload (now : Int) : ManagerM DemotionState := do
  let evaluation ← evaluateDemotion now
  let demoted := evaluation.state == .demoted
  return {
    state := evaluation.state
    wrongCount := evaluation.counts.wasFocused
    deliveredCount := evaluation.counts.delivered
    thresholdPercent := demotionThresholdPercent
    minimumSample := demotionMinDeliveredSample
    windowDays := wrongInterventionRollingDays.natAbs
    thresholdPolicyVersion := demotionThresholdPolicyVersion
    repromotionPolicyVersion := demotionRepromotionPolicyVersion
    demotedAt := if demoted then evaluation.demotedAt else none
    disclosure := if demoted then some demotionDisclosureCopy else none }

def resetDemotion (now : Int) : ManagerM DemotionState := do
  let record : DemotionStateRecord .nanoseconds :=
    { state := .active
      demotedAt := none
      manualResetAt := some now
      thresholdPolicyVersion := demotionThresholdPolicyVersion
      repromotionPolicyVersion := demotionRepromotionPolicyVersion
      updatedAt := now }
  command fun store => { store with demotionRow := some record.stored }
  demotionStatePayload now

def activeIntervention (blockId : Uuid) (now : Int) :
    ManagerM (Option ActiveIntervention) := do
  match ← query (·.intervention blockId) with
  | none => return none
  | some intervention =>
    if intervention.outcome.isTerminal then
      return none
    else
      let evaluation ← evaluateDemotion now
      if evaluation.state = .demoted then
        return none
      else
        let seed := copySeed blockId intervention.switchCount intervention.offeredAt
        return some {
          actionId := intervention.actionId
          title := driftTitle seed
          body := driftBody seed intervention.switchCount intervention.anchorCategory
          anchorCategory := intervention.anchorCategory
          switchCount := intervention.switchCount
          windowSeconds := intervention.windowSeconds
          offeredAt := intervention.offeredAt
          salience := intervention.salience }

def snapshotWithResult (record : WorkBlockRecord .nanoseconds) (now : Int)
    (result : Option WorkBlockResult) : ManagerM WorkBlockSnapshot := do
  let elapsed := elapsedSeconds record now
  let remaining := record.plannedDurationSeconds - elapsed
  let latest ← query (·.latestObservation record.blockId)
  let (category, status, confidence) := currentEvidence latest
  let observations ← query (·.observations record.blockId)
  let anchorCategory :=
    if record.phase.isLive then dominantCategory observations else none
  let endsAt := if record.phase = .active then some (plannedDeadline record) else none
  let activeIntervention ← activeIntervention record.blockId now
  return {
    stateVersion := workBlockStateVersion
    phase := record.phase
    blockId := some record.blockId
    intention := record.intention
    purpose := record.purpose
    intensity := some record.intensity
    plannedDurationSeconds := record.plannedDurationSeconds
    elapsedDurationSeconds := elapsed
    remainingDurationSeconds := remaining
    startedAt := some record.startedAt
    analysisEndedAt := record.endedAt
    endsAt := endsAt
    pausedAt := record.pausedAt
    recoveredAfterRestart := record.recoveredAfterRestart
    currentCategory := category
    anchorCategory := anchorCategory
    classificationStatus := status
    confidence := confidence
    statusLine := statusLine record.phase record.intensity category status
    result := result
    activeIntervention := activeIntervention }

def snapshotFor (record : WorkBlockRecord .nanoseconds) (now : Int) :
    ManagerM WorkBlockSnapshot := do
  let result ← query (·.result record.blockId)
  snapshotWithResult record now result

def idleSnapshot : WorkBlockSnapshot where
  stateVersion := workBlockStateVersion
  phase := .idle
  blockId := none
  intention := none
  purpose := none
  intensity := none
  plannedDurationSeconds := 0
  elapsedDurationSeconds := 0
  remainingDurationSeconds := 0
  startedAt := none
  analysisEndedAt := none
  endsAt := none
  pausedAt := none
  recoveredAfterRestart := false
  currentCategory := none
  anchorCategory := none
  classificationStatus := .unclassified
  confidence := .none
  statusLine := "Choose one bounded block to begin."
  result := none
  activeIntervention := none

/-- Closes the open observation at a block boundary where its own dwell ended,
never at the boundary. -/
def closeOpenObservationAtReportedEnd (blockId : Uuid) (boundary : Int) :
    ManagerM Unit := do
  let latest ← query (·.latestObservation blockId)
  match latest.filter (·.endedAt.isNone) with
  | none => return ()
  | some openRow =>
    let reported ← query (·.reportedDwells openRow.occurredAt boundary)
    closeOpenObservation blockId (reportedEnd openRow reported boundary)

def finish (record : WorkBlockRecord .nanoseconds) (phase : WorkBlockPhase)
    (endedAt : Int) : ManagerM WorkBlockSnapshot := do
  match ← query (·.result record.blockId) with
  | some result =>
    publishDeadline none
    snapshotWithResult (← getBlock record.blockId) endedAt (some result)
  | none =>
    closeOpenObservationAtReportedEnd record.blockId endedAt
    resolveIntervention record.blockId .noResponse endedAt
    let observations ← query (·.observations record.blockId)
    let elapsed := elapsedSeconds record endedAt
    let reported ← query (·.reportedDwells record.startedAt endedAt)
    let coveredSeconds :=
      reportedCoverageSeconds reported observations record.startedAt endedAt
    let result := aggregateResult record phase elapsed observations coveredSeconds
    let offer ← query (·.intervention record.blockId)
    let held := offer.any fun offer => offer.outcome == .deliverySuppressedDnd
    let heldCount := if held then 1 else 0
    let focused ← focusActive endedAt
    let completedUnderDnd := phase == .completed && focused
    let result := withDndEvidence result completedUnderDnd heldCount
    let result ← finalize record.blockId { phase := phase, endedAt := endedAt, result := result }
    publishDeadline none
    snapshotWithResult (← getBlock record.blockId) endedAt (some result)

def require (blockId : Uuid) (phase : WorkBlockPhase) :
    ManagerM (WorkBlockRecord .nanoseconds) := do
  let record ← getBlock blockId
  if record.phase ≠ phase then
    fail .invalidTransition
  else
    return record

def recoverAfterRestart (now : Int) : ManagerM WorkBlockSnapshot := do
  expireIntentions now
  match ← query (·.latest) with
  | none => return idleSnapshot
  | some record =>
    match record.phase with
    | .active =>
      if record.plannedDurationSeconds ≤ elapsedSeconds record now then
        finish record .expired (plannedDeadline record)
      else
        closeOpenObservationAtReportedEnd record.blockId now
        markRecovered record.blockId now
        let recovered ← getBlock record.blockId
        publishDeadline (some (plannedDeadline recovered))
        snapshotFor recovered now
    | .paused =>
      markRecovered record.blockId now
      publishDeadline none
      snapshotFor (← getBlock record.blockId) now
    | _ => snapshotFor record now

/-- The block of a start command; `blockId` is the fresh identifier. -/
def startWithOrigin (request : StartWorkBlock) (origin : WorkBlockOrigin)
    (blockId : Uuid) (now : Int) : ManagerM WorkBlockSnapshot := do
  let current ← query (·.latest)
  if current.any (·.phase.isLive) then
    fail .invalidTransition
  else
    match normalizeIntention request.intention with
    | .error error => fail error
    | .ok intention =>
      if request.plannedDurationSeconds < minDurationSeconds ∨
          maxDurationSeconds < request.plannedDurationSeconds then
        fail .invalidRequest
      else
        let record : WorkBlockRecord .nanoseconds :=
          { blockId := blockId
            phase := .active
            intention := intention
            purpose := request.purpose
            intensity := request.intensity
            plannedDurationSeconds := request.plannedDurationSeconds
            startedAt := now
            pausedAt := none
            totalPausedSeconds := 0
            endedAt := none
            recoveredAfterRestart := false
            recoveryOf := none
            origin := origin
            intentionExpiresAt := now + Duration.hours intentionRetentionHours
            updatedAt := now }
        create record
        publishDeadline (some (plannedDeadline record))
        snapshotFor record now

def start (request : StartWorkBlock) (blockId : Uuid) (now : Int) :
    ManagerM WorkBlockSnapshot :=
  startWithOrigin request .manual blockId now

def pause (blockId : Uuid) (now : Int) : ManagerM WorkBlockSnapshot := do
  let record ← require blockId .active
  if record.plannedDurationSeconds ≤ elapsedSeconds record now then
    finish record .completed (plannedDeadline record)
  else
    let effectiveNow := min (effectiveNow record now) (plannedDeadline record)
    closeOpenObservationAtReportedEnd record.blockId effectiveNow
    setPaused record.blockId effectiveNow
    publishDeadline none
    snapshotFor (← getBlock record.blockId) effectiveNow

def resume (blockId : Uuid) (now : Int) : ManagerM WorkBlockSnapshot := do
  let record ← require blockId .paused
  let effectiveNow := effectiveNow record now
  match record.pausedAt with
  | none => fail .invalidTransition
  | some pausedAt =>
    let added := positiveSeconds (effectiveNow - pausedAt)
    let totalPaused := saturatingAdd record.totalPausedSeconds added
    setActive record.blockId effectiveNow totalPaused
    let active ← getBlock record.blockId
    publishDeadline (some (plannedDeadline active))
    snapshotFor active effectiveNow

/-- `end`. -/
def endBlock (blockId : Uuid) (now : Int) : ManagerM WorkBlockSnapshot := do
  let record ← getBlock blockId
  if !record.phase.isLive then
    match ← query (·.result record.blockId) with
    | some result => snapshotWithResult record now (some result)
    | none => fail .invalidTransition
  else if record.phase = .active ∧
      record.plannedDurationSeconds ≤ elapsedSeconds record now then
    finish record .completed (plannedDeadline record)
  else
    let endedAt :=
      match record.phase with
      | .paused => record.pausedAt.getD (effectiveNow record now)
      | _ => effectiveNow record now
    finish record .abandoned endedAt

def requestState (now : Int) : ManagerM WorkBlockSnapshot := do
  expireIntentions now
  match ← query (·.latest) with
  | none => return idleSnapshot
  | some record =>
    if record.phase = .active ∧
        record.plannedDurationSeconds ≤ elapsedSeconds record now then
      finish record .completed (plannedDeadline record)
    else
      snapshotFor record now

def lifecycle (event : WorkBlockLifecycleEvent) (now : Int) :
    ManagerM WorkBlockSnapshot := do
  match event with
  | .sleep =>
    match ← query (·.latest) with
    | some record =>
      if record.phase = .active then
        pause record.blockId now
      else
        requestState now
    | none => requestState now
  | .clockChanged =>
    match ← query (·.latest) with
    | some record =>
      if record.phase = .active ∧
          record.plannedDurationSeconds ≤ elapsedSeconds record now then
        finish record .expired (plannedDeadline record)
      else
        requestState now
    | none => requestState now
  | .wake | .timeZoneChanged => requestState now

/-- Marks a pending offer as returned once the anchor category is observed
again. -/
def recordReturnIfPending (record : WorkBlockRecord .nanoseconds)
    (observation : WorkBlockObservation .nanoseconds) (instant : Int) :
    ManagerM Unit := do
  if !isConfidentEvidence observation then
    return ()
  else
    match ← query (·.intervention record.blockId) with
    | none => return ()
    | some pending =>
      if pending.outcome ≠ .offered then
        return ()
      else if !eqIgnoreAsciiCase pending.anchorCategory observation.category then
        return ()
      else
        resolveIntervention record.blockId .returned instant

/-- Records one drift-policy decision, including every abstention. -/
def logDecision (record : WorkBlockRecord .nanoseconds) (now : Int)
    (verdict : GateVerdict) (anchorCategory : Option String) (switchCount : Nat) :
    ManagerM Unit := do
  let elapsed := elapsedSeconds record now
  let decision : InterventionDecision .nanoseconds :=
    { occurredAt := now
      blockId := some record.blockId
      policyVersion := driftPolicyVersion
      anchorCategory := anchorCategory
      switchCount := switchCount
      elapsedSeconds := elapsed
      remainingSeconds := record.plannedDurationSeconds - elapsed
      gateVerdict := verdict
      propensity := driftDeterministicPropensity
      anchorSeenWithin600s := none
      outcomeAt := none }
  command (·.updateBlock record.blockId (.recordDecision decision))

/-- The cooldown and salience earned by the last answers, newest first. -/
def backoffOf (recent : List (WorkBlockIntervention .nanoseconds)) (now : Int) :
    BackoffState :=
  let resolved := recent.filter (·.outcome.isTerminal)
  let negatives := resolved.takeWhile (·.outcome.isNegative)
  match negatives with
  | [] => { suppressed := false, salience := .normal }
  | latest :: _ =>
    let since := latest.outcomeAt.getD latest.offeredAt
    let doublings := min (negatives.length - 1) 16
    let cooldown := Duration.seconds (min (backoffBaseSeconds * 2 ^ doublings) backoffMaxSeconds)
    { suppressed := decide (now < since + cooldown), salience := .quiet }

def backoffState (now : Int) : ManagerM BackoffState := do
  let recent ← query fun store =>
    recentInterventions store.interventionRows backoffHistoryLimit
  return backoffOf recent now

/-- Deterministic drift gate.  Returns an offer at most once per block, and
records what every branch decided. -/
def evaluateDrift (record : WorkBlockRecord .nanoseconds) (now : Int) :
    ManagerM (Option DriftIntervention) := do
  let elapsed := elapsedSeconds record now
  if elapsed < driftMinElapsedSeconds then
    logDecision record now .abstainedWarmup none 0
    return none
  else if record.plannedDurationSeconds - elapsed < driftMinRemainingSeconds then
    logDecision record now .abstainedRemaining none 0
    return none
  else if (← query (·.intervention record.blockId)).isSome then
    logDecision record now .abstainedBlockCap none 0
    return none
  else
    let backoff ← backoffState now
    if backoff.suppressed then
      logDecision record now .abstainedBackoff none 0
      return none
    else
      let observations ← query (·.observations record.blockId)
      match dominantCategory observations with
      | none =>
        logDecision record now .abstainedNoAnchor none 0
        return none
      | some anchor =>
        let windowStart := now - Duration.seconds driftWindowSeconds
        let scan := departureScan observations anchor windowStart
        let offer (outcome : WorkBlockInterventionOutcome) (outcomeAt : Option Int)
            (salience : InterventionSalience) : WorkBlockIntervention .nanoseconds :=
          { offeredAt := now
            actionId := driftActionId
            anchorCategory := anchor
            switchCount := scan.switchCount
            windowSeconds := driftWindowSeconds
            outcome := outcome
            outcomeAt := outcomeAt
            salience := salience
            cardSeenAt := none }
        let insert (intervention : WorkBlockIntervention .nanoseconds) :=
          command (·.updateBlock record.blockId (.recordIntervention intervention))
        if scan.switchCount < driftMinSwitches then
          logDecision record now .abstainedMinSwitches (some anchor) scan.switchCount
          return none
        else if scan.previousWasAnchor = some true then
          logDecision record now .abstainedAtAnchor (some anchor) scan.switchCount
          return none
        else if (← evaluateDemotion now).state = .demoted then
          logDecision record now .withheldDemotion (some anchor) scan.switchCount
          insert (offer .withheldDemotion (some now) .normal)
          return none
        else if ← focusActive now then
          logDecision record now .suppressedDnd (some anchor) scan.switchCount
          insert (offer .deliverySuppressedDnd (some now) .normal)
          return none
        else
          logDecision record now .offered (some anchor) scan.switchCount
          insert (offer .offered none backoff.salience)
          let seed := copySeed record.blockId scan.switchCount now
          return some {
            blockId := record.blockId
            actionId := driftActionId
            title := driftTitle seed
            body := driftBody seed scan.switchCount anchor
            salience := backoff.salience }

def sameEvidence (category : String) (status : ClassificationStatus)
    (confidence : ClassificationConfidence) (latest : WorkBlockObservation .nanoseconds) : Bool :=
  latest.category == category &&
    latest.classificationStatus == status &&
    latest.classificationConfidence == confidence

def observeSafeCategory (category : String) (status : ClassificationStatus)
    (confidence : ClassificationConfidence) (occurredAt : Int) :
    ManagerM (Option ObservationOutcome) := do
  match ← query (·.latest) with
  | none => return none
  | some record =>
    if record.phase ≠ .active then
      return none
    else if record.plannedDurationSeconds ≤ elapsedSeconds record occurredAt then
      let snapshot ← finish record .completed (plannedDeadline record)
      return some { snapshot := snapshot, intervention := none }
    else
      let instant := min (effectiveNow record occurredAt) (plannedDeadline record)
      let latest ← query (·.latestObservation record.blockId)
      let sameEvidence := sameEvidence category status confidence
      if latest.any fun latest => latest.endedAt.isNone && sameEvidence latest then
        return none
      else
        let continuesDecidedDwell := latest.any fun latest =>
          latest.endedAt.isSome && sameEvidence latest &&
            decide (timestamp occurredAt ≤ timestamp latest.occurredAt)
        closeOpenObservation record.blockId instant
        let observation : WorkBlockObservation .nanoseconds :=
          { occurredAt := instant
            endedAt := none
            category := category
            classificationStatus := status
            classificationConfidence := confidence }
        command (·.updateBlock record.blockId (.appendObservation observation))
        if continuesDecidedDwell then
          let snapshot ← snapshotFor record instant
          return some { snapshot := snapshot, intervention := none }
        else
          recordReturnIfPending record observation instant
          let intervention ← evaluateDrift record instant
          let snapshot ← snapshotFor record instant
          return some { snapshot := snapshot, intervention := intervention }

def recordInterventionCardSeen (blockId : Uuid) (now : Int) :
    ManagerM WorkBlockSnapshot := do
  let record ← getBlock blockId
  if (← query (·.intervention record.blockId)).isSome then
    command (·.updateBlock record.blockId (.markInterventionCardSeen now))
  snapshotFor record now

def outcomeFor : InterventionResponse → WorkBlockInterventionOutcome
  | .acceptedAction => .acceptedAction
  | .notHelpful => .notHelpful
  | .wrongClassification => .wrongClassification
  | .wasFocused => .wasFocused
  | .dismissed => .dismissed

def reportInterventionOutcome (blockId : Uuid) (response : InterventionResponse)
    (now : Int) : ManagerM WorkBlockSnapshot := do
  let record ← getBlock blockId
  match ← query (·.intervention record.blockId) with
  | none => fail .invalidRequest
  | some existing =>
    if existing.outcome.isTerminal then
      snapshotFor record now
    else
      resolveIntervention record.blockId (outcomeFor response) now
      snapshotFor record now

/-- The recovery block of a finished one; `freshId` is its identifier. -/
def acceptRecovery (blockId : Uuid) (actionId : String) (freshId : Uuid) (now : Int) :
    ManagerM WorkBlockSnapshot := do
  if actionId ≠ driftActionId ∧ actionId ≠ softRestartActionId then
    fail .invalidRequest
  else
    let source ← getBlock blockId
    match ← query (·.result source.blockId) with
    | none => fail .invalidTransition
    | some result =>
      if !source.phase.isTerminal then
        fail .invalidTransition
      else if result.nextAction.actionId ≠ actionId then
        fail .invalidRequest
      else if (← query (·.latest)).any (·.phase.isLive) then
        fail .invalidTransition
      else
        let record : WorkBlockRecord .nanoseconds :=
          { blockId := freshId
            phase := .active
            intention := source.intention
            purpose := source.purpose
            intensity := source.intensity
            plannedDurationSeconds := recoveryDurationSeconds
            startedAt := now
            pausedAt := none
            totalPausedSeconds := 0
            endedAt := none
            recoveredAfterRestart := false
            recoveryOf := some source.blockId
            origin := .manual
            intentionExpiresAt := now + Duration.hours intentionRetentionHours
            updatedAt := now }
        create record
        publishDeadline (some (plannedDeadline record))
        snapshotFor record now

end Velvt
