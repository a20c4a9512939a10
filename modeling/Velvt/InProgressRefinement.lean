import Velvt.RecordAgreement
import Velvt.WorkBlockLedger

/-!
# In-progress reports

A client may report a dwell when it begins and again when it closes, or only when it closes.
-/

namespace Velvt

open StepMachine List WorkBlockStore WorkBlockRecord

/-- The evidence of a dwell, and the instant it began. -/
structure Dwell where
  category : String
  status : ClassificationStatus
  confidence : ClassificationConfidence
  occurredAt : Int

/-- The report of a dwell: in progress and closed reports say the same. -/
def Dwell.report (dwell : Dwell) (receivedAt : Int) : Operation :=
  .observeSafeCategory dwell.category dwell.status dwell.confidence dwell.occurredAt receivedAt

namespace Operation

def isBoundary : Operation → Bool
  | pause _ _ | resume _ _ | endBlock _ _ | lifecycle .sleep _ | recoverAfterRestart _ => true
  | _ => false

/-- The operation asks for the state of the latest block, or changes the raw event
buffer: nothing the gate reads. -/
def isQuiet : Operation → Bool
  | requestState _ | lifecycle .wake _ | lifecycle .clockChanged _
  | lifecycle .timeZoneChanged _ | evaluateDemotion _ | demotionStatePayload _
  | replaceRawEvents _ _ => true
  | _ => false

/-- What a quiet operation leaves of a manager whose latest block is not due. -/
def quieted (manager : WorkBlockManager) : Operation → WorkBlockManager
  | requestState now | lifecycle _ now => manager.expired now
  | replaceRawEvents rows _ =>
    { manager with store := { manager.store with rawEventBuffer := rows } }
  | _ => manager

def asksState : Operation → Bool
  | requestState _ | lifecycle .wake _ | lifecycle .clockChanged _
  | lifecycle .timeZoneChanged _ => true
  | _ => false

end Operation

namespace WorkBlock

/-- The block runs, and its time is spent. -/
def Due (block : WorkBlock) (now : Int) : Prop :=
  block.phase = .active ∧
    block.record.plannedDurationSeconds ≤ block.record.elapsedAt (timestamp now)

def holdsOpen (block : WorkBlock) (dwell : Dwell) : Bool :=
  block.latestObservation.any fun latest =>
    latest.endedAt.isNone && sameEvidence dwell.category dwell.status dwell.confidence latest

/-- A further report of the dwell changes nothing. -/
structure Awaits (block : WorkBlock) (dwell : Dwell) : Prop where
  running : block.Running dwell.occurredAt
  holdsOpen : block.holdsOpen dwell = true

end WorkBlock

def BlockUpdate.accepting (surroundings : Surroundings) (dwell : Dwell) : BlockUpdate where
  apply block :=
    if block.holdsOpen dwell then
      block
    else
      (reporting surroundings dwell.category dwell.status dwell.confidence
        dwell.occurredAt).apply block
  keepsId block := by
    split
    · rfl
    · exact BlockUpdate.keepsId _ block

namespace WorkBlockManager

def isActive (manager : WorkBlockManager) (blockId : Uuid) : Bool :=
  (manager.store.block blockId).any fun block => block.phase == .active

/-- The block is there, and has ended. -/
def HasEnded (manager : WorkBlockManager) (blockId : Uuid) : Prop :=
  ∃ block, manager.store.block blockId = some block ∧ block.phase.isLive = false

end WorkBlockManager

section Ending

variable {manager : WorkBlockManager} {block : WorkBlock} {blockId : Uuid}

theorem WorkBlockManager.HasEnded.not_isActive (ended : manager.HasEnded blockId) :
    manager.isActive blockId = false := by
  obtain ⟨block, found, notLive⟩ := ended
  cases phase : block.phase <;>
    simp_all [WorkBlockManager.isActive, WorkBlockPhase.isLive]

theorem WorkBlockManager.HasEnded.run (ended : manager.HasEnded blockId)
    (owned : manager.Owned) (ops : List Operation) :
    (managerMachine.run manager ops).HasEnded blockId := by
  obtain ⟨block, found, notLive⟩ := ended
  obtain ⟨after, afterFound, same⟩ := owned.sameEnd_run ops found notLive
  exact ⟨after, afterFound, by rw [same.phase]; exact notLive⟩

theorem finish_ended (phase : WorkBlockPhase) (terminal : phase.isTerminal = true)
    (endedAt : Int) (found : manager.store.block block.blockId = some block)
    (accounted : block.Accounted) (live : block.phase.isLive = true) :
    ∃ snapshot next, finish block.record.loaded phase endedAt manager = (.ok snapshot, next) ∧
      next.HasEnded block.blockId := by
  have noResult := accounted.noResult live
  obtain ⟨snapshot, next, runs, same, -, -⟩ := finish_spec phase endedAt found live noResult
  have updatedFound := WorkBlockManager.block_updated
    (.finishing manager.surroundings phase endedAt) found
  refine ⟨snapshot, next, runs, _, (same.block block.blockId).trans updatedFound, ?_⟩
  rw [BlockUpdate.finishing_apply _ _ _ live noResult]
  exact WorkBlockPhase.not_live_of_terminal terminal

theorem latestBlock_expired (isLatest : manager.store.latestBlock = some block) (now : Int) :
    ∃ intention, (manager.expired now).store.latestBlock =
      some (block.withIntention intention) := by
  obtain ⟨intention, same⟩ := BlockUpdate.expireIntention_apply now block
  refine ⟨intention, ?_⟩
  have last : manager.store.blocks.getLast? = some block := isLatest
  rw [← same, WorkBlockStore.latestBlock, WorkBlockManager.expired,
    updateBlocks_blocks, List.getLast?_map, last, Option.map_some]

theorem requestState_due (accounted : ∀ block ∈ manager.store.blocks, block.Accounted)
    (isLatest : manager.store.latestBlock = some block) {now : Int} (due : block.Due now) :
    ∃ snapshot next, requestState now manager = (.ok snapshot, next) ∧
      next.HasEnded block.blockId := by
  obtain ⟨intention, expiredLatest⟩ := latestBlock_expired isLatest now
  have found := block_of_latestBlock expiredLatest
  have isActive : (block.withIntention intention).record.phase = .active := due.1
  have isSpent : (block.withIntention intention).record.plannedDurationSeconds ≤
      (block.withIntention intention).record.elapsedAt (timestamp now) := due.2
  obtain ⟨snapshot, next, runs, ended⟩ :=
    finish_ended .completed rfl
      (fromTimestamp (block.withIntention intention).record.deadline) found
      (accounted block (mem_of_getLast? isLatest))
      (by simp [WorkBlock.phase, isActive, WorkBlockPhase.isLive])
  refine ⟨snapshot, next, ?_, ended⟩
  simp [requestState, expireIntentions_spec, latest_eq expiredLatest, isActive, isSpent, runs]

theorem requestState_undue {now : Int}
    (undue : ∀ block, manager.store.latestBlock = some block → ¬ block.Due now) :
    SameRecord (manager.expired now) (requestState now manager).2 := by
  cases isLatest : manager.store.latestBlock with
  | none =>
    have expiredLatest : (manager.expired now).store.latestBlock = none := by
      have noBlocks : manager.store.blocks = [] := List.getLast?_eq_none_iff.mp isLatest
      simp [WorkBlockStore.latestBlock, WorkBlockManager.expired, noBlocks]
    have answers : requestState now manager = (.ok idleSnapshot, manager.expired now) := by
      simp [requestState, expireIntentions_spec, latest_eq expiredLatest]
    rw [answers]
    exact SameRecord.refl _
  | some block =>
    obtain ⟨intention, expiredLatest⟩ := latestBlock_expired isLatest now
    have notDue : ¬ ((block.withIntention intention).record.phase = .active ∧
        (block.withIntention intention).record.plannedDurationSeconds ≤
          (block.withIntention intention).record.elapsedAt (timestamp now)) :=
      undue block isLatest
    obtain ⟨snapshot, next, runs, same, -, -⟩ :=
      snapshotFor_spec (block.withIntention intention).record.loaded now (manager.expired now)
    have answers : requestState now manager = (.ok snapshot, next) := by
      simp [requestState, expireIntentions_spec, latest_eq expiredLatest, notDue, runs]
    rw [answers]
    exact same

theorem next_ended {op : Operation} (asks : op.asksState = true)
    (accounted : ∀ block ∈ manager.store.blocks, block.Accounted)
    (isLatest : manager.store.latestBlock = some block) (due : block.Due op.reading) :
    (managerMachine.next manager op).HasEnded block.blockId := by
  have ends {program : ManagerM WorkBlockSnapshot} (performs : op.perform = .snapshot <$> program)
      (finishes : ∃ snapshot next, program manager = (.ok snapshot, next) ∧
        next.HasEnded block.blockId) :
      (managerMachine.next manager op).HasEnded block.blockId := by
    obtain ⟨snapshot, next, runs, ended⟩ := finishes
    rw [next_of_perform performs, runs]
    exact ended
  cases op with
  | requestState now => exact ends rfl (requestState_due accounted isLatest due)
  | lifecycle event now =>
    cases event with
    | wake => exact ends rfl (requestState_due accounted isLatest due)
    | timeZoneChanged => exact ends rfl (requestState_due accounted isLatest due)
    | clockChanged =>
      have isActive : block.record.phase = .active := due.1
      obtain ⟨snapshot, next, runs, ended⟩ :=
        finish_ended .expired rfl (fromTimestamp block.record.deadline)
          (block_of_latestBlock isLatest)
          (accounted block (mem_of_getLast? isLatest))
          (by simp [due.1, WorkBlockPhase.isLive])
      have isSpent : block.record.plannedDurationSeconds ≤
          block.record.elapsedAt (timestamp now) := due.2
      refine ends rfl ⟨snapshot, next, ?_, ended⟩
      simp [lifecycle, latest_eq isLatest, isActive, isSpent, runs]
    | sleep => cases asks
  | _ => cases asks

theorem next_quiet {op : Operation} (quiet : op.isQuiet = true) (undue : op.asksState = true →
      ∀ block, manager.store.latestBlock = some block → ¬ block.Due op.reading) :
    SameRecord (op.quieted manager) (managerMachine.next manager op) := by
  have shows {program : ManagerM WorkBlockSnapshot} {now : Int}
      (performs : op.perform = .snapshot <$> program)
      (answers : program manager = requestState now manager)
      (undue : ∀ block, manager.store.latestBlock = some block → ¬ block.Due now) :
      SameRecord (manager.expired now) (managerMachine.next manager op) := by
    rw [next_of_perform performs, answers]
    exact requestState_undue undue
  cases op with
  | requestState now => exact shows rfl rfl (undue rfl)
  | lifecycle event now =>
    cases event with
    | wake => exact shows rfl rfl (undue rfl)
    | timeZoneChanged => exact shows rfl rfl (undue rfl)
    | clockChanged =>
      refine shows rfl ?_ (undue rfl)
      cases isLatest : manager.store.latestBlock with
      | none => simp [lifecycle, latest_eq isLatest]
      | some block =>
        have notDue : ¬ (block.record.phase = .active ∧ block.record.plannedDurationSeconds ≤
              block.record.elapsedAt (timestamp now)) := undue rfl block isLatest
        simp [lifecycle, latest_eq isLatest, notDue]
    | sleep => cases quiet
  | evaluateDemotion now => exact SameRecord.next_of_evaluation manager rfl
  | demotionStatePayload now => exact SameRecord.next_of_evaluation manager rfl
  | replaceRawEvents rows now => exact SameRecord.refl _
  | _ => cases quiet

end Ending

namespace BlockUpdate

variable (surroundings : Surroundings) (dwell : Dwell) (block : WorkBlock)

theorem accepting_withIntention (intention : Option String) :
    (accepting surroundings dwell).apply (block.withIntention intention) =
      ((accepting surroundings dwell).apply block).withIntention intention := by
  simp only [accepting]
  have holdsOpen : (block.withIntention intention).holdsOpen dwell = block.holdsOpen dwell :=
    rfl
  rw [holdsOpen]
  split
  · rfl
  · simp only [reporting]
    have observation : reportedObservation (block.withIntention intention) dwell.category
        dwell.status dwell.confidence dwell.occurredAt =
          reportedObservation block dwell.category dwell.status dwell.confidence
            dwell.occurredAt := rfl
    rw [observation]
    set reported := reportedObservation block dwell.category dwell.status dwell.confidence
      dwell.occurredAt
    have continues : (block.withIntention intention).ContinuesDecidedDwell reported
        dwell.occurredAt ↔ block.ContinuesDecidedDwell reported dwell.occurredAt := Iff.rfl
    simp only [continues]
    split
    · rfl
    · simp only [returning]
      have row : ((observing reported).apply (block.withIntention intention)).interventionRow =
            ((observing reported).apply block).interventionRow := rfl
      rw [row]
      split <;> rfl

theorem accepting_record : ∃ updatedAt, block.record.updatedAt ≤ updatedAt ∧
      updatedAt ≤ max block.record.updatedAt (timestamp dwell.occurredAt) ∧
      ((accepting surroundings dwell).apply block).record =
        { block.record with updatedAt := updatedAt } := by
  simp only [accepting]
  split
  · exact ⟨_, le_rfl, le_max_left _ _, rfl⟩
  · refine ⟨_, le_max_left _ _, ?_, reporting_record _ _ _ _ _ _⟩
    have clamped : timestamp (block.clampedInstant dwell.occurredAt) =
        min (max (timestamp dwell.occurredAt) block.record.updatedAt)
          block.record.deadline := by
      simp [WorkBlock.clampedInstant]
    rw [clamped]
    omega

theorem accepting_expireIntention (now : Int) :
    (accepting surroundings dwell).apply ((expireIntention now).apply block) =
      (expireIntention now).apply ((accepting surroundings dwell).apply block) := by
  obtain ⟨updatedAt, -, -, isRecord⟩ := accepting_record surroundings dwell block
  simp only [expireIntention, isRecord]
  split
  · have expired := accepting_withIntention surroundings dwell block none
    simpa only [WorkBlock.withIntention, isRecord] using expired
  · rfl

end BlockUpdate

namespace WorkBlockManager

variable {manager : WorkBlockManager} {block : WorkBlock} {dwell : Dwell}

/-- The manager once it has accepted a report of its running block. -/
def accepted (manager : WorkBlockManager) (blockId : Uuid) (dwell : Dwell) :
    WorkBlockManager :=
  manager.updated blockId (.accepting manager.surroundings dwell)

theorem quieted_accepted (op : Operation) (blockId : Uuid) :
    op.quieted (manager.accepted blockId dwell) = (op.quieted manager).accepted blockId dwell := by
  have expired (now : Int) : (manager.accepted blockId dwell).expired now =
      (manager.expired now).accepted blockId dwell := by
    simp only [accepted, surroundings_expired]
    simp only [WorkBlockManager.expired, updated, WorkBlockManager.mk.injEq, and_self, and_true]
    apply ext_fields
    · simp only [updateBlocks_blocks, updateBlock_blocks, map_map]
      apply map_congr_left
      intro block _
      have sameId : ((BlockUpdate.expireIntention now).apply block).blockId =
          block.blockId := BlockUpdate.keepsId _ block
      simp only [Function.comp_apply, BlockUpdate.only, sameId]
      split
      · exact (BlockUpdate.accepting_expireIntention _ _ _ _).symm
      · rfl
    · rfl
    · rfl
  cases op with
  | requestState now => exact expired now
  | lifecycle event now => exact expired now
  | _ => rfl

theorem quieted_latest (op : Operation) (isLatest : manager.store.latestBlock = some block) :
    ∃ intention, (op.quieted manager).store.latestBlock =
      some (block.withIntention intention) := by
  cases op with
  | requestState now => exact latestBlock_expired isLatest now
  | lifecycle event now => exact latestBlock_expired isLatest now
  | _ => exact ⟨block.record.intention, isLatest⟩

theorem accepted_latest (isLatest : manager.store.latestBlock = some block) :
    (manager.accepted block.blockId dwell).store.latestBlock =
      some ((BlockUpdate.accepting manager.surroundings dwell).apply block) := by
  have last : manager.store.blocks.getLast? = some block := isLatest
  simp [accepted, updated, WorkBlockStore.latestBlock, last, BlockUpdate.only]

end WorkBlockManager

theorem SameRecord.accepted {first second : WorkBlockManager}
    (same : SameRecord first second) (blockId : Uuid) (dwell : Dwell) :
    SameRecord (first.accepted blockId dwell) (second.accepted blockId dwell) := by
  have updated := same.updated blockId (.accepting first.surroundings dwell)
  rw [WorkBlockManager.accepted, WorkBlockManager.accepted, same.surroundings]
  exact updated

namespace WorkBlock

variable {block : WorkBlock} {dwell : Dwell}

theorem Running.accepting (running : block.Running dwell.occurredAt) (surroundings : Surroundings) :
    ((BlockUpdate.accepting surroundings dwell).apply block).Running dwell.occurredAt := by
  obtain ⟨updatedAt, kept, reached, isRecord⟩ :=
    BlockUpdate.accepting_record surroundings dwell block
  have timeLeft := running.timeLeft
  rw [elapsedAt_active _ running.active] at timeLeft
  have stillActive : ((BlockUpdate.accepting surroundings dwell).apply block).record.phase =
      .active := by
    rw [isRecord]
    exact running.active
  refine ⟨stillActive, ?_⟩
  have counted : max (timestamp dwell.occurredAt) updatedAt =
      max (timestamp dwell.occurredAt) block.record.updatedAt := by
    omega
  rw [elapsedAt_active _ stillActive, isRecord]
  simpa only [WorkBlockRecord.spentBy, counted] using timeLeft

theorem Due.accepting {now : Int} (due : block.Due now) (surroundings : Surroundings)
    (dwell : Dwell) :
    ((BlockUpdate.accepting surroundings dwell).apply block).Due now := by
  obtain ⟨updatedAt, kept, -, isRecord⟩ :=
    BlockUpdate.accepting_record surroundings dwell block
  have spent := due.2
  rw [elapsedAt_active _ due.1] at spent
  have stillActive : ((BlockUpdate.accepting surroundings dwell).apply block).record.phase =
      .active := by
    rw [isRecord]
    exact due.1
  refine ⟨stillActive, ?_⟩
  rw [elapsedAt_active _ stillActive, isRecord]
  simp only [WorkBlockRecord.spentBy] at spent ⊢
  omega

theorem Running.awaits (running : block.Running dwell.occurredAt) (surroundings : Surroundings)
    (ordered : ((BlockUpdate.accepting surroundings dwell).apply block).Ordered) :
    ((BlockUpdate.accepting surroundings dwell).apply block).Awaits dwell := by
  refine ⟨running.accepting surroundings, ?_⟩
  by_cases already : block.holdsOpen dwell = true
  · simpa only [BlockUpdate.accepting, if_pos already] using already
  · have rows : ((BlockUpdate.accepting surroundings dwell).apply block).observationRows =
        block.observationRows.map (BlockUpdate.closeRow
          (timestamp (block.clampedInstant dwell.occurredAt))) ++
          [(reportedObservation block dwell.category dwell.status dwell.confidence
            dwell.occurredAt).stored] := by
      simp only [BlockUpdate.accepting, if_neg already, BlockUpdate.reporting]
      split <;> simp [reportedObservation]
    rw [holdsOpen, ordered.latestObservation, rows, List.getLast?_concat]
    simp [reportedObservation, sameEvidence]

theorem Awaits.of_advance {surroundings : Surroundings} {op : Operation} {after : WorkBlock}
    (awaits : block.Awaits dwell) (accounted : block.Accounted)
    (noReport : op.isReport = false) (noBoundary : op.isBoundary = false) (advance : Advance surroundings op block after) :
    after.Awaits dwell ∨ after.phase.isLive = false := by
  have isActive := awaits.running.active
  cases advance with
  | unchanged => exact Or.inl awaits
  | cardSeen => exact Or.inl ⟨⟨isActive, awaits.running.timeLeft⟩, awaits.holdsOpen⟩
  | replied => exact Or.inl ⟨⟨isActive, awaits.running.timeLeft⟩, awaits.holdsOpen⟩
  | paused running isPause =>
    cases op with
    | lifecycle event now => cases event <;> simp_all [Operation.isPause, Operation.isBoundary]
    | _ => simp_all [Operation.isPause, Operation.isBoundary]
  | resumed now pausedAt isResume =>
    subst isResume
    cases noBoundary
  | recovered now isRestart =>
    subst isRestart
    cases noBoundary
  | recoveredPaused now isRestart =>
    subst isRestart
    cases noBoundary
  | continued _ _ _ _ _ isReport =>
    subst isReport
    cases noReport
  | judged _ _ _ _ _ isReport =>
    subst isReport
    cases noReport
  | finished phase endedAt live ends =>
    refine Or.inr ?_
    rw [BlockUpdate.finishing_apply _ _ _ live (accounted.noResult live)]
    exact WorkBlockPhase.not_live_of_terminal ends.terminal

end WorkBlock

namespace WorkBlockManager

variable {manager : WorkBlockManager} {block : WorkBlock} {dwell : Dwell}

theorem next_report (isLatest : manager.store.latestBlock = some block)
    (running : block.Running dwell.occurredAt) (receivedAt : Int) :
    SameRecord (manager.accepted block.blockId dwell)
      (managerMachine.next manager (dwell.report receivedAt)) := by
  have found := block_of_latestBlock isLatest
  have isActive : block.record.phase = .active := running.active
  have notSpent : ¬ block.record.plannedDurationSeconds ≤
      block.record.elapsedAt (timestamp dwell.occurredAt) := not_le.mpr running.timeLeft
  have performs : (dwell.report receivedAt).perform = .observed <$>
      observeSafeCategory dwell.category dwell.status dwell.confidence
        dwell.occurredAt := rfl
  rw [next_of_perform performs]
  by_cases already : block.holdsOpen dwell = true
  · have unchanged : manager.accepted block.blockId dwell = manager :=
      updated_eq_self found (if_pos already)
    have repeats : (block.latestObservation.any fun latest =>
        latest.endedAt.isNone && sameEvidence dwell.category dwell.status dwell.confidence
          latest) = true := already
    have answers : observeSafeCategory dwell.category dwell.status dwell.confidence
        dwell.occurredAt manager = (.ok none, manager) := by
      simp only [observeSafeCategory, ManagerM.bind_apply, ManagerM.query_apply,
        ManagerM.ite_apply, latest_eq isLatest, Option.map_some]
      simp [isActive, notSpent, latestObservation_of_block found, repeats]
    rw [unchanged, answers]
    exact SameRecord.refl manager
  · obtain ⟨notification, before, same, answers⟩ :=
      observe_running_spec dwell.category dwell.status dwell.confidence dwell.occurredAt
        isLatest running already
    obtain ⟨snapshot, next, runs, sameNext, -, -⟩ :=
      snapshotFor_spec block.record.loaded (block.clampedInstant dwell.occurredAt) before
    rw [answers snapshot next runs, accepted, updated_congr found (if_neg already)]
    exact same.trans sameNext

theorem next_report_due (accounted : ∀ block ∈ manager.store.blocks, block.Accounted)
    (isLatest : manager.store.latestBlock = some block) (due : block.Due dwell.occurredAt)
    (receivedAt : Int) :
    (managerMachine.next manager (dwell.report receivedAt)).HasEnded block.blockId := by
  have isActive : block.record.phase = .active := due.1
  have isSpent : block.record.plannedDurationSeconds ≤
      block.record.elapsedAt (timestamp dwell.occurredAt) := due.2
  obtain ⟨snapshot, next, runs, ended⟩ :=
    finish_ended .completed rfl (fromTimestamp block.record.deadline)
      (block_of_latestBlock isLatest)
      (accounted block (mem_of_getLast? isLatest))
      (by simp [due.1, WorkBlockPhase.isLive])
  have performs : (dwell.report receivedAt).perform = .observed <$>
      observeSafeCategory dwell.category dwell.status dwell.confidence
        dwell.occurredAt := rfl
  have answers : observeSafeCategory dwell.category dwell.status dwell.confidence
      dwell.occurredAt manager = (.ok (some ⟨snapshot, none⟩), next) := by
    simp [observeSafeCategory, latest_eq isLatest, isActive, isSpent, runs]
  rw [next_of_perform performs, answers]
  exact ended

variable {blockId : Uuid}

/-- Quiet operations commute with the report of a dwell that is in progress. -/
theorem accepted_run {early : List Operation} (quiet : ∀ op ∈ early, op.isQuiet = true)
    {full : WorkBlockManager} (owned : manager.Owned) (fullOwned : full.Owned)
    (same : SameRecord (manager.accepted blockId dwell) full)
    (isLatest : manager.store.latestBlock = some block) (isBlock : block.blockId = blockId)
    (running : block.Running dwell.occurredAt)
    (survives : ¬ (managerMachine.run full early).HasEnded blockId) :
    ∃ after, (managerMachine.run manager early).store.latestBlock = some after ∧
      after.blockId = blockId ∧ after.Running dwell.occurredAt ∧
      SameRecord ((managerMachine.run manager early).accepted blockId dwell)
        (managerMachine.run full early) := by
  induction early generalizing manager full block with
  | nil => exact ⟨block, isLatest, isBlock, running, same⟩
  | cons op ops ih =>
    have opQuiet := quiet op mem_cons_self
    set accepting := (BlockUpdate.accepting manager.surroundings dwell).apply block
      with accepting_def
    have acceptedLatest : (manager.accepted blockId dwell).store.latestBlock =
        some accepting := isBlock ▸ accepted_latest isLatest
    have fullLatest : full.store.latestBlock = some accepting := by
      rw [WorkBlockStore.latestBlock, same.blocks]
      exact acceptedLatest
    have fullUndue (asks : op.asksState = true) : ¬ accepting.Due op.reading := by
      intro due
      have ended := next_ended asks fullOwned.accounted fullLatest due
      rw [accepting_def, BlockUpdate.keepsId, isBlock] at ended
      exact survives (ended.run (fullOwned.next op) ops)
    have acceptedQuiet : SameRecord (op.quieted (manager.accepted blockId dwell))
        (managerMachine.next (manager.accepted blockId dwell) op) :=
      next_quiet opQuiet fun asks other otherLatest => by
        obtain rfl := Option.some.inj (acceptedLatest.symm.trans otherLatest)
        exact fullUndue asks
    have nextQuiet : SameRecord (op.quieted manager) (managerMachine.next manager op) :=
      next_quiet opQuiet fun asks other otherLatest due => by
        obtain rfl := Option.some.inj (isLatest.symm.trans otherLatest)
        exact fullUndue asks (due.accepting _ _)
    rw [quieted_accepted] at acceptedQuiet
    have sameNext : SameRecord ((managerMachine.next manager op).accepted blockId dwell)
        (managerMachine.next full op) :=
      ((nextQuiet.accepted blockId dwell).symm.trans acceptedQuiet).trans (same.next op)
    obtain ⟨intention, quietedLatest⟩ := quieted_latest op isLatest
    have nextLatest : (managerMachine.next manager op).store.latestBlock =
        some (block.withIntention intention) := by
      rw [WorkBlockStore.latestBlock, nextQuiet.blocks]
      exact quietedLatest
    have stillRunning : (block.withIntention intention).Running dwell.occurredAt :=
      ⟨running.active, running.timeLeft⟩
    exact ih (fun later member => quiet later (mem_cons_of_mem _ member))
      (owned.next op) (fullOwned.next op) sameNext nextLatest isBlock stillRunning survives

theorem Owned.awaits_run (owned : manager.Owned) {ops : List Operation}
    (noReport : ∀ op ∈ ops, op.isReport = false)
    (noBoundary : ∀ op ∈ ops, op.isBoundary = false)
    (found : manager.store.block blockId = some block) (awaits : block.Awaits dwell) :
    (∃ after, (managerMachine.run manager ops).store.block blockId = some after ∧
      after.Awaits dwell) ∨ (managerMachine.run manager ops).HasEnded blockId := by
  induction ops generalizing manager block with
  | nil => exact Or.inl ⟨block, found, awaits⟩
  | cons op ops ih =>
    obtain ⟨next, intention, nextFound, advance⟩ := block_step op owned.accounted found
    have waiting : (block.withIntention intention).Awaits dwell :=
      ⟨⟨awaits.running.active, awaits.running.timeLeft⟩, awaits.holdsOpen⟩
    have accounted : (block.withIntention intention).Accounted :=
      owned.accounted block (mem_of_block found)
    rcases waiting.of_advance accounted (noReport op mem_cons_self)
        (noBoundary op mem_cons_self) advance with stillWaiting | notLive
    · exact ih (owned.next op) (fun later member => noReport later (mem_cons_of_mem _ member))
        (fun later member => noBoundary later (mem_cons_of_mem _ member)) nextFound
        stillWaiting
    · have ended : (managerMachine.next manager op).HasEnded blockId :=
        ⟨next, nextFound, notLive⟩
      exact Or.inr (ended.run (owned.next op) ops)

theorem isActive_iff : manager.isActive blockId = true ↔
      ∃ block, manager.store.block blockId = some block ∧ block.phase = .active := by
  simp [isActive, Option.any_eq_true]

/-- Of two reports of one dwell the earlier one can be left out. -/
theorem InOrder.reported_twice (inOrder : manager.InOrder) {early late : List Operation}
    (quiet : ∀ op ∈ early, op.isQuiet = true) (noReport : ∀ op ∈ late, op.isReport = false)
    (noBoundary : ∀ op ∈ late, op.isBoundary = false)
    {begunAt : Int} (begins : manager.isActive blockId = true)
    (closes : (managerMachine.run manager (dwell.report begunAt :: early ++ late)).isActive
      blockId = true) (closedAt : Int) :
    SameRecord (managerMachine.run manager
        (dwell.report begunAt :: early ++ late ++ [dwell.report closedAt]))
      (managerMachine.run manager (early ++ dwell.report closedAt :: late)) := by
  have owned := inOrder.owned
  set begun := managerMachine.next manager (dwell.report begunAt) with begun_def
  set reached := managerMachine.run begun (early ++ late) with reached_def
  have begunOwned : begun.Owned := owned.next _
  have reachedOwned : reached.Owned := begunOwned.run _
  have reachedActive : reached.isActive blockId = true := closes
  have alive (ops : List Operation) (isPrefix : ∃ rest, early ++ late = ops ++ rest) :
      ¬ (managerMachine.run begun ops).HasEnded blockId := by
    obtain ⟨rest, split⟩ := isPrefix
    intro ended
    have reachedEnded := ended.run (begunOwned.run ops) rest
    rw [← Machine.run_append, ← split] at reachedEnded
    have notActive := reachedEnded.not_isActive
    rw [reachedActive] at notActive
    cases notActive
  obtain ⟨block, found, active⟩ := isActive_iff.mp begins
  obtain rfl := blockId_of_block found
  have isLatest := owned.latest block (mem_of_block found) (by simp [active, WorkBlockPhase.isLive])
  have running : block.Running dwell.occurredAt := by
    refine ⟨active, not_le.mp fun spent => ?_⟩
    exact alive [] ⟨_, rfl⟩ (next_report_due owned.accounted isLatest ⟨active, spent⟩ begunAt)
  have sameBegun : SameRecord (manager.accepted block.blockId dwell) begun :=
    next_report isLatest running begunAt
  -- The closed report is judged in the place of the report in progress.
  obtain ⟨after, afterLatest, isBlock, afterRunning, sameEarly⟩ :=
    accepted_run quiet owned begunOwned sameBegun isLatest rfl running (alive early ⟨_, rfl⟩)
  have sameClosed := next_report afterLatest afterRunning closedAt
  rw [isBlock] at sameClosed
  have sameLate := (sameEarly.symm.trans sameClosed).run late
  -- The second report finds its row open.
  have begunFound : begun.store.block block.blockId =
      some ((BlockUpdate.accepting manager.surroundings dwell).apply block) := by
    rw [sameBegun.block]
    exact block_updated _ found
  have keeps : manager.KeepsOrder (dwell.report begunAt) := fun _ _ => trivial
  have ordered := ((inOrder.next keeps).orderly _ (mem_of_block begunFound)).ordered
  have betweenReport (op : Operation) (member : op ∈ early ++ late) : op.isReport = false := by
    rcases mem_append.mp member with isEarly | isLate
    · have isQuiet := quiet op isEarly
      cases op <;> first | rfl | cases isQuiet
    · exact noReport op isLate
  have betweenBoundary (op : Operation) (member : op ∈ early ++ late) :
      op.isBoundary = false := by
    rcases mem_append.mp member with isEarly | isLate
    · have isQuiet := quiet op isEarly
      cases op with
      | lifecycle event now => cases event <;> first | rfl | cases isQuiet
      | _ => first | rfl | cases isQuiet
    · exact noBoundary op isLate
  have repeats : SameRecord reached (managerMachine.next reached (dwell.report closedAt)) := by
    rcases begunOwned.awaits_run betweenReport betweenBoundary begunFound
        (running.awaits _ ordered) with ⟨last, lastFound, awaits⟩ | ended
    · have lastLatest := reachedOwned.latest last (mem_of_block lastFound) awaits.running.live
      have sameLast := next_report lastLatest awaits.running closedAt
      have unchanged : reached.accepted last.blockId dwell = reached :=
        updated_eq_self (block_of_latestBlock lastLatest) (if_pos awaits.holdsOpen)
      rwa [unchanged] at sameLast
    · exact absurd ended (alive (early ++ late) ⟨[], by simp⟩)
  have whole : managerMachine.run manager
      (dwell.report begunAt :: early ++ late ++ [dwell.report closedAt]) =
        managerMachine.next reached (dwell.report closedAt) := by
    simp [reached_def, begun_def]
  have sameReached : SameRecord reached
      (managerMachine.run manager (early ++ dwell.report closedAt :: late)) := by
    simpa [reached_def] using sameLate
  rw [whole]
  exact repeats.symm.trans sameReached

end WorkBlockManager

/-- A run in which any of the dwells are reported in progress as well, and the run of
the client that sends the closed reports only.  Both reports of a dwell reach one active
block, with no boundary and no other dwell's report between them.  The dwell is judged
where its first report stands: in the second run the closed report comes before every
answer, and every change of the focus or the demotion state, that in the first run
follows the report in progress. -/
inductive ClosedOnly : WorkBlockManager → List Operation → List Operation → Prop
  | done {manager : WorkBlockManager} : ClosedOnly manager [] []
  | same {manager : WorkBlockManager} {op : Operation} {full closed : List Operation}
      (rest : ClosedOnly (managerMachine.next manager op) full closed) :
      ClosedOnly manager (op :: full) (op :: closed)
  | twice {manager : WorkBlockManager} (dwell : Dwell) (blockId : Uuid)
      (begunAt closedAt : Int) (early late : List Operation) {full closed : List Operation}
      (quiet : ∀ op ∈ early, op.isQuiet = true)
      (noReport : ∀ op ∈ late, op.isReport = false)
      (noBoundary : ∀ op ∈ late, op.isBoundary = false)
      (begins : manager.isActive blockId = true)
      (closes : (managerMachine.run manager
        (dwell.report begunAt :: early ++ late)).isActive blockId = true)
      (rest : ClosedOnly (managerMachine.run manager
        (dwell.report begunAt :: early ++ late ++ [dwell.report closedAt])) full closed) :
      ClosedOnly manager
        (dwell.report begunAt :: early ++ late ++ dwell.report closedAt :: full)
        (early ++ dwell.report closedAt :: late ++ closed)

theorem ClosedOnly.sameRecord {manager : WorkBlockManager} {full closed : List Operation}
    (closedOnly : ClosedOnly manager full closed) (inOrder : manager.InOrder)
    (keepsOrder : managerMachine.Meets WorkBlockManager.KeepsOrder manager full)
    {other : WorkBlockManager} (same : SameRecord manager other) :
    SameRecord (managerMachine.run manager full) (managerMachine.run other closed) := by
  induction closedOnly generalizing other with
  | done => exact same
  | same rest ih => exact ih (inOrder.next keepsOrder.1) keepsOrder.2 (same.next _)
  | @twice manager dwell blockId begunAt closedAt early late full closed quiet noReport
      noBoundary begins closes rest ih =>
      have split : dwell.report begunAt :: early ++ late ++ dwell.report closedAt :: full =
          (dwell.report begunAt :: early ++ late ++ [dwell.report closedAt]) ++ full := by
        simp
      rw [split, managerMachine.meets_append] at keepsOrder
      have sameDwell := inOrder.reported_twice quiet noReport noBoundary begins closes closedAt
      have sameOther := sameDwell.trans (same.run (early ++ dwell.report closedAt :: late))
      rw [split, Machine.run_append _ _ (_ ++ [_]), Machine.run_append _ _ _ closed]
      exact ih (inOrder.run keepsOrder.1) keepsOrder.2 sameOther

/-- Reporting dwells in progress as well leaves the rows, the decisions and the offers
of a client that sends the closed reports only, in every run whose restarts of a live
block read a clock no earlier than any row of its ledger. -/
theorem in_progress_reports_refine_closed_ones (focus : Option (Int → Bool))
    (demotionRow : Option (DemotionStateRecord .seconds)) (rawEvents : List RawEventRow)
    (full closed : List Operation)
    (closedOnly : ClosedOnly (WorkBlockManager.opened focus demotionRow rawEvents) full
      closed)
    (keepsOrder : managerMachine.Meets WorkBlockManager.KeepsOrder
      (WorkBlockManager.opened focus demotionRow rawEvents) full) :
    (managerMachine.run (WorkBlockManager.opened focus demotionRow rawEvents)
        closed).store.blocks =
      (managerMachine.run (WorkBlockManager.opened focus demotionRow rawEvents)
        full).store.blocks :=
  (closedOnly.sameRecord (WorkBlockManager.inOrder_opened focus demotionRow rawEvents)
    keepsOrder (SameRecord.refl _)).blocks

/-- A restart whose clock has stepped back behind the last row: the row of the next
dwell is sorted before it, so the closed report does not find that row and opens, and
judges, another one. -/
theorem restart_behind_the_ledger_judges_twice :
    let before : List Operation :=
      [.start ⟨none, 1800, none, .medium⟩ 1 0, .pause 1 (Duration.seconds 100),
        .resume 1 (Duration.seconds 200),
        .observeSafeCategory "mail" .classified .high (Duration.seconds 90)
          (Duration.seconds 210),
        .recoverAfterRestart (Duration.seconds 150)]
    let dwell : Dwell := ⟨"editor", .classified, .high, Duration.seconds 160⟩
    let begun := dwell.report (Duration.seconds 160)
    let closed := dwell.report (Duration.seconds 190)
    let opened := WorkBlockManager.opened none none []
    ClosedOnly opened (before ++ [begun, closed]) (before ++ [closed]) ∧
      (managerMachine.run opened (before ++ [begun, closed])).store.blocks.map (fun block =>
          (block.observationRows.length, block.decisionRows.length)) = [(3, 3)] ∧
      (managerMachine.run opened (before ++ [closed])).store.blocks.map (fun block =>
          (block.observationRows.length, block.decisionRows.length)) = [(2, 2)] := by
  refine ⟨?_, by decide +kernel, by decide +kernel⟩
  refine .same (.same (.same (.same (.same ?_))))
  exact .twice ⟨"editor", .classified, .high, Duration.seconds 160⟩ 1 (Duration.seconds 160)
    (Duration.seconds 190) [] [] (by simp) (by simp) (by simp) (by decide +kernel)
    (by decide +kernel) .done

/-- A dwell reported twice around a request for the state, and a restart in time. -/
theorem dwell_reported_twice_before_a_restart :
    let before : List Operation := [.start ⟨none, 1800, none, .medium⟩ 1 0]
    let dwell : Dwell := ⟨"editor", .classified, .high, Duration.seconds 160⟩
    let begun := dwell.report (Duration.seconds 160)
    let asks : Operation := .requestState (Duration.seconds 170)
    let closed := dwell.report (Duration.seconds 190)
    let restart : Operation := .recoverAfterRestart (Duration.seconds 200)
    let opened := WorkBlockManager.opened none none []
    (managerMachine.run opened (before ++ [asks, closed, restart])).store.blocks =
      (managerMachine.run opened (before ++ [begun, asks, closed, restart])).store.blocks := by
  refine in_progress_reports_refine_closed_ones none none [] _ _ (.same ?_) ?_
  · exact .twice ⟨"editor", .classified, .high, Duration.seconds 160⟩ 1
      (Duration.seconds 160) (Duration.seconds 190) [.requestState (Duration.seconds 170)] []
      (by simp [Operation.isQuiet]) (by simp) (by simp) (by decide +kernel)
      (by decide +kernel) (.same .done)
  · refine ⟨fun _ _ => trivial, fun _ _ => trivial, fun _ _ => trivial, fun _ _ => trivial,
      ?_, trivial⟩
    intro block member live row isRow
    have inTime : (managerMachine.run (WorkBlockManager.opened none none [])
        [.start ⟨none, 1800, none, .medium⟩ 1 0,
          .observeSafeCategory "editor" .classified .high (Duration.seconds 160)
            (Duration.seconds 160),
          .requestState (Duration.seconds 170),
          .observeSafeCategory "editor" .classified .high (Duration.seconds 160)
            (Duration.seconds 190)]).store.blocks.all (fun block =>
              block.observationRows.all fun row =>
                decide (row.occurredAt ≤ timestamp (Duration.seconds 200))) = true := by
      decide +kernel
    have rows := all_eq_true.mp inTime block member
    exact of_decide_eq_true (all_eq_true.mp rows row isRow)

end Velvt
