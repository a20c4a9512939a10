import Velvt.WorkBlockSpecs

/-!
# Every operation is an advance

`managerMachine_stepped` says once what a step of the manager can do, so that later files never
unfold an operation again.
-/

namespace Velvt

open BlockUpdate WorkBlockStore WorkBlockManager WorkBlockRecord ManagerM

theorem BlockUpdate.markInterventionCardSeen_eq_self {block : WorkBlock} (now : Int)
    (noOffer : block.interventionRow = none) :
    (BlockUpdate.markInterventionCardSeen now).apply block = block := by
  have rows : block.interventionRow.map (BlockUpdate.seeCard (timestamp now)) =
      block.interventionRow := by simp [noOffer]
  simp only [BlockUpdate.markInterventionCardSeen, rows]

theorem ShownBy.of_portrays {block : WorkBlock} {now : Int} {snapshot : WorkBlockSnapshot}
    (portrays : Portrays block.record.loaded now block.resultRow snapshot) :
    block.ShownBy (timestamp now) snapshot :=
  ⟨portrays.blockId, portrays.phase, portrays.planned,
    by rw [portrays.elapsed, elapsedSeconds_loaded],
    by rw [portrays.remaining, elapsedSeconds_loaded]; rfl,
    portrays.result⟩

/-- A step that leaves everything but the blocks, the published deadline and the
remembered demotion state alone, and creates no block. -/
structure BlocksStep (manager : WorkBlockManager) (op : Operation)
    (reported : Option WorkBlockSnapshot) (next : WorkBlockManager) : Prop where
  advances : Advances manager op next.store.blocks
  rawEventBuffer : next.store.rawEventBuffer = manager.store.rawEventBuffer
  focus : next.focus = manager.focus
  manualResetAt : next.store.manualResetAt = manager.store.manualResetAt
  reports : ∀ snapshot ∈ reported, Reports manager next op snapshot

namespace BlocksStep

variable {manager next : WorkBlockManager} {op : Operation} {block : WorkBlock}
  {snapshot : WorkBlockSnapshot}

theorem advances_self : Advances manager op manager.store.blocks :=
  ⟨⟨id, fun _ => rfl⟩, by simp, fun block _ => ⟨block.record.intention, .unchanged⟩⟩

theorem advances_updated (update : BlockUpdate)
    (found : manager.store.block block.blockId = some block)
    (advance : Advance manager.surroundings op block (update.apply block)) :
    Advances manager op (manager.updated block.blockId update).store.blocks := by
  refine ⟨update.only block.blockId, rfl, fun other member => ?_⟩
  refine ⟨other.record.intention, ?_⟩
  by_cases same : other.blockId = block.blockId
  · rw [eq_of_found found member same]
    simpa [BlockUpdate.only, WorkBlock.withIntention] using advance
  · simpa [BlockUpdate.only, same, WorkBlock.withIntention] using Advance.unchanged

theorem refused : BlocksStep manager op none manager :=
  ⟨advances_self, rfl, rfl, rfl, by simp⟩

theorem updated (update : BlockUpdate) (found : manager.store.block block.blockId = some block)
    (advance : Advance manager.surroundings op block (update.apply block))
    (same : SameRecord (manager.updated block.blockId update) next) {second : Int}
    (shown : (update.apply block).ShownBy second snapshot)
    (silent : snapshot.activeIntervention.isSome = true → ∃ instant, ActsAt manager op instant ∧
        (manager.updated block.blockId update).store.demotionVerdict instant = .active) :
    BlocksStep manager op (some snapshot) next where
  advances := same.blocks ▸ advances_updated update found advance
  rawEventBuffer := same.rawEventBuffer
  focus := same.focus
  manualResetAt := same.manualResetAt
  reports := by
    rintro _ ⟨⟩
    have member : update.apply block ∈ next.store.blocks := by
      rw [same.blocks]
      exact mem_of_block (block_updated update found)
    have verdict : next.store.demotionVerdict =
        (manager.updated block.blockId update).store.demotionVerdict :=
      congrArg Surroundings.demotion same.surroundings
    exact ⟨Or.inr ⟨_, member, second, shown⟩, fun active => by
      rw [verdict]
      exact silent active⟩

/-- Such a step to the state after a program, which reports the snapshot that it answers with. -/
abbrev To (manager : WorkBlockManager) (op : Operation)
    (outcome : Except WorkBlockError WorkBlockSnapshot × WorkBlockManager) : Prop :=
  BlocksStep manager op outcome.1.toOption outcome.2

theorem of_answer {outcome : Except WorkBlockError WorkBlockSnapshot × WorkBlockManager}
    (step : BlocksStep manager op (some snapshot) next) (answers : outcome = (.ok snapshot, next)) :
    To manager op outcome := by
  rw [answers]
  exact step

theorem of_failed {error : WorkBlockError}
    {outcome : Except WorkBlockError WorkBlockSnapshot × WorkBlockManager}
    (fails : outcome = (.error error, manager)) : To manager op outcome := by
  rw [fails]
  exact refused

end BlocksStep

section Operations

variable {manager : WorkBlockManager} {op : Operation} {block : WorkBlock}

theorem WorkBlock.Accounted.noResult (accounted : block.Accounted)
    (live : block.phase.isLive = true) : block.resultRow = none := by
  rcases accounted with running | ended
  · exact running.2
  · cases phase : block.phase <;> simp_all [WorkBlockPhase.isLive, WorkBlockPhase.isTerminal]

theorem WorkBlock.Running.live {now : Int} (running : block.Running now) :
    block.phase.isLive = true := by
  simp [running.active, WorkBlockPhase.isLive]

theorem finish_step {phase : WorkBlockPhase} {endedAt : Int}
    (found : manager.store.block block.blockId = some block)
    (accounted : block.Accounted) (live : block.phase.isLive = true)
    (ends : block.Ends op phase endedAt) :
    ∃ snapshot next, finish block.record.loaded phase endedAt manager = (.ok snapshot, next) ∧
      BlocksStep manager op (some snapshot) next := by
  obtain ⟨snapshot, next, runs, same, portrays, active⟩ :=
    finish_spec phase endedAt found live (accounted.noResult live)
  exact ⟨snapshot, next, runs, BlocksStep.updated _ found (.finished phase endedAt live ends)
    same (ShownBy.of_portrays portrays) (by simp [active])⟩

variable {blockId : Uuid}

theorem result_of_block (found : manager.store.block blockId = some block) :
    manager.store.result blockId = block.resultRow := by
  simp [WorkBlockStore.result, found]

theorem getBlock_updated (update : BlockUpdate) (deadline : Option Int)
    (found : manager.store.block block.blockId = some block) :
    getBlock block.blockId { manager.updated block.blockId update with deadline := deadline } =
      (.ok (update.apply block).record.loaded,
        { manager.updated block.blockId update with deadline := deadline }) :=
  getBlock_spec (block_updated update found)

theorem show_record_step (update : BlockUpdate) (record : WorkBlockRecord .nanoseconds)
    {instant : Int} {before : WorkBlockManager}
    (found : manager.store.block block.blockId = some block)
    (advance : Advance manager.surroundings op block (update.apply block))
    (same : SameRecord (manager.updated block.blockId update) before)
    (sameId : record.blockId = block.blockId) (portrayed : ∀ snapshot,
      Portrays record instant (update.apply block).resultRow snapshot →
        ∃ second, (update.apply block).ShownBy second snapshot)
    (acts : ActsAt manager op instant) :
    ∃ snapshot next, snapshotFor record instant before = (.ok snapshot, next) ∧
      BlocksStep manager op (some snapshot) next := by
  obtain ⟨snapshot, next, runs, sameAfter, portrays, active⟩ :=
    snapshotFor_spec record instant before
  have updated : before.store.block block.blockId = some (update.apply block) :=
    (same.block _).trans (block_updated update found)
  rw [sameId, result_of_block updated] at portrays
  obtain ⟨second, shown⟩ := portrayed snapshot portrays
  have verdict : before.store.demotionVerdict =
      (manager.updated block.blockId update).store.demotionVerdict :=
    congrArg Surroundings.demotion same.surroundings
  exact ⟨snapshot, next, runs, BlocksStep.updated update found advance (same.trans sameAfter) shown
      fun isActive => ⟨instant, acts, verdict ▸ (active isActive).1⟩⟩

theorem show_updated_step (update : BlockUpdate) {instant : Int} (deadline : Option Int)
    (found : manager.store.block block.blockId = some block)
    (advance : Advance manager.surroundings op block (update.apply block))
    (acts : ActsAt manager op instant) :
    ∃ snapshot next, snapshotFor (update.apply block).record.loaded instant
        { manager.updated block.blockId update with deadline := deadline } = (.ok snapshot, next) ∧
      BlocksStep manager op (some snapshot) next :=
  show_record_step update _ found advance (SameRecord.publish _ deadline)
    (update.keepsId block) (fun _ portrays => ⟨_, ShownBy.of_portrays portrays⟩) acts

theorem show_block_step {instant : Int} (found : manager.store.block block.blockId = some block)
    (acts : ActsAt manager op instant) :
    ∃ snapshot next, snapshotFor block.record.loaded instant manager = (.ok snapshot, next) ∧
      BlocksStep manager op (some snapshot) next := by
  obtain ⟨snapshot, next, runs, step⟩ :=
    show_updated_step ⟨id, fun _ => rfl⟩ manager.deadline found .unchanged acts
  rw [updated_eq_self found rfl] at runs
  exact ⟨snapshot, next, runs, step⟩

theorem setPaused_spec (instant : Int)
    (found : manager.store.block blockId = some block) (active : block.phase = .active) :
    setPaused blockId instant manager = (.ok (), manager.updated blockId (.setPaused instant)) :=
  updateWorkBlock_spec _ _ found (by simp [active])

theorem setActive_spec (instant : Int) (total : Nat)
    (found : manager.store.block blockId = some block) (paused : block.phase = .paused) :
    setActive blockId instant total manager =
      (.ok (), manager.updated blockId (.setActive instant total)) :=
  updateWorkBlock_spec _ _ found (by simp [paused])

theorem markRecovered_spec (instant : Int)
    (found : manager.store.block blockId = some block) (live : block.phase.isLive = true) :
    markRecovered blockId instant manager =
      (.ok (), manager.updated blockId (.markRecovered instant)) :=
  updateWorkBlock_spec _ _ found live

theorem require_spec {phase : WorkBlockPhase}
    (found : manager.store.block blockId = some block) (isPhase : block.phase = phase) :
    require blockId phase manager = (.ok block.record.loaded, manager) := by
  simp [require, getBlock_spec found, isPhase]

theorem require_fails (blockId : Uuid) (phase : WorkBlockPhase)
    (other : ∀ block, manager.store.block blockId = some block → block.phase ≠ phase) :
    ∃ error, require blockId phase manager = (.error error, manager) := by
  cases found : manager.store.block blockId with
  | none => exact ⟨.persistence, by simp [require, getBlock, found]⟩
  | some block =>
    exact ⟨.invalidTransition, by
      simp [require, getBlock_spec found, other block found]⟩

theorem clampedInstant_loaded (block : WorkBlock) (now : Int) :
    min (effectiveNow block.record.loaded now) (plannedDeadline block.record.loaded) =
      block.clampedInstant now := by
  simp [WorkBlock.clampedInstant]

theorem pause_step (blockId : Uuid) (now : Int)
    (accounted : ∀ block ∈ manager.store.blocks, block.Accounted)
    (isNow : op.instant = now) (isPause : op.isPause = true) :
    BlocksStep.To manager op (pause blockId now manager) := by
  by_cases running : ∃ block, manager.store.block blockId = some block ∧ block.phase = .active
  · obtain ⟨block, found, active⟩ := running
    obtain rfl := blockId_of_block found
    have requires := require_spec found active
    by_cases spent : block.record.plannedDurationSeconds ≤ block.record.elapsedAt (timestamp now)
    · subst isNow
      obtain ⟨snapshot, next, runs, step⟩ :=
        finish_step found (accounted block (mem_of_block found))
          (by simp [active, WorkBlockPhase.isLive])
          (.deadline .completed active spent (Or.inl rfl))
      apply step.of_answer
      simp [pause, requires, spent, runs]
    · have timeLeft : block.Running now := ⟨active, not_le.mp spent⟩
      subst isNow
      obtain ⟨snapshot, next, runs, step⟩ :=
        show_updated_step (.pausing manager.surroundings (block.clampedInstant op.instant))
          none found (.paused timeLeft isPause)
          (.clamped block (mem_of_block found) timeLeft)
      apply step.of_answer
      have closes := closeOpenObservationAtReportedEnd_spec (block.clampedInstant op.instant) found
      have closed := block_updated (.closeAtReportedEnd
        manager.surroundings (block.clampedInstant op.instant)) found
      have pauses := setPaused_spec (block.clampedInstant op.instant) closed (by simpa using active)
      have together : (BlockUpdate.closeAtReportedEnd manager.surroundings
          (block.clampedInstant op.instant)).andThen
            (.setPaused (block.clampedInstant op.instant)) =
          .pausing manager.surroundings (block.clampedInstant op.instant) := rfl
      simp only [pause, ManagerM.bind_apply, ManagerM.ite_apply, requires,
        WorkBlockRecord.loaded_plannedDurationSeconds,
        WorkBlockRecord.elapsedSeconds_loaded, if_neg spent, clampedInstant_loaded,
        WorkBlockRecord.loaded_blockId, closes, pauses,
        updated_updated, together, publishDeadline_spec,
        getBlock_updated _ none found, runs]
  · obtain ⟨error, fails⟩ := require_fails blockId .active
      (fun block found active => running ⟨block, found, active⟩)
    exact BlocksStep.of_failed (by simp [pause, fails]; rfl)

theorem resume_step (blockId : Uuid) (now : Int) (isResume : op = .resume blockId now) :
    BlocksStep.To manager op (resume blockId now manager) := by
  by_cases holds : ∃ block, manager.store.block blockId = some block ∧ block.phase = .paused
  · obtain ⟨block, found, paused⟩ := holds
    obtain rfl := blockId_of_block found
    have requires := require_spec found paused
    cases since : block.record.pausedAt with
    | none =>
      exact BlocksStep.of_failed (by simp [resume, requires, since]; rfl)
    | some pausedAt =>
      have isNow : op.instant = now := by rw [isResume]; rfl
      set effective := max now (fromTimestamp block.record.updatedAt) with effective_def
      set total := saturatingAdd block.record.totalPausedSeconds
        (positiveSeconds (effective - fromTimestamp pausedAt)) with total_def
      have acts : ActsAt manager op effective := by
        rw [effective_def, ← isNow]
        exact .afterUpdate (by rw [isResume]; rfl) block (mem_of_block found)
      have activates := setActive_spec effective total found paused
      obtain ⟨snapshot, next, runs, step⟩ :=
        show_updated_step (.setActive effective total) (some (plannedDeadline
            ((BlockUpdate.setActive effective total).apply block).record.loaded))
          found (.resumed now pausedAt isResume paused since) acts
      apply step.of_answer
      have reads : getBlock block.blockId
          (manager.updated block.blockId (.setActive effective total)) = _ :=
        getBlock_spec (block_updated _ found)
      simp only [resume, bind_apply, requires, loaded_pausedAt, since, Option.map_some,
        effectiveNow_loaded, loaded_blockId,
        loaded_totalPausedSeconds, ← effective_def, ← total_def,
        activates, reads, publishDeadline_spec, runs]
  · obtain ⟨error, fails⟩ := require_fails blockId .paused
      (fun block found paused => holds ⟨block, found, paused⟩)
    exact BlocksStep.of_failed (by simp [resume, fails]; rfl)

theorem endBlock_step (blockId : Uuid) (now : Int)
    (accounted : ∀ block ∈ manager.store.blocks, block.Accounted)
    (isEnd : op = .endBlock blockId now) :
    BlocksStep.To manager op (endBlock blockId now manager) := by
  have isNow : op.instant = now := by rw [isEnd]; rfl
  cases found : manager.store.block blockId with
  | none => exact BlocksStep.of_failed (by simp [endBlock, getBlock, found]; rfl)
  | some block =>
    obtain rfl := blockId_of_block found
    have blockAccounted := accounted block (mem_of_block found)
    have reads := getBlock_spec found
    by_cases live : block.phase.isLive = true
    · obtain active | paused : block.phase = .active ∨ block.phase = .paused := by
        cases phase : block.phase <;> simp_all [WorkBlockPhase.isLive]
      · by_cases spent : block.record.plannedDurationSeconds ≤
            block.record.elapsedAt (timestamp now)
        · obtain ⟨snapshot, next, runs, step⟩ := finish_step found blockAccounted live
            (.deadline .completed active (isNow ▸ spent) (Or.inl rfl))
          apply step.of_answer
          simp [endBlock, reads, active, spent, WorkBlockPhase.isLive, runs]
        · obtain ⟨snapshot, next, runs, step⟩ := finish_step found blockAccounted live
            (.running now isEnd ⟨active, not_le.mp spent⟩)
          apply step.of_answer
          simp [endBlock, reads, active, spent, WorkBlockPhase.isLive, runs]
      · obtain ⟨snapshot, next, runs, step⟩ := finish_step found blockAccounted live
          (.paused now isEnd paused)
        apply step.of_answer
        simp [endBlock, reads, paused, WorkBlockPhase.isLive, runs]
    · have result := result_of_block found
      cases row : block.resultRow with
      | none =>
        exact BlocksStep.of_failed (by simp [endBlock, reads, live, result, row]; rfl)
      | some payload =>
        obtain ⟨snapshot, next, runs, step⟩ :=
          show_block_step found (isNow ▸ ActsAt.itself (by rw [isEnd]; rfl))
        apply step.of_answer
        rw [← runs]
        simp [endBlock, snapshotFor, reads, live, result, row]

def WorkBlockManager.expired (manager : WorkBlockManager) (now : Int) :
    WorkBlockManager :=
  { manager with store := manager.store.updateBlocks (.expireIntention now) }

theorem expireIntentions_spec (now : Int) :
    expireIntentions now manager = (.ok (), manager.expired now) :=
  rfl

theorem BlockUpdate.expireIntention_apply (now : Int) (block : WorkBlock) : ∃ intention,
      (BlockUpdate.expireIntention now).apply block = block.withIntention intention := by
  simp only [BlockUpdate.expireIntention]
  split
  · exact ⟨none, rfl⟩
  · exact ⟨block.record.intention, rfl⟩

theorem accounted_expired (now : Int)
    (accounted : ∀ block ∈ manager.store.blocks, block.Accounted) :
    ∀ block ∈ (manager.expired now).store.blocks, block.Accounted := by
  intro block member
  obtain ⟨before, beforeMem, rfl⟩ := List.mem_map.mp member
  obtain ⟨intention, same⟩ := expireIntention_apply now before
  rw [same]
  exact accounted before beforeMem

theorem surroundings_expired (now : Int) :
    (manager.expired now).surroundings = manager.surroundings := by
  have rows : (manager.expired now).store.interventionRows =
      manager.store.interventionRows := by
    simp only [WorkBlockStore.interventionRows, WorkBlockManager.expired,
      updateBlocks_blocks, List.filterMap_map]
    apply List.filterMap_congr
    intro block _
    obtain ⟨intention, same⟩ := expireIntention_apply now block
    simp [Function.comp_apply, same, WorkBlock.withIntention]
  have demotion : (manager.expired now).store.demotionVerdict =
      manager.store.demotionVerdict := by
    funext instant
    simp only [WorkBlockStore.demotionVerdict, rows]
    rfl
  have backoff : (manager.expired now).store.backoff = manager.store.backoff := by
    funext instant
    simp only [WorkBlockStore.backoff, rows]
  simp only [WorkBlockManager.surroundings, demotion, backoff]
  rfl

theorem ActsAt.of_expired {now instant : Int}
    (acts : ActsAt (manager.expired now) op instant) : ActsAt manager op instant := by
  cases acts with
  | itself onTime => exact .itself onTime
  | afterUpdate onTime block member =>
    obtain ⟨before, beforeMem, rfl⟩ := List.mem_map.mp member
    obtain ⟨intention, same⟩ := expireIntention_apply now before
    rw [same]
    exact .afterUpdate onTime before beforeMem
  | clamped block member running =>
    obtain ⟨before, beforeMem, rfl⟩ := List.mem_map.mp member
    obtain ⟨intention, same⟩ := expireIntention_apply now before
    rw [same] at running ⊢
    exact .clamped before beforeMem ⟨running.active, running.timeLeft⟩

variable {reported : Option WorkBlockSnapshot} {next : WorkBlockManager}

theorem BlocksStep.of_expired {now : Int}
    (step : BlocksStep (manager.expired now) op reported next) :
    BlocksStep manager op reported next := by
  obtain ⟨⟨update, blocks, each⟩, rawEvents, focus, reset, reports⟩ := step
  refine ⟨⟨(BlockUpdate.expireIntention now).andThen update, ?_, fun block member => ?_⟩,
    rawEvents, focus, reset, fun snapshot isReported => ?_⟩
  · rw [blocks]
    simp [WorkBlockManager.expired, BlockUpdate.andThen, Function.comp_def]
  · obtain ⟨intention, advance⟩ := each _ (List.mem_map_of_mem member)
    obtain ⟨_, same⟩ := expireIntention_apply now block
    rw [surroundings_expired] at advance
    refine ⟨intention, ?_⟩
    have again : ((BlockUpdate.expireIntention now).apply block).withIntention intention =
        block.withIntention intention := by rw [same]; rfl
    rw [again] at advance
    exact advance
  · obtain ⟨shown, silent⟩ := reports snapshot isReported
    refine ⟨shown, fun active => ?_⟩
    obtain ⟨instant, acts, verdict⟩ := silent active
    exact ⟨instant, acts.of_expired, verdict⟩

theorem latest_eq {latest : Option WorkBlock} (isLatest : manager.store.latestBlock = latest) :
    manager.store.latest = latest.map fun block => block.record.loaded := by
  rw [WorkBlockStore.latest, isLatest]

theorem shows_idle : BlocksStep manager op (some idleSnapshot) manager :=
  ⟨BlocksStep.advances_self, rfl, rfl, rfl, by
    rintro _ ⟨⟩
    exact ⟨Or.inl rfl, by simp [idleSnapshot]⟩⟩

theorem requestState_step (now : Int) (accounted : ∀ block ∈ manager.store.blocks, block.Accounted)
    (isNow : op.instant = now) (onTime : op.reading = op.instant) :
    BlocksStep.To manager op (requestState now manager) := by
  have expiredAccounted := accounted_expired now accounted
  set expired := manager.expired now with expired_def
  suffices step : BlocksStep.To expired op (requestState now manager) from step.of_expired
  cases isLatest : expired.store.latestBlock with
  | none =>
    apply shows_idle.of_answer
    simp [requestState, expireIntentions_spec, ← expired_def, latest_eq isLatest]
  | some block =>
    have found := block_of_latestBlock isLatest
    subst isNow
    by_cases due : block.phase = .active ∧ block.record.plannedDurationSeconds ≤
        block.record.elapsedAt (timestamp op.instant)
    · obtain ⟨snapshot, next, runs, step⟩ :=
        finish_step found (expiredAccounted block (mem_of_block found))
          (by simp [due.1, WorkBlockPhase.isLive])
          (.deadline .completed due.1 due.2 (Or.inl rfl))
      apply step.of_answer
      simp [requestState, expireIntentions_spec, ← expired_def,
        latest_eq isLatest, due.1, due.2, runs]
    · obtain ⟨snapshot, next, runs, step⟩ := show_block_step found
        (ActsAt.itself onTime : ActsAt expired op op.instant)
      apply step.of_answer
      simp only [WorkBlock.phase] at due
      simp [requestState, expireIntentions_spec, ← expired_def, latest_eq isLatest, due, runs]

/-- The recovery after a restart, as a step of the blocks. -/
theorem recoverAfterRestart_step (now : Int)
    (accounted : ∀ block ∈ manager.store.blocks, block.Accounted)
    (isRestart : op = .recoverAfterRestart now) :
    BlocksStep.To manager op (recoverAfterRestart now manager) := by
  have isNow : op.instant = now := by rw [isRestart]; rfl
  have expiredAccounted := accounted_expired now accounted
  set expired := manager.expired now with expired_def
  suffices step : BlocksStep.To expired op (recoverAfterRestart now manager) from step.of_expired
  cases isLatest : expired.store.latestBlock with
  | none =>
    apply shows_idle.of_answer
    simp [recoverAfterRestart, expireIntentions_spec, ← expired_def, latest_eq isLatest]
  | some block =>
    have found := block_of_latestBlock isLatest
    have acts : ActsAt expired op now :=
      isNow ▸ ActsAt.itself (by rw [isRestart]; rfl)
    by_cases active : block.phase = .active
    · by_cases spent : block.record.plannedDurationSeconds ≤ block.record.elapsedAt (timestamp now)
      · obtain ⟨snapshot, next, runs, step⟩ :=
          finish_step found (expiredAccounted block (mem_of_block found))
            (by simp [active, WorkBlockPhase.isLive])
            (.deadline .expired active (isNow ▸ spent) (Or.inr rfl))
        apply step.of_answer
        simp [recoverAfterRestart, expireIntentions_spec, ← expired_def,
          latest_eq isLatest, active, spent, runs]
      · have running : block.Running now := ⟨active, not_le.mp spent⟩
        obtain ⟨snapshot, next, runs, step⟩ :=
          show_updated_step (.recovering expired.surroundings now) (some (plannedDeadline
              ((BlockUpdate.recovering expired.surroundings now).apply block).record.loaded))
            found (.recovered now isRestart running) acts
        apply step.of_answer
        have closes := closeOpenObservationAtReportedEnd_spec now found
        have recovers := markRecovered_spec now (block_updated
            (.closeAtReportedEnd expired.surroundings now) found)
          (by simpa using running.live)
        have together : (BlockUpdate.closeAtReportedEnd expired.surroundings now).andThen
              (.markRecovered now) = .recovering expired.surroundings now := rfl
        have reads : getBlock block.blockId (expired.updated block.blockId
              (.recovering expired.surroundings now)) = _ :=
          getBlock_spec (block_updated _ found)
        have recordActive : block.record.phase = .active := active
        simp only [recoverAfterRestart, ManagerM.bind_apply,
          ManagerM.query_apply, ManagerM.ite_apply, expireIntentions_spec,
          ← expired_def, latest_eq isLatest, Option.map_some,
          WorkBlockRecord.loaded_phase, recordActive,
          WorkBlockRecord.loaded_plannedDurationSeconds,
          elapsedSeconds_loaded, if_neg spent,
          loaded_blockId, closes, recovers,
          updated_updated, together, reads, publishDeadline_spec,
          runs]
    · by_cases paused : block.phase = .paused
      · obtain ⟨snapshot, next, runs, step⟩ :=
          show_updated_step (.markRecovered now) none found
            (.recoveredPaused now isRestart paused) acts
        apply step.of_answer
        have recovers := markRecovered_spec now found (by simp [paused, WorkBlockPhase.isLive])
        have recordPaused : block.record.phase = .paused := paused
        simp only [recoverAfterRestart, bind_apply,
          query_apply, expireIntentions_spec, ← expired_def,
          latest_eq isLatest, Option.map_some, loaded_phase,
          recordPaused, loaded_blockId, recovers,
          publishDeadline_spec, getBlock_updated _ none found, runs]
      · obtain ⟨snapshot, next, runs, step⟩ := show_block_step found acts
        apply step.of_answer
        simp only [recoverAfterRestart, bind_apply,
          query_apply, expireIntentions_spec, ← expired_def,
          latest_eq isLatest, Option.map_some, loaded_phase]
        exact runs

/-- A lifecycle event as a step of the blocks. -/
theorem lifecycle_step (event : WorkBlockLifecycleEvent) (now : Int)
    (accounted : ∀ block ∈ manager.store.blocks, block.Accounted)
    (isEvent : op = .lifecycle event now) :
    BlocksStep.To manager op (lifecycle event now manager) := by
  have isNow : op.instant = now := by rw [isEvent]; rfl
  have requested := requestState_step now accounted isNow (by rw [isEvent]; rfl)
  cases isLatest : manager.store.latestBlock with
  | none =>
    have answers : lifecycle event now manager = requestState now manager := by
      cases event <;> simp [lifecycle, latest_eq isLatest]
    rw [answers]
    exact requested
  | some block =>
    have found := block_of_latestBlock isLatest
    cases event with
    | wake => exact requested
    | timeZoneChanged => exact requested
    | sleep =>
      by_cases active : block.record.phase = .active
      · have answers : lifecycle .sleep now manager =
            pause block.blockId now manager := by
          simp [lifecycle, latest_eq isLatest, active]
        rw [answers]
        exact pause_step block.blockId now accounted isNow (by rw [isEvent]; rfl)
      · have answers : lifecycle .sleep now manager =
            requestState now manager := by
          simp [lifecycle, latest_eq isLatest, active]
        rw [answers]
        exact requested
    | clockChanged =>
      by_cases due : block.record.phase = .active ∧ block.record.plannedDurationSeconds ≤
            block.record.elapsedAt (timestamp now)
      · obtain ⟨snapshot, next, runs, step⟩ :=
          finish_step found (accounted block (mem_of_block found))
            (by simp [due.1, WorkBlockPhase.isLive])
            (.deadline .expired due.1 (isNow ▸ due.2) (Or.inr rfl))
        apply step.of_answer
        simp [lifecycle, latest_eq isLatest, due.1, due.2, runs]
      · have answers : lifecycle .clockChanged now manager =
            requestState now manager := by
          simp [lifecycle, latest_eq isLatest, due]
        rw [answers]
        exact requested

theorem recordInterventionCardSeen_step (blockId : Uuid) (now : Int)
    (isReport : op = .recordInterventionCardSeen blockId now) :
    BlocksStep.To manager op (recordInterventionCardSeen blockId now manager) := by
  cases found : manager.store.block blockId with
  | none =>
    exact BlocksStep.of_failed (by simp [recordInterventionCardSeen, getBlock, found]; rfl)
  | some block =>
    obtain rfl := blockId_of_block found
    have acts : ActsAt manager op now := by
      have isNow : op.instant = now := by rw [isReport]; rfl
      exact isNow ▸ ActsAt.itself (by rw [isReport]; rfl)
    have reads := getBlock_spec found
    have offer := intervention_of_block found
    obtain ⟨snapshot, next, runs, step⟩ :=
      show_updated_step (.markInterventionCardSeen now) manager.deadline found
        (.cardSeen now isReport) acts
    have sameRecord : ((BlockUpdate.markInterventionCardSeen now).apply block).record =
          block.record := rfl
    rw [sameRecord] at runs
    apply step.of_answer
    cases pending : block.interventionRow with
    | none =>
      have nothing := updated_eq_self found (markInterventionCardSeen_eq_self now pending)
      rw [nothing] at runs
      simp [recordInterventionCardSeen, reads, offer, pending, runs]
    | some row =>
      simp only [recordInterventionCardSeen, bind_apply,
        query_apply, reads, loaded_blockId, offer, pending,
        Option.map_some, Option.isSome_some, if_true, command_updateBlock]
      exact runs

theorem reportInterventionOutcome_step (blockId : Uuid) (response : InterventionResponse)
    (now : Int) (isReport : op = .reportInterventionOutcome blockId response now) :
    BlocksStep.To manager op (reportInterventionOutcome blockId response now manager) := by
  cases found : manager.store.block blockId with
  | none =>
    exact BlocksStep.of_failed (by simp [reportInterventionOutcome, getBlock, found]; rfl)
  | some block =>
    obtain rfl := blockId_of_block found
    have acts : ActsAt manager op now := by
      have isNow : op.instant = now := by rw [isReport]; rfl
      exact isNow ▸ ActsAt.itself (by rw [isReport]; rfl)
    have reads := getBlock_spec found
    have offer := intervention_of_block found
    cases pending : block.interventionRow with
    | none =>
      exact BlocksStep.of_failed (by simp [reportInterventionOutcome, reads, offer, pending]; rfl)
    | some row =>
      by_cases answered : row.outcome.isTerminal = true
      · obtain ⟨snapshot, next, runs, step⟩ := show_block_step found acts
        apply step.of_answer
        simp [reportInterventionOutcome, reads, offer, pending, answered, runs]
      · obtain ⟨snapshot, next, runs, step⟩ :=
          show_updated_step (.resolveIntervention (outcomeFor response) now)
            manager.deadline found (.replied response now isReport) acts
        apply step.of_answer
        simp [reportInterventionOutcome, reads, offer, pending, answered, resolveIntervention_spec]
        exact runs

theorem judging_updated (update : BlockUpdate) (record : WorkBlockRecord .nanoseconds)
    (now : Int) (found : manager.store.block block.blockId = some block)
    (keepsNone : (update.apply block).interventionRow = none → block.interventionRow = none) :
    (BlockUpdate.judging (manager.updated block.blockId update).surroundings record
        now).apply (update.apply block) =
      (BlockUpdate.judging manager.surroundings record now).apply (update.apply block) := by
  cases row : (update.apply block).interventionRow with
  | none =>
    have rows : (manager.updated block.blockId update).store.interventionRows =
        manager.store.interventionRows :=
      interventionRows_updateBlock found (row.trans (keepsNone row).symm)
    have same : (manager.updated block.blockId update).surroundings =
        manager.surroundings := by
      have demotion : (manager.updated block.blockId update).store.demotionVerdict =
          manager.store.demotionVerdict := by
        funext instant
        simp only [WorkBlockStore.demotionVerdict, rows]
        rfl
      have backoff : (manager.updated block.blockId update).store.backoff =
          manager.store.backoff := by
        funext instant
        simp only [WorkBlockStore.backoff, rows]
      simp only [WorkBlockManager.surroundings, demotion, backoff]
      rfl
    rw [same]
  | some offer =>
    have reading (surroundings : Surroundings) :
        gateReading surroundings (update.apply block) record now =
          if elapsedSeconds record now < driftMinElapsedSeconds then
            ⟨.abstainedWarmup, none, 0⟩
          else if record.plannedDurationSeconds - elapsedSeconds record now <
              driftMinRemainingSeconds then
            ⟨.abstainedRemaining, none, 0⟩
          else
            ⟨.abstainedBlockCap, none, 0⟩ := by
      simp [gateReading, row]
    simp only [BlockUpdate.judging, reading, row, Option.some_or]

theorem returning_interventionRow (block : WorkBlock)
    (observation : WorkBlockObservation .nanoseconds)
    (noOffer : ((BlockUpdate.returning observation).apply block).interventionRow = none) :
    block.interventionRow = none := by
  simp only [BlockUpdate.returning] at noOffer
  split at noOffer
  · simpa [BlockUpdate.resolveIntervention] using noOffer
  · exact noOffer

theorem observing_portrays {occurredAt : Int} {record : WorkBlockRecord .seconds}
    {updated : WorkBlock} {snapshot : WorkBlockSnapshot} (isActive : record.phase = .active)
    (sameRecord : updated.record =
      { record with updatedAt := max record.updatedAt (timestamp occurredAt) })
    (portrays : Portrays record.loaded occurredAt updated.resultRow snapshot) :
    updated.ShownBy (timestamp occurredAt) snapshot := by
  have elapsed : updated.record.elapsedAt (timestamp occurredAt) =
      record.elapsedAt (timestamp occurredAt) := by
    rw [elapsedAt_active _ (by rw [sameRecord]; exact isActive),
      elapsedAt_active _ isActive, sameRecord]
    simp only [WorkBlockRecord.spentBy]
    congr 3
    omega
  have phase : updated.phase = record.phase := by simp [sameRecord]
  have planned : updated.record.plannedDurationSeconds =
      record.plannedDurationSeconds := by simp [sameRecord]
  have blockId : updated.blockId = record.blockId := by simp [sameRecord]
  exact ⟨by rw [portrays.blockId, blockId]; rfl, by rw [portrays.phase, phase]; rfl,
    by rw [portrays.planned, planned]; rfl,
    by rw [portrays.elapsed, elapsed, elapsedSeconds_loaded],
    by rw [portrays.remaining, elapsed, planned, elapsedSeconds_loaded]; rfl,
    portrays.result⟩

def observedSnapshot
    (outcome : Except WorkBlockError (Option ObservationOutcome) × WorkBlockManager) :
    Option WorkBlockSnapshot :=
  outcome.1.toOption.bind fun answer => answer.map ObservationOutcome.snapshot

theorem latestObservation_of_block (found : manager.store.block blockId = some block) :
    manager.store.latestObservation blockId = block.latestObservation := by
  simp [WorkBlockStore.latestObservation, found]

/-- A report that opens a row in a running block. -/
theorem observe_running_spec (category : String) (status : ClassificationStatus)
    (confidence : ClassificationConfidence) (occurredAt : Int)
    (isLatest : manager.store.latestBlock = some block) (running : block.Running occurredAt)
    (opensRow : ¬ (block.latestObservation.any fun latest =>
      latest.endedAt.isNone && sameEvidence category status confidence latest) = true) :
    ∃ notification before, SameRecord (manager.updated block.blockId
        (.reporting manager.surroundings category status confidence occurredAt)) before ∧
      ∀ snapshot next, snapshotFor block.record.loaded (block.clampedInstant occurredAt) before =
          (.ok snapshot, next) →
        observeSafeCategory category status confidence occurredAt manager =
          (.ok (some ⟨snapshot, notification⟩), next) := by
  have found := block_of_latestBlock isLatest
  have recordActive : block.record.phase = .active := running.active
  have notSpent : ¬ block.record.plannedDurationSeconds ≤
      block.record.elapsedAt (timestamp occurredAt) := not_le.mpr running.timeLeft
  set observation := reportedObservation block category status confidence occurredAt
    with observation_def
  have isObservation : ({
      occurredAt := block.clampedInstant occurredAt
      endedAt := none
      category := category
      classificationStatus := status
      classificationConfidence := confidence } : WorkBlockObservation .nanoseconds) =
      observation := rfl
  have observed : (BlockUpdate.closeOpenObservation (block.clampedInstant
      occurredAt)).andThen (.appendObservation observation) =
        .observing observation := rfl
  by_cases continued : block.ContinuesDecidedDwell observation occurredAt
  · have continues : (block.latestObservation.any fun latest =>
        latest.endedAt.isSome && sameEvidence category status confidence latest &&
          decide (timestamp occurredAt ≤ timestamp latest.occurredAt)) = true := by
      obtain ⟨latest, isRow, closed, same, late⟩ := continued
      have sameRow : sameEvidence category status confidence latest = true := same
      simp [isRow, closed, sameRow, late]
    have agree : (BlockUpdate.reporting manager.surroundings category status confidence
        occurredAt).apply block = (BlockUpdate.observing observation).apply block :=
      if_pos continued
    refine ⟨none, manager.updated block.blockId (.observing observation), ?_,
      fun snapshot next runs => ?_⟩
    · rw [updated_congr found agree]
      exact SameRecord.refl _
    · simp only [observeSafeCategory, bind_apply, query_apply,
        ManagerM.ite_apply, latest_eq isLatest, Option.map_some,
        loaded_phase, recordActive, ne_eq, not_true_eq_false, if_false,
        loaded_plannedDurationSeconds,
        elapsedSeconds_loaded, if_neg notSpent, clampedInstant_loaded,
        loaded_blockId, latestObservation_of_block found, if_neg opensRow,
        isObservation, closeOpenObservation_spec, command_updateBlock,
        updated_updated, observed, if_pos continues, runs,
        pure_apply]
  · have continues : ¬ (block.latestObservation.any fun latest =>
        latest.endedAt.isSome && sameEvidence category status confidence latest &&
          decide (timestamp occurredAt ≤ timestamp latest.occurredAt)) = true := by
      intro holds
      obtain ⟨latest, isRow, rest⟩ := (Option.any_eq_true _ _).mp holds
      simp only [Bool.and_eq_true, decide_eq_true_eq] at rest
      exact continued ⟨latest, isRow, rest.1.1, rest.1.2, rest.2⟩
    set arrived := (BlockUpdate.observing observation).andThen (.returning observation)
      with arrived_def
    have observedFound := block_updated (.observing observation) found
    have arrivedFound := block_updated arrived found
    have returns : recordReturnIfPending block.record.loaded observation
        (block.clampedInstant occurredAt)
        (manager.updated block.blockId (.observing observation)) =
          (.ok (), manager.updated block.blockId arrived) := by
      have spec := recordReturnIfPending_spec block.record.loaded observation observedFound
      rw [loaded_blockId, updated_updated] at spec
      exact spec
    obtain ⟨notification, judgedManager, judges, sameJudged⟩ :=
      evaluateDrift_spec block.record.loaded (block.clampedInstant occurredAt) arrivedFound
    have ownRow : (arrived.apply block).interventionRow = none →
        block.interventionRow = none := fun noOffer =>
      returning_interventionRow ((BlockUpdate.observing observation).apply block)
        observation noOffer
    have judgedAlike := judging_updated arrived block.record.loaded
      (block.clampedInstant occurredAt) found ownRow
    have agree : (BlockUpdate.reporting manager.surroundings category status confidence
        occurredAt).apply block =
        (arrived.andThen (.judging manager.surroundings block.record.loaded
          (block.clampedInstant occurredAt))).apply block :=
      if_neg continued
    have sameManager : (manager.updated block.blockId arrived).updated block.blockId
        (.judging (manager.updated block.blockId arrived).surroundings
          block.record.loaded (block.clampedInstant occurredAt)) =
        manager.updated block.blockId
          (.reporting manager.surroundings category status confidence occurredAt) := by
      rw [updated_congr arrivedFound judgedAlike, updated_updated, updated_congr found agree]
    rw [loaded_blockId, sameManager] at sameJudged
    refine ⟨notification, judgedManager, sameJudged, fun snapshot next runs => ?_⟩
    simp only [observeSafeCategory, bind_apply, query_apply,
      ManagerM.ite_apply, latest_eq isLatest, Option.map_some,
      loaded_phase, recordActive, ne_eq, not_true_eq_false, if_false,
      loaded_plannedDurationSeconds,
      elapsedSeconds_loaded, if_neg notSpent, clampedInstant_loaded,
      loaded_blockId, latestObservation_of_block found, if_neg opensRow,
      isObservation, closeOpenObservation_spec, command_updateBlock,
      updated_updated, observed, if_neg continues, returns, judges, runs,
      pure_apply]

@[simp]
theorem reporting_record (surroundings : Surroundings) (category : String)
    (status : ClassificationStatus) (confidence : ClassificationConfidence)
    (occurredAt : Int) (block : WorkBlock) :
    ((BlockUpdate.reporting surroundings category status confidence occurredAt).apply
      block).record =
      { block.record with
        updatedAt := max block.record.updatedAt
          (timestamp (block.clampedInstant occurredAt)) } := by
  simp only [BlockUpdate.reporting]
  split <;> simp [reportedObservation]

theorem observe_running_step (category : String) (status : ClassificationStatus)
    (confidence : ClassificationConfidence) (occurredAt receivedAt : Int) (isReport :
      op = .observeSafeCategory category status confidence occurredAt receivedAt)
    (isLatest : manager.store.latestBlock = some block)
    (running : block.Running occurredAt)
    (opensRow : ¬ (block.latestObservation.any fun latest =>
      latest.endedAt.isNone && sameEvidence category status confidence latest) = true) :
    ∃ outcome next, observeSafeCategory category status confidence occurredAt manager =
        (.ok (some outcome), next) ∧
      BlocksStep manager op (some outcome.snapshot) next := by
  have found := block_of_latestBlock isLatest
  have acts : ActsAt manager op (block.clampedInstant occurredAt) := by
    have isNow : op.instant = occurredAt := by rw [isReport]; rfl
    rw [← isNow] at running ⊢
    exact .clamped block (mem_of_block found) running
  set observation := reportedObservation block category status confidence occurredAt
    with observation_def
  have opens : block.OpensRow observation := by
    intro latest isRow isOpen
    by_contra same
    have sameRow : sameEvidence category status confidence latest = true :=
      Bool.eq_true_of_not_eq_false same
    exact opensRow (by simp [isRow, isOpen, sameRow])
  have advance : Advance manager.surroundings op block
      ((BlockUpdate.reporting manager.surroundings category status confidence
        occurredAt).apply block) := by
    simp only [BlockUpdate.reporting, ← observation_def]
    split
    next continued =>
      exact .continued category status confidence occurredAt receivedAt isReport running
        observation observation_def opens continued
    next fresh =>
      exact .judged category status confidence occurredAt receivedAt isReport running
        observation observation_def opens fresh
  obtain ⟨notification, before, same, answers⟩ :=
    observe_running_spec category status confidence occurredAt isLatest running opensRow
  obtain ⟨snapshot, next, runs, step⟩ :=
    show_record_step _ block.record.loaded found advance same rfl
      (fun _ portrays => ⟨_, observing_portrays running.active
        (reporting_record _ _ _ _ _ _) portrays⟩) acts
  exact ⟨⟨snapshot, notification⟩, next, answers snapshot next runs, step⟩

/-- A report as a step of the blocks, by the state of the latest one. -/
theorem observeSafeCategory_step (category : String) (status : ClassificationStatus)
    (confidence : ClassificationConfidence) (occurredAt receivedAt : Int)
    (accounted : ∀ block ∈ manager.store.blocks, block.Accounted) (isReport :
      op = .observeSafeCategory category status confidence occurredAt receivedAt) :
    BlocksStep manager op (observedSnapshot
        (observeSafeCategory category status confidence occurredAt manager))
      (observeSafeCategory category status confidence occurredAt manager).2 := by
  have isNow : op.instant = occurredAt := by rw [isReport]; rfl
  cases isLatest : manager.store.latestBlock with
  | none =>
    have answers : observeSafeCategory category status confidence occurredAt
        manager = (.ok none, manager) := by
      simp [observeSafeCategory, latest_eq isLatest]
    rw [answers]
    exact BlocksStep.refused
  | some block =>
    have found := block_of_latestBlock isLatest
    by_cases active : block.phase = .active
    · by_cases spent : block.record.plannedDurationSeconds ≤
          block.record.elapsedAt (timestamp occurredAt)
      · obtain ⟨snapshot, next, runs, step⟩ :=
          finish_step found (accounted block (mem_of_block found))
            (by simp [active, WorkBlockPhase.isLive])
            (.deadline .completed active (isNow ▸ spent) (Or.inl rfl))
        have answers : observeSafeCategory category status confidence occurredAt
            manager = (.ok (some ⟨snapshot, none⟩), next) := by
          simp [observeSafeCategory, latest_eq isLatest, active, spent, runs]
        rw [answers]
        exact step
      · by_cases repeats : (block.latestObservation.any fun latest =>
            latest.endedAt.isNone && sameEvidence category status confidence latest) = true
        · have answers : observeSafeCategory category status confidence occurredAt
              manager = (.ok none, manager) := by
            simp only [observeSafeCategory, bind_apply,
              ManagerM.query_apply, ManagerM.ite_apply, latest_eq isLatest,
              Option.map_some]
            simp [active, spent, latestObservation_of_block found, repeats]
          rw [answers]
          exact BlocksStep.refused
        · obtain ⟨outcome, next, runs, step⟩ :=
            observe_running_step category status confidence occurredAt receivedAt
              isReport isLatest ⟨active, not_le.mp spent⟩ repeats
          rw [runs]
          exact step
    · have answers : observeSafeCategory category status confidence occurredAt
          manager = (.ok none, manager) := by
        simp [observeSafeCategory, latest_eq isLatest, active]
      rw [answers]
      exact BlocksStep.refused

theorem Stepped.of_blocks (onBlocks : op.OnBlocks)
    (step : BlocksStep manager op reported next) : Stepped manager op reported next := by
  refine ⟨.advanced step.advances, ?_, ?_, ?_, step.reports⟩
  · cases op <;> first | exact step.rawEventBuffer | exact onBlocks.elim
  · cases op <;> first | exact step.focus | exact onBlocks.elim
  · cases op <;> first | exact step.manualResetAt | exact onBlocks.elim

theorem create_spec (record : WorkBlockRecord .nanoseconds)
    (fresh : record.blockId ∉ manager.store.blocks.map WorkBlock.blockId) :
    ∃ store, create record manager = (.ok (), { manager with store := store }) ∧
      store.blocks = manager.store.blocks ++ [WorkBlockStore.createdBlock record] ∧
      store.rawEventBuffer = manager.store.rawEventBuffer ∧
      store.manualResetAt = manager.store.manualResetAt := by
  simp only [create, WorkBlockStore.create, dif_neg fresh]
  exact ⟨_, rfl, rfl, rfl, rfl⟩

theorem Started.shownBy {record : WorkBlockRecord .nanoseconds} {now : Int}
    {snapshot : WorkBlockSnapshot} (started : Started record now)
    (portrays : Portrays record now none snapshot) :
    (WorkBlockStore.createdBlock record).ShownBy (timestamp now) snapshot := by
  have nothing : elapsedSeconds record now = 0 := by
    simp [elapsedSeconds, started.active, effectiveNow, started.updatedAt,
      started.startedAt, positiveSeconds, numSeconds]
  have storedNothing : record.stored.elapsedAt (timestamp now) = 0 := by
    rw [elapsedAt_active _ started.active]
    simp [WorkBlockRecord.spentBy, started.updatedAt, started.startedAt]
  exact ⟨portrays.blockId, portrays.phase, portrays.planned,
    by rw [portrays.elapsed, nothing]; exact storedNothing.symm,
    by rw [portrays.remaining, nothing, ← storedNothing]; rfl, portrays.result⟩

theorem created_stepped {record : WorkBlockRecord .nanoseconds} {now : Int}
    (isNow : op.reading = now) (onBlocks : op.OnBlocks)
    (idle : ∀ block, manager.store.latestBlock = some block → block.phase.isLive = false)
    (started : Started record now)
    {outcome : Except WorkBlockError WorkBlockSnapshot × WorkBlockManager} (runs : outcome = (do
        create record
        publishDeadline (some (plannedDeadline record))
        snapshotFor record now : ManagerM WorkBlockSnapshot) manager) :
    Stepped manager op outcome.1.toOption outcome.2 := by
  by_cases taken : record.blockId ∈ manager.store.blocks.map WorkBlock.blockId
  · have fails : create record manager = (.error .persistence, manager) := by
      simp only [create, WorkBlockStore.create, dif_pos taken]
    rw [runs]
    simp only [bind_apply, fails]
    exact Stepped.of_blocks onBlocks BlocksStep.refused
  · obtain ⟨store, creates, blocks, rawEvents, reset⟩ := create_spec record taken
    obtain ⟨snapshot, next, shows, same, portrays, active⟩ :=
      snapshotFor_spec record now { manager with
          store := store
          deadline := some (plannedDeadline record) }
    have member : WorkBlockStore.createdBlock record ∈ store.blocks := by
      rw [blocks]
      simp
    have found : store.block record.blockId = some (WorkBlockStore.createdBlock record) :=
      block_of_mem member
    have noResult : store.result record.blockId = none := by
      simp [WorkBlockStore.result, found, WorkBlockStore.createdBlock]
    have noOffer : store.intervention record.blockId = none := by
      simp [WorkBlockStore.intervention, found, WorkBlockStore.createdBlock]
    rw [noResult] at portrays
    rw [runs]
    simp only [bind_apply, creates, publishDeadline_spec, shows]
    refine ⟨.created record idle (isNow ▸ started) (same.blocks.trans blocks), ?_, ?_, ?_, ?_⟩
    · rw [same.rawEventBuffer]
      cases op <;> first | exact rawEvents | exact onBlocks.elim
    · rw [same.focus]
      cases op <;> first | rfl | exact onBlocks.elim
    · rw [same.manualResetAt]
      cases op <;> first | exact reset | exact onBlocks.elim
    · rintro _ ⟨⟩
      refine ⟨Or.inr ⟨_, ?_, _, started.shownBy portrays⟩, fun isActive => ?_⟩
      · rw [same.blocks]
        exact member
      · obtain ⟨-, offer, isOffer, -⟩ := active isActive
        rw [noOffer] at isOffer
        cases isOffer

theorem Stepped.of_failed {error : WorkBlockError}
    {outcome : Except WorkBlockError WorkBlockSnapshot × WorkBlockManager}
    (onBlocks : op.OnBlocks) (fails : outcome = (.error error, manager)) :
    Stepped manager op outcome.1.toOption outcome.2 := by
  rw [fails]
  exact Stepped.of_blocks onBlocks BlocksStep.refused

theorem idle_of_latest
    (notLive : ¬ manager.store.latest.any (fun record => record.phase.isLive) = true) :
    ∀ block, manager.store.latestBlock = some block → block.phase.isLive = false := by
  intro block isLatest
  simpa [latest_eq isLatest] using notLive

theorem startWithOrigin_stepped (request : StartWorkBlock) (origin : WorkBlockOrigin)
    (freshId : Uuid) (now : Int) (isNow : op.reading = now) (onBlocks : op.OnBlocks) :
    Stepped manager op (startWithOrigin request origin freshId now manager).1.toOption
      (startWithOrigin request origin freshId now manager).2 := by
  by_cases live : manager.store.latest.any (fun record => record.phase.isLive) = true
  · exact Stepped.of_failed onBlocks (by simp [startWithOrigin, live]; rfl)
  · cases normalized : normalizeIntention request.intention with
    | error error =>
      exact Stepped.of_failed onBlocks (by simp [startWithOrigin, live, normalized]; rfl)
    | ok intention =>
      by_cases bounds : request.plannedDurationSeconds < minDurationSeconds ∨
          maxDurationSeconds < request.plannedDurationSeconds
      · exact Stepped.of_failed onBlocks (by simp [startWithOrigin, live, normalized, bounds]; rfl)
      · have admitted : minDurationSeconds ≤ request.plannedDurationSeconds ∧
            request.plannedDurationSeconds ≤ maxDurationSeconds := by
          simpa using bounds
        refine created_stepped isNow onBlocks (idle_of_latest live) ?_ (by
          simp only [startWithOrigin, bind_apply, query_apply,
            ManagerM.ite_apply, if_neg live, normalized, if_neg bounds]
          rfl)
        exact ⟨rfl, rfl, rfl, rfl, rfl, rfl, admitted⟩

theorem acceptRecovery_stepped (blockId : Uuid) (actionId : String) (freshId : Uuid)
    (now : Int) (isNow : op.reading = now) (onBlocks : op.OnBlocks) :
    Stepped manager op (acceptRecovery blockId actionId freshId now manager).1.toOption
      (acceptRecovery blockId actionId freshId now manager).2 := by
  by_cases unregistered : actionId ≠ driftActionId ∧ actionId ≠ softRestartActionId
  · exact Stepped.of_failed onBlocks (by simp [acceptRecovery, unregistered]; rfl)
  unfold acceptRecovery
  rw [if_neg unregistered]
  cases found : manager.store.block blockId with
  | none => exact Stepped.of_failed onBlocks (by simp [getBlock, found]; rfl)
  | some block =>
    obtain rfl := blockId_of_block found
    have reads := getBlock_spec found
    have result := result_of_block found
    cases row : block.resultRow with
    | none => exact Stepped.of_failed onBlocks (by simp [reads, result, row]; rfl)
    | some payload =>
      by_cases terminal : block.phase.isTerminal = true
      · by_cases offered : payload.nextAction.actionId = actionId
        · by_cases live : manager.store.latest.any (fun record => record.phase.isLive) = true
          · exact Stepped.of_failed onBlocks
              (by simp [reads, result, row, terminal, offered, live]; rfl)
          · refine created_stepped isNow onBlocks (idle_of_latest live) ?_
              (by simp [reads, result, row, terminal, offered, live]; rfl)
            have bounds : minDurationSeconds ≤ recoveryDurationSeconds ∧
                recoveryDurationSeconds ≤ maxDurationSeconds := by decide
            exact ⟨rfl, rfl, rfl, rfl, rfl, rfl, bounds⟩
        · exact Stepped.of_failed onBlocks (by simp [reads, result, row, terminal, offered]; rfl)
      · exact Stepped.of_failed onBlocks (by simp [reads, result, row, terminal]; rfl)

theorem next_of_perform {Result : Type} {program : ManagerM Result}
    {view : Result → Answer} (performs : op.perform = view <$> program) :
    managerMachine.next manager op = (program manager).2 := by
  simp only [StepMachine.Machine.next, managerMachine, performs, map_apply]
  rcases program manager with ⟨result | result, next⟩ <;> rfl

theorem reported_of_perform {Result : Type} {program : ManagerM Result}
    {view : Result → Answer} (performs : op.perform = view <$> program) :
    (managerMachine.answer manager op).reported =
      (program manager).1.toOption.bind fun result => (view result).reported := by
  simp only [StepMachine.Machine.answer, managerMachine, performs, map_apply]
  rcases program manager with ⟨result | result, next⟩ <;> rfl

theorem stepped_of_snapshot {program : ManagerM WorkBlockSnapshot}
    (performs : op.perform = .snapshot <$> program)
    (step : Stepped manager op (program manager).1.toOption (program manager).2) :
    Stepped manager op (managerMachine.answer manager op).reported
      (managerMachine.next manager op) := by
  rw [next_of_perform performs, reported_of_perform performs]
  simpa [Answer.reported] using step

theorem stepped_of_silent
    (silent : reported = none) (blocks : next.store.blocks = manager.store.blocks) (rawEvents :
      next.store.rawEventBuffer = op.rawEventsAfter manager.store.rawEventBuffer)
    (focus : next.focus = op.focusAfter manager.focus)
    (reset : next.store.manualResetAt = op.resetAfter manager.store.manualResetAt) :
    Stepped manager op reported next :=
  ⟨.advanced (blocks ▸ BlocksStep.advances_self), rawEvents, focus, reset,
    by simp [silent]⟩

theorem demotionStatePayload_spec (now : Int) (manager : WorkBlockManager) :
    ∃ payload next, demotionStatePayload now manager = (.ok payload, next) ∧
      SameRecord manager next ∧
      payload.state = manager.store.demotionVerdict now := by
  obtain ⟨evaluation, next, runs, same, verdict⟩ := evaluateDemotion_spec now manager
  exact ⟨_, next, by simp [demotionStatePayload, runs]; rfl, same, verdict⟩

theorem resetDemotion_spec (now : Int) (manager : WorkBlockManager) :
    ∃ payload next, resetDemotion now manager = (.ok payload, next) ∧
      next.store.blocks = manager.store.blocks ∧
      next.store.rawEventBuffer = manager.store.rawEventBuffer ∧
      next.focus = manager.focus ∧
      next.store.manualResetAt = some (timestamp now) := by
  simp only [resetDemotion, bind_apply, command_apply]
  obtain ⟨payload, next, runs, same, -⟩ := demotionStatePayload_spec now { manager with
      store :=
        { manager.store with
          demotionRow := some
            { state := .active
              demotedAt := none
              manualResetAt := some (timestamp now)
              thresholdPolicyVersion := demotionThresholdPolicyVersion
              repromotionPolicyVersion := demotionRepromotionPolicyVersion
              updatedAt := timestamp now } } }
  exact ⟨payload, next, runs, same.blocks, same.rawEventBuffer, same.focus, same.manualResetAt⟩

/-- Whatever the operation, it does what `Stepped` allows and no more. -/
theorem managerMachine_stepped (manager : WorkBlockManager) (op : Operation)
    (accounted : ∀ block ∈ manager.store.blocks, block.Accounted) :
    Stepped manager op (managerMachine.answer manager op).reported
      (managerMachine.next manager op) := by
  cases op with
  | start request freshId now =>
    exact stepped_of_snapshot rfl (startWithOrigin_stepped request .manual freshId now rfl trivial)
  | startWithOrigin request origin freshId now =>
    exact stepped_of_snapshot rfl (startWithOrigin_stepped request origin freshId now rfl trivial)
  | pause blockId now =>
    exact stepped_of_snapshot rfl (.of_blocks trivial (pause_step blockId now accounted rfl rfl))
  | resume blockId now =>
    exact stepped_of_snapshot rfl (.of_blocks trivial (resume_step blockId now rfl))
  | endBlock blockId now =>
    exact stepped_of_snapshot rfl (.of_blocks trivial (endBlock_step blockId now accounted rfl))
  | requestState now =>
    exact stepped_of_snapshot rfl (.of_blocks trivial (requestState_step now accounted rfl rfl))
  | lifecycle event now =>
    exact stepped_of_snapshot rfl (.of_blocks trivial (lifecycle_step event now accounted rfl))
  | observeSafeCategory category status confidence occurredAt receivedAt =>
    have performs : (Operation.observeSafeCategory category status confidence occurredAt
        receivedAt).perform = .observed <$>
          observeSafeCategory category status confidence occurredAt := rfl
    rw [next_of_perform performs, reported_of_perform performs]
    exact .of_blocks trivial
      (observeSafeCategory_step category status confidence occurredAt receivedAt accounted rfl)
  | recoverAfterRestart now =>
    exact stepped_of_snapshot rfl (.of_blocks trivial (recoverAfterRestart_step now accounted rfl))
  | acceptRecovery blockId actionId freshId now =>
    exact stepped_of_snapshot rfl (acceptRecovery_stepped blockId actionId freshId now rfl trivial)
  | recordInterventionCardSeen blockId now =>
    exact stepped_of_snapshot rfl
      (.of_blocks trivial (recordInterventionCardSeen_step blockId now rfl))
  | reportInterventionOutcome blockId response now =>
    exact stepped_of_snapshot rfl
      (.of_blocks trivial (reportInterventionOutcome_step blockId response now rfl))
  | evaluateDemotion now =>
    have performs : (Operation.evaluateDemotion now).perform =
        .evaluated <$> evaluateDemotion now := rfl
    obtain ⟨evaluation, next, runs, same, -⟩ := evaluateDemotion_spec now manager
    rw [next_of_perform performs, reported_of_perform performs, runs]
    exact stepped_of_silent rfl same.blocks same.rawEventBuffer same.focus same.manualResetAt
  | demotionStatePayload now =>
    have performs : (Operation.demotionStatePayload now).perform =
        .demotion <$> demotionStatePayload now := rfl
    obtain ⟨payload, next, runs, same, -⟩ := demotionStatePayload_spec now manager
    rw [next_of_perform performs, reported_of_perform performs, runs]
    exact stepped_of_silent rfl same.blocks same.rawEventBuffer same.focus same.manualResetAt
  | resetDemotion now =>
    have performs : (Operation.resetDemotion now).perform =
        .demotion <$> resetDemotion now := rfl
    obtain ⟨payload, next, runs, blocks, rawEvents, focus, reset⟩ :=
      resetDemotion_spec now manager
    rw [next_of_perform performs, reported_of_perform performs, runs]
    exact stepped_of_silent rfl blocks rawEvents focus reset
  | replaceRawEvents rows now => exact stepped_of_silent rfl rfl rfl rfl rfl
  | attachFocusSource focus now => exact stepped_of_silent rfl rfl rfl rfl rfl

end Operations

end Velvt
