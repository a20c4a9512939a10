import Velvt.WorkBlockAdvance

/-!
# What the functions of the manager do

One lemma for each function that the operations share says what it answers and
which update it leaves behind: the demotion policy, snapshots, the boundary
close, the end of a block and the drift gate.
-/

namespace Velvt

open List

namespace WorkBlockStore

variable {store : WorkBlockStore} {blockId : Uuid} {block : WorkBlock}

theorem ext_fields {first second : WorkBlockStore} (blocks : first.blocks = second.blocks)
    (demotionRow : first.demotionRow = second.demotionRow)
    (rawEventBuffer : first.rawEventBuffer = second.rawEventBuffer) :
    first = second := by
  cases first
  cases second
  simp_all

theorem mem_of_block (found : store.block blockId = some block) :
    block ∈ store.blocks :=
  mem_of_find?_eq_some found

theorem blockId_of_block (found : store.block blockId = some block) :
    block.blockId = blockId := by
  simpa using List.find?_some found

theorem eq_of_blockId {first second : WorkBlock} (firstMem : first ∈ store.blocks)
    (secondMem : second ∈ store.blocks) (same : first.blockId = second.blockId) :
    first = second :=
  inj_on_of_nodup_map store.primaryKey firstMem secondMem same

theorem eq_of_found (found : store.block blockId = some block) {other : WorkBlock}
    (member : other ∈ store.blocks) (same : other.blockId = blockId) :
    other = block :=
  eq_of_blockId member (mem_of_block found) (by rw [same, blockId_of_block found])

theorem block_of_mem (member : block ∈ store.blocks) :
    store.block block.blockId = some block := by
  cases found : store.block block.blockId with
  | none =>
    have absent := List.find?_eq_none.mp found block member
    simp at absent
  | some other =>
    rw [eq_of_blockId (mem_of_block found) member (blockId_of_block found)]

theorem block_of_latestBlock (latest : store.latestBlock = some block) :
    store.block block.blockId = some block :=
  block_of_mem (mem_of_getLast? latest)

@[simp]
theorem updateBlocks_blocks (update : BlockUpdate) :
    (store.updateBlocks update).blocks = store.blocks.map update.apply :=
  rfl

@[simp]
theorem updateBlocks_rawEventBuffer (update : BlockUpdate) :
    (store.updateBlocks update).rawEventBuffer = store.rawEventBuffer :=
  rfl

@[simp]
theorem updateBlocks_demotionRow (update : BlockUpdate) :
    (store.updateBlocks update).demotionRow = store.demotionRow :=
  rfl

@[simp]
theorem updateBlock_blocks (update : BlockUpdate) : (store.updateBlock blockId update).blocks =
      store.blocks.map (update.only blockId).apply :=
  rfl

@[simp]
theorem updateBlock_rawEventBuffer (update : BlockUpdate) :
    (store.updateBlock blockId update).rawEventBuffer = store.rawEventBuffer :=
  rfl

@[simp]
theorem updateBlock_demotionRow (update : BlockUpdate) :
    (store.updateBlock blockId update).demotionRow = store.demotionRow :=
  rfl

@[simp]
theorem block_updateBlocks (update : BlockUpdate) (id : Uuid) :
    (store.updateBlocks update).block id = (store.block id).map update.apply := by
  have keeps : (fun block => block.blockId == id) ∘ update.apply = fun block => block.blockId == id :=
    funext fun block => by rw [Function.comp_apply, update.keepsId]
  rw [block, updateBlocks, List.find?_map, keeps, block]

theorem block_updateBlock (update : BlockUpdate) (found : store.block blockId = some block) :
    (store.updateBlock blockId update).block blockId = some (update.apply block) := by
  rw [updateBlock, block_updateBlocks, found]
  simp [BlockUpdate.only, blockId_of_block found]

theorem updateBlock_updateBlock (first second : BlockUpdate) :
    (store.updateBlock blockId first).updateBlock blockId second =
      store.updateBlock blockId (first.andThen second) := by
  apply ext_fields <;> try rfl
  simp only [updateBlock_blocks, map_map]
  apply map_congr_left
  intro block _
  by_cases same : block.blockId = blockId <;>
    simp [BlockUpdate.only, BlockUpdate.andThen, same, first.keepsId]

theorem updateBlock_congr {first second : BlockUpdate} (found : store.block blockId = some block)
    (agree : first.apply block = second.apply block) :
    store.updateBlock blockId first = store.updateBlock blockId second := by
  apply ext_fields <;> try rfl
  apply map_congr_left
  intro other member
  by_cases same : other.blockId = blockId
  · rw [eq_of_found found member same]
    simp [BlockUpdate.only, agree]
  · simp [BlockUpdate.only, same]

theorem updateBlock_eq_self {update : BlockUpdate} (found : store.block blockId = some block)
    (agree : update.apply block = block) :
    store.updateBlock blockId update = store := by
  apply ext_fields <;> try rfl
  rw [updateBlock_blocks]
  calc
    store.blocks.map (update.only blockId).apply = store.blocks.map id := by
      apply map_congr_left
      intro other member
      by_cases same : other.blockId = blockId
      · rw [eq_of_found found member same]
        simp [BlockUpdate.only, agree]
      · simp [BlockUpdate.only, same]
    _ = store.blocks := map_id _

theorem interventionRows_updateBlock {update : BlockUpdate}
    (found : store.block blockId = some block)
    (same : (update.apply block).interventionRow = block.interventionRow) :
    (store.updateBlock blockId update).interventionRows = store.interventionRows := by
  simp only [interventionRows, updateBlock_blocks, filterMap_map]
  apply filterMap_congr
  intro other member
  by_cases sameId : other.blockId = blockId
  · rw [eq_of_found found member sameId]
    simp [BlockUpdate.only, blockId_of_block found, same]
  · simp [BlockUpdate.only, sameId]

end WorkBlockStore

/-- Two managers that differ at most in the published deadline and in what the
demotion singleton remembers besides the last manual reset. -/
structure SameRecord (first second : WorkBlockManager) : Prop where
  blocks : second.store.blocks = first.store.blocks
  rawEventBuffer : second.store.rawEventBuffer = first.store.rawEventBuffer
  focus : second.focus = first.focus
  manualResetAt : second.store.manualResetAt = first.store.manualResetAt

namespace SameRecord

theorem refl (manager : WorkBlockManager) : SameRecord manager manager :=
  ⟨rfl, rfl, rfl, rfl⟩

theorem trans {first middle last : WorkBlockManager}
    (before : SameRecord first middle) (after : SameRecord middle last) :
    SameRecord first last :=
  ⟨after.blocks.trans before.blocks, after.rawEventBuffer.trans before.rawEventBuffer,
    after.focus.trans before.focus, after.manualResetAt.trans before.manualResetAt⟩

theorem publish (manager : WorkBlockManager) (deadline : Option Int) :
    SameRecord manager { manager with deadline := deadline } :=
  ⟨rfl, rfl, rfl, rfl⟩

variable {first second : WorkBlockManager} (same : SameRecord first second)

include same

theorem interventionRows :
    second.store.interventionRows = first.store.interventionRows := by
  simp only [WorkBlockStore.interventionRows, same.blocks]

theorem surroundings : second.surroundings = first.surroundings := by
  have reported : second.store.reportedDwells = first.store.reportedDwells := by
    funext fromInstant untilInstant
    simp only [WorkBlockStore.reportedDwells, same.rawEventBuffer]
  have demotion : second.store.demotionVerdict = first.store.demotionVerdict := by
    funext now
    simp only [WorkBlockStore.demotionVerdict, same.interventionRows, same.manualResetAt]
  have backoff : second.store.backoff = first.store.backoff := by
    funext now
    simp only [WorkBlockStore.backoff, same.interventionRows]
  simp only [WorkBlockManager.surroundings, reported, demotion, backoff, same.focus]

theorem block (blockId : Uuid) : second.store.block blockId = first.store.block blockId := by
  simp only [WorkBlockStore.block, same.blocks]

end SameRecord

theorem evaluateDemotion_spec (now : Int) (manager : WorkBlockManager) :
    ∃ evaluation next, evaluateDemotion now manager = (.ok evaluation, next) ∧
      SameRecord manager next ∧
      evaluation.state = manager.store.demotionVerdict now := by
  have resetAt : (manager.store.demotionRow.map DemotionStateRecord.loaded).bind
      (·.manualResetAt) = manager.store.manualResetAt.map fromTimestamp := by
    cases row : manager.store.demotionRow <;>
      simp [WorkBlockStore.manualResetAt, row, DemotionStateRecord.loaded]
  have storedAgain : (manager.store.manualResetAt.map fromTimestamp).map timestamp =
      manager.store.manualResetAt := by
    cases manager.store.manualResetAt <;> simp
  simp only [evaluateDemotion, ManagerM.bind_apply, ManagerM.query_apply, resetAt]
  split
  · refine ⟨_, _, rfl, ⟨rfl, rfl, rfl, ?_⟩, rfl⟩
    simpa [WorkBlockStore.manualResetAt, DemotionStateRecord.stored] using storedAgain
  · exact ⟨_, _, rfl, SameRecord.refl manager, rfl⟩

/-- The fields of a snapshot that describe a record and its result. -/
structure Portrays (record : WorkBlockRecord .nanoseconds) (now : Int)
    (result : Option WorkBlockResult) (snapshot : WorkBlockSnapshot) : Prop where
  blockId : snapshot.blockId = some record.blockId
  phase : snapshot.phase = record.phase
  planned : snapshot.plannedDurationSeconds = record.plannedDurationSeconds
  elapsed : snapshot.elapsedDurationSeconds = elapsedSeconds record now
  remaining : snapshot.remainingDurationSeconds =
    record.plannedDurationSeconds - elapsedSeconds record now
  result : snapshot.result = result

theorem activeIntervention_spec (blockId : Uuid) (now : Int) (manager : WorkBlockManager) :
    ∃ active next, activeIntervention blockId now manager = (.ok active, next) ∧
      SameRecord manager next ∧
      (active.isSome → manager.store.demotionVerdict now = .active ∧
        ∃ offer, manager.store.intervention blockId = some offer ∧
          offer.outcome = .offered) := by
  simp only [activeIntervention, ManagerM.bind_apply, ManagerM.query_apply]
  cases offered : manager.store.intervention blockId with
  | none => exact ⟨none, manager, rfl, SameRecord.refl manager, by simp⟩
  | some offer =>
    by_cases answered : offer.outcome.isTerminal = true
    · exact ⟨none, manager, by simp [answered], SameRecord.refl manager, by simp⟩
    · obtain ⟨evaluation, next, runs, same, verdict⟩ :=
        evaluateDemotion_spec now manager
      simp only [answered, ManagerM.ite_apply, ManagerM.bind_apply, runs, verdict]
      cases state : manager.store.demotionVerdict now with
      | demoted => exact ⟨none, next, by simp, same, by simp⟩
      | active =>
        refine ⟨_, next, by simp; rfl, same, fun _ => ⟨rfl, offer, rfl, ?_⟩⟩
        cases outcome : offer.outcome <;>
          simp_all [WorkBlockInterventionOutcome.isTerminal]

theorem snapshotWithResult_spec (record : WorkBlockRecord .nanoseconds) (now : Int)
    (result : Option WorkBlockResult) (manager : WorkBlockManager) :
    ∃ snapshot next, snapshotWithResult record now result manager = (.ok snapshot, next) ∧
      SameRecord manager next ∧ Portrays record now result snapshot ∧
      (snapshot.activeIntervention.isSome → manager.store.demotionVerdict now = .active ∧
        ∃ offer, manager.store.intervention record.blockId = some offer ∧
          offer.outcome = .offered) := by
  obtain ⟨active, next, runs, same, silent⟩ :=
    activeIntervention_spec record.blockId now manager
  simp only [snapshotWithResult, ManagerM.bind_apply, ManagerM.query_apply, runs,
    ManagerM.pure_apply]
  exact ⟨_, next, rfl, same, ⟨rfl, rfl, rfl, rfl, rfl, rfl⟩, silent⟩

theorem snapshotFor_spec (record : WorkBlockRecord .nanoseconds) (now : Int)
    (manager : WorkBlockManager) :
    ∃ snapshot next, snapshotFor record now manager = (.ok snapshot, next) ∧
      SameRecord manager next ∧
      Portrays record now (manager.store.result record.blockId) snapshot ∧
      (snapshot.activeIntervention.isSome → manager.store.demotionVerdict now = .active ∧
        ∃ offer, manager.store.intervention record.blockId = some offer ∧
          offer.outcome = .offered) := by
  simp only [snapshotFor, ManagerM.bind_apply, ManagerM.query_apply]
  exact snapshotWithResult_spec record now _ manager

def WorkBlockManager.updated (manager : WorkBlockManager) (blockId : Uuid)
    (update : BlockUpdate) : WorkBlockManager :=
  { manager with store := manager.store.updateBlock blockId update }

namespace WorkBlockManager

variable {manager : WorkBlockManager} {blockId : Uuid} {block : WorkBlock}

theorem updated_updated (first second : BlockUpdate) :
    (manager.updated blockId first).updated blockId second =
      manager.updated blockId (first.andThen second) := by
  simp only [updated, WorkBlockStore.updateBlock_updateBlock]

theorem updated_congr {first second : BlockUpdate}
    (found : manager.store.block blockId = some block)
    (agree : first.apply block = second.apply block) :
    manager.updated blockId first = manager.updated blockId second := by
  simp only [updated, WorkBlockStore.updateBlock_congr found agree]

theorem updated_eq_self {update : BlockUpdate} (found : manager.store.block blockId = some block)
    (agree : update.apply block = block) :
    manager.updated blockId update = manager := by
  simp only [updated, WorkBlockStore.updateBlock_eq_self found agree]

theorem block_updated (update : BlockUpdate) (found : manager.store.block blockId = some block) :
    (manager.updated blockId update).store.block blockId = some (update.apply block) :=
  WorkBlockStore.block_updateBlock update found

end WorkBlockManager

theorem SameRecord.updated {first second : WorkBlockManager}
    (same : SameRecord first second) (blockId : Uuid) (update : BlockUpdate) :
    SameRecord (first.updated blockId update) (second.updated blockId update) :=
  ⟨by simp [WorkBlockManager.updated, same.blocks], same.rawEventBuffer, same.focus,
    same.manualResetAt⟩

section Statements

variable {manager : WorkBlockManager} {blockId : Uuid} {block : WorkBlock}

theorem getBlock_spec (found : manager.store.block blockId = some block) :
    getBlock blockId manager = (.ok block.record.loaded, manager) := by
  simp [getBlock, found]

theorem updateWorkBlock_spec (matching : WorkBlock → Bool) (update : BlockUpdate)
    (found : manager.store.block blockId = some block) (admitted : matching block = true) :
    updateWorkBlock blockId matching update manager = (.ok (), manager.updated blockId update) := by
  simp [updateWorkBlock, found, admitted, WorkBlockManager.updated]

theorem command_updateBlock (update : BlockUpdate) :
    ManagerM.command (·.updateBlock blockId update) manager =
      (.ok (), manager.updated blockId update) :=
  rfl

theorem resolveIntervention_spec (outcome : WorkBlockInterventionOutcome) (instant : Int) :
    resolveIntervention blockId outcome instant manager =
      (.ok (), manager.updated blockId (.resolveIntervention outcome instant)) :=
  rfl

theorem closeOpenObservation_spec (instant : Int) : closeOpenObservation blockId instant manager =
      (.ok (), manager.updated blockId (.closeOpenObservation instant)) :=
  rfl

theorem publishDeadline_spec (deadline : Option Int) : publishDeadline deadline manager =
      (.ok (), { manager with deadline := deadline }) :=
  rfl

theorem focusActive_spec (instant : Int) : focusActive instant manager =
      (.ok (manager.surroundings.focusActive instant), manager) :=
  rfl

theorem reportedDwells_updated (update : BlockUpdate) :
    (manager.updated blockId update).store.reportedDwells =
      manager.surroundings.reportedDwells :=
  rfl

theorem focusActive_updated (update : BlockUpdate) :
    (manager.updated blockId update).surroundings.focusActive =
      manager.surroundings.focusActive :=
  rfl

theorem closeOpenObservationAtReportedEnd_spec (boundary : Int)
    (found : manager.store.block blockId = some block) :
    closeOpenObservationAtReportedEnd blockId boundary manager = (.ok (), manager.updated blockId
        (.closeAtReportedEnd manager.surroundings boundary)) := by
  have latest : manager.store.latestObservation blockId = block.latestObservation := by
    simp [WorkBlockStore.latestObservation, found]
  simp only [closeOpenObservationAtReportedEnd, ManagerM.bind_apply, ManagerM.query_apply, latest]
  cases openRow : block.latestObservation.filter (·.endedAt.isNone) with
  | none =>
    rw [WorkBlockManager.updated_eq_self found]
    · rfl
    · simp only [BlockUpdate.closeAtReportedEnd, openRow]
  | some openRow =>
    simp only [ManagerM.bind_apply, ManagerM.query_apply, closeOpenObservation,
      ManagerM.command_apply]
    refine congrArg (Prod.mk _) (WorkBlockManager.updated_congr found ?_)
    simp only [BlockUpdate.closeAtReportedEnd, *]
    rfl

theorem finalize_spec (completion : WorkBlockCompletion)
    (found : manager.store.block blockId = some block)
    (live : block.phase.isLive = true) (noResult : block.resultRow = none) :
    finalize blockId completion manager =
      (.ok completion.result, manager.updated blockId (.finalize completion)) := by
  have result : manager.store.result blockId = none := by
    simp [WorkBlockStore.result, found, noResult]
  simp only [finalize, ManagerM.bind_apply, ManagerM.query_apply, result,
    updateWorkBlock_spec (·.phase.isLive) _ found live, ManagerM.pure_apply]

end Statements

theorem BlockUpdate.resolveRow_answered (outcome : WorkBlockInterventionOutcome)
    (answered : outcome ≠ .offered) (stored : Int) (row : WorkBlockIntervention .seconds) :
    (BlockUpdate.resolveRow outcome stored row).outcome ≠ .offered := by
  unfold BlockUpdate.resolveRow
  split
  · exact answered
  · assumption

/-- A live block without a result is finished and shown as it is then stored. -/
theorem finish_spec {manager : WorkBlockManager} {block : WorkBlock}
    (phase : WorkBlockPhase) (endedAt : Int)
    (found : manager.store.block block.blockId = some block)
    (live : block.phase.isLive = true) (noResult : block.resultRow = none) :
    ∃ snapshot next, finish block.record.loaded phase endedAt manager = (.ok snapshot, next) ∧
      SameRecord (manager.updated block.blockId
        (.finishing manager.surroundings phase endedAt)) next ∧
      Portrays ((BlockUpdate.finishing manager.surroundings phase endedAt).apply
          block).record.loaded
        endedAt
        ((BlockUpdate.finishing manager.surroundings phase endedAt).apply block).resultRow
        snapshot ∧
      snapshot.activeIntervention = none := by
  set settling := BlockUpdate.settling manager.surroundings endedAt with settling_def
  set settled := settling.apply block with settled_def
  have settledFound : (manager.updated block.blockId settling).store.block block.blockId =
      some settled := WorkBlockManager.block_updated settling found
  have settledRecord : settled.record = block.record := by
    simp [settled_def, settling_def]
  have settledLive : settled.phase.isLive = true := by
    simpa [WorkBlock.phase, settledRecord] using live
  have settledResult : settled.resultRow = none := by
    simpa [settled_def, settling_def] using noResult
  have result : manager.store.result block.blockId = none := by
    simp [WorkBlockStore.result, found, noResult]
  have observations : (manager.updated block.blockId settling).store.observations block.blockId =
        settled.observations := by
    simp [WorkBlockStore.observations, settledFound]
  have offer : (manager.updated block.blockId settling).store.intervention block.blockId =
      settled.interventionRow.map WorkBlockIntervention.loaded := by
    simp [WorkBlockStore.intervention, settledFound]
  have payload : settled.resultAt manager.surroundings phase endedAt =
      withDndEvidence (aggregateResult block.record.loaded phase
          (elapsedSeconds block.record.loaded endedAt) settled.observations
          (reportedCoverageSeconds
            (manager.surroundings.reportedDwells block.record.loaded.startedAt endedAt)
            settled.observations block.record.loaded.startedAt endedAt))
        (phase == .completed && manager.surroundings.focusActive endedAt)
        (if (settled.interventionRow.map WorkBlockIntervention.loaded).any
          (fun offer => offer.outcome == .deliverySuppressedDnd) then 1 else 0) := by
    simp only [WorkBlock.resultAt, settledRecord, Option.any_map]
    rfl
  set finishing := BlockUpdate.finishing manager.surroundings phase endedAt
    with finishing_def
  have ended : manager.updated block.blockId (settling.andThen (.finalize
        { phase := phase
          endedAt := endedAt
          result := settled.resultAt manager.surroundings phase endedAt })) =
      manager.updated block.blockId finishing :=
    WorkBlockManager.updated_congr found rfl
  have endedFound : (manager.updated block.blockId finishing).store.block block.blockId =
      some (finishing.apply block) := WorkBlockManager.block_updated finishing found
  have endedResult : (finishing.apply block).resultRow =
      some (settled.resultAt manager.surroundings phase endedAt) := by
    rw [finishing_def, BlockUpdate.finishing_apply _ _ _ live noResult]
  have sameId : block.record.loaded.blockId = block.blockId := rfl
  obtain ⟨snapshot, next, runs, same, portrays, active⟩ :=
    snapshotWithResult_spec (finishing.apply block).record.loaded endedAt
      (some (settled.resultAt manager.surroundings phase endedAt))
      { manager.updated block.blockId finishing with deadline := none }
  refine ⟨snapshot, next, ?_, (SameRecord.publish _ none).trans same, ?_, ?_⟩
  · have closes := closeOpenObservationAtReportedEnd_spec endedAt found
    have settles := finalize_spec
      { phase := phase
        endedAt := endedAt
        result := settled.resultAt manager.surroundings phase endedAt }
      settledFound settledLive settledResult
    have reads : getBlock block.blockId
        { manager.updated block.blockId finishing with deadline := none } =
        (.ok (finishing.apply block).record.loaded,
          { manager.updated block.blockId finishing with deadline := none }) :=
      getBlock_spec endedFound
    have together : (BlockUpdate.closeAtReportedEnd manager.surroundings endedAt).andThen
        (.resolveIntervention .noResponse endedAt) = settling := rfl
    simp only [finish, ManagerM.bind_apply, ManagerM.query_apply, sameId, result,
      closes, resolveIntervention_spec, WorkBlockManager.updated_updated, together,
      observations, offer, focusActive_spec, reportedDwells_updated, focusActive_updated,
      ← payload, settles, ended, publishDeadline_spec, reads, runs]
  · rw [endedResult]
    exact portrays
  · by_contra shown
    obtain ⟨-, offer, isOffer, offered⟩ := active (Option.isSome_iff_ne_none.mpr shown)
    have read : (finishing.apply block).interventionRow.map WorkBlockIntervention.loaded =
        some offer := by
      have endedId : (finishing.apply block).record.loaded.blockId = block.blockId :=
        finishing.keepsId block
      rw [← isOffer]
      simp only [WorkBlockStore.intervention, endedId, endedFound, Option.bind_some]
    rw [finishing_def, BlockUpdate.finishing_apply _ _ _ live noResult] at read
    cases pending : block.interventionRow with
    | none => simp [pending] at read
    | some row =>
      simp only [BlockUpdate.settling_interventionRow, pending, Option.map_some,
        Option.some.injEq] at read
      exact BlockUpdate.resolveRow_answered .noResponse (by simp) _ row
        (by rw [← offered, ← read]; rfl)

section Gate

variable {manager : WorkBlockManager} {blockId : Uuid} {block : WorkBlock}

theorem intervention_of_block (found : manager.store.block blockId = some block) :
    manager.store.intervention blockId =
      block.interventionRow.map WorkBlockIntervention.loaded := by
  simp [WorkBlockStore.intervention, found]

theorem BlockUpdate.resolveIntervention_eq_self (outcome : WorkBlockInterventionOutcome)
    (instant : Int) (answered : ∀ row ∈ block.interventionRow, row.outcome ≠ .offered) :
    (BlockUpdate.resolveIntervention outcome instant).apply block = block := by
  have rows : block.interventionRow.map
      (BlockUpdate.resolveRow outcome (timestamp instant)) = block.interventionRow := by
    cases pending : block.interventionRow with
    | none => rfl
    | some row => simp [BlockUpdate.resolveRow, answered row (by simp [pending])]
  simp only [BlockUpdate.resolveIntervention, rows]

theorem recordReturnIfPending_spec (record : WorkBlockRecord .nanoseconds)
    (observation : WorkBlockObservation .nanoseconds)
    (found : manager.store.block record.blockId = some block) :
    recordReturnIfPending record observation observation.occurredAt manager =
      (.ok (), manager.updated record.blockId (.returning observation)) := by
  have unanswered (nothing : (BlockUpdate.returning observation).apply block = block) :
      manager.updated record.blockId (.returning observation) = manager :=
    WorkBlockManager.updated_eq_self found nothing
  by_cases confident : isConfidentEvidence observation = true
  · cases pending : block.interventionRow with
    | none =>
      rw [unanswered (by simp [BlockUpdate.returning, pending])]
      simp [recordReturnIfPending, confident, intervention_of_block found, pending]
    | some row =>
      by_cases anchor : eqIgnoreAsciiCase row.anchorCategory observation.category = true
      · by_cases offered : row.outcome = .offered
        · have agree : (BlockUpdate.returning observation).apply block =
              (BlockUpdate.resolveIntervention .returned observation.occurredAt).apply block := by
            simp [BlockUpdate.returning, confident, pending, anchor]
          rw [WorkBlockManager.updated_congr found agree]
          simp [recordReturnIfPending, confident, intervention_of_block found,
            pending, anchor, offered, WorkBlockIntervention.loaded,
            resolveIntervention_spec]
        · rw [unanswered]
          · simp [recordReturnIfPending, confident, intervention_of_block found,
              pending, offered, WorkBlockIntervention.loaded]
          · simp only [BlockUpdate.returning]
            split
            · exact BlockUpdate.resolveIntervention_eq_self _ _ (by simp [pending, offered])
            · rfl
      · rw [unanswered (by simp [BlockUpdate.returning, pending, anchor])]
        simp [recordReturnIfPending, confident, intervention_of_block found,
          pending, anchor, WorkBlockIntervention.loaded]
  · rw [unanswered (by simp [BlockUpdate.returning, confident])]
    simp [recordReturnIfPending, confident]

theorem judging_abstains {surroundings : Surroundings}
    {record : WorkBlockRecord .nanoseconds} {now : Int} {reading : GateReading}
    (found : manager.store.block record.blockId = some block)
    (decided : gateReading surroundings block record now = reading)
    (noOffer : ∀ salience, reading.offer salience now = none) :
    manager.updated record.blockId (.recordDecision (reading.decision record now)) =
      manager.updated record.blockId (.judging surroundings record now) := by
  apply WorkBlockManager.updated_congr found
  simp [BlockUpdate.recordDecision, BlockUpdate.judging, decided, noOffer]

theorem judging_offers {surroundings : Surroundings}
    {record : WorkBlockRecord .nanoseconds} {now : Int} {reading : GateReading}
    {offer : WorkBlockIntervention .nanoseconds}
    (found : manager.store.block record.blockId = some block)
    (decided : gateReading surroundings block record now = reading)
    (offered : reading.offer (surroundings.backoff now).salience now = some offer) :
    manager.updated record.blockId
        ((BlockUpdate.recordDecision (reading.decision record now)).andThen
          (.recordIntervention offer)) =
      manager.updated record.blockId (.judging surroundings record now) := by
  apply WorkBlockManager.updated_congr found
  simp [BlockUpdate.recordDecision, BlockUpdate.recordIntervention, BlockUpdate.andThen,
    BlockUpdate.judging, decided, offered]

/-- The drift policy never fails, and does to the store what `judging` says. -/
theorem evaluateDrift_spec (record : WorkBlockRecord .nanoseconds) (now : Int)
    (found : manager.store.block record.blockId = some block) :
    ∃ notification next, evaluateDrift record now manager = (.ok notification, next) ∧
      SameRecord (manager.updated record.blockId
        (.judging manager.surroundings record now)) next := by
  have abstains {reading : GateReading}
      (decided : gateReading manager.surroundings block record now = reading)
      (noOffer : ∀ salience, reading.offer salience now = none) :
      SameRecord (manager.updated record.blockId (.judging manager.surroundings record now))
        (manager.updated record.blockId (.recordDecision (reading.decision record now))) := by
    rw [judging_abstains found decided noOffer]
    exact SameRecord.refl _
  have backoff : backoffState now manager = (.ok (manager.surroundings.backoff now), manager) := rfl
  have observations : manager.store.observations record.blockId = block.observations := by
    simp [WorkBlockStore.observations, found]
  unfold evaluateDrift
  by_cases warmup : elapsedSeconds record now < driftMinElapsedSeconds
  · rw [if_pos warmup]
    exact ⟨none, _, rfl, abstains (if_pos warmup) fun _ => rfl⟩
  by_cases late : record.plannedDurationSeconds - elapsedSeconds record now <
      driftMinRemainingSeconds
  · rw [if_neg warmup, if_pos late]
    exact ⟨none, _, rfl, abstains ((if_neg warmup).trans (if_pos late)) fun _ => rfl⟩
  rw [if_neg warmup, if_neg late]
  simp only [ManagerM.bind_apply, ManagerM.query_apply, intervention_of_block found,
    Option.isSome_map]
  have afterGuards : gateReading manager.surroundings block record now = _ :=
    (if_neg warmup).trans (if_neg late)
  by_cases capped : block.interventionRow.isSome = true
  · rw [if_pos capped]
    exact ⟨none, _, rfl, abstains (afterGuards.trans (if_pos capped)) fun _ => rfl⟩
  rw [if_neg capped]
  have afterCap := afterGuards.trans (if_neg capped)
  simp only [ManagerM.bind_apply, backoff]
  by_cases suppressed : (manager.surroundings.backoff now).suppressed = true
  · rw [if_pos suppressed]
    exact ⟨none, _, rfl, abstains (afterCap.trans (if_pos suppressed)) fun _ => rfl⟩
  rw [if_neg suppressed]
  have afterBackoff := afterCap.trans (if_neg suppressed)
  simp only [ManagerM.bind_apply, ManagerM.query_apply, observations]
  cases dominant : dominantCategory block.observations with
  | none =>
    simp only [dominant] at afterBackoff
    exact ⟨none, _, rfl, abstains afterBackoff fun _ => rfl⟩
  | some anchor =>
    simp only [dominant] at afterBackoff
    dsimp only
    set scan := departureScan block.observations anchor
      (now - Duration.seconds driftWindowSeconds) with scan_def
    by_cases few : scan.switchCount < driftMinSwitches
    · rw [if_pos few] at afterBackoff ⊢
      exact ⟨none, _, rfl, abstains afterBackoff fun _ => rfl⟩
    rw [if_neg few] at afterBackoff ⊢
    by_cases atAnchor : scan.previousWasAnchor = some true
    · rw [if_pos atAnchor] at afterBackoff ⊢
      exact ⟨none, _, rfl, abstains afterBackoff fun _ => rfl⟩
    rw [if_neg atAnchor] at afterBackoff ⊢
    obtain ⟨evaluation, judged, evaluates, same, verdict⟩ :=
      evaluateDemotion_spec now manager
    have state : evaluation.state = manager.surroundings.demotion now := verdict
    simp only [ManagerM.bind_apply, evaluates, state]
    have offers {reading : GateReading} {offer : WorkBlockIntervention .nanoseconds}
        (decided : gateReading manager.surroundings block record now = reading)
        (offered : reading.offer (manager.surroundings.backoff now).salience now = some offer) :
        SameRecord (manager.updated record.blockId (.judging manager.surroundings record now))
          ((judged.updated record.blockId
            (.recordDecision (reading.decision record now))).updated record.blockId
              (.recordIntervention offer)) := by
      rw [WorkBlockManager.updated_updated, ← judging_offers found decided offered]
      exact same.updated _ _
    by_cases demoted : manager.surroundings.demotion now = .demoted
    · rw [if_pos demoted] at afterBackoff ⊢
      exact ⟨none, _, rfl, offers afterBackoff rfl⟩
    rw [if_neg demoted] at afterBackoff ⊢
    simp only [ManagerM.bind_apply, focusActive_spec, same.surroundings]
    by_cases focused : manager.surroundings.focusActive now = true
    · rw [if_pos focused] at afterBackoff ⊢
      exact ⟨none, _, rfl, offers afterBackoff rfl⟩
    · rw [if_neg focused] at afterBackoff ⊢
      exact ⟨_, _, rfl, offers afterBackoff rfl⟩

end Gate

end Velvt
