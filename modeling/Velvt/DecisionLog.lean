import Velvt.DriftGate

/-!
# The decision log and the intervention table

Every evaluation of the gate logs one decision, and the decision that inserts a block's row is the
last one the gate makes freely: afterwards it abstains at its first three guards.
-/

namespace Velvt

open StepMachine BlockUpdate WorkBlockStore Option

/-- What later operations keep of an intervention row. -/
structure WorkBlockIntervention.Later (row later : WorkBlockIntervention .seconds) : Prop where
  offeredAt : later.offeredAt = row.offeredAt
  anchorCategory : later.anchorCategory = row.anchorCategory
  switchCount : later.switchCount = row.switchCount
  delivered : later.outcome.isDelivered = row.outcome.isDelivered
  answered : row.outcome.isTerminal = true →
    later.outcome = row.outcome ∧ later.outcomeAt = row.outcomeAt
  seen : ∀ second, row.cardSeenAt = some second → later.cardSeenAt = some second

namespace WorkBlockIntervention

variable {row : WorkBlockIntervention .seconds}

theorem Later.refl (row : WorkBlockIntervention .seconds) : row.Later row :=
  ⟨rfl, rfl, rfl, rfl, fun _ => ⟨rfl, rfl⟩, fun _ seen => seen⟩

theorem Later.trans {middle later : WorkBlockIntervention .seconds}
    (before : row.Later middle) (after : middle.Later later) : row.Later later := by
  refine ⟨after.offeredAt.trans before.offeredAt, after.anchorCategory.trans before.anchorCategory,
    after.switchCount.trans before.switchCount, after.delivered.trans before.delivered,
    fun answered => ?_, fun second seen => after.seen second (before.seen second seen)⟩
  obtain ⟨outcome, outcomeAt⟩ := before.answered answered
  obtain ⟨outcomeLater, outcomeAtLater⟩ := after.answered (by rw [outcome]; exact answered)
  exact ⟨outcomeLater.trans outcome, outcomeAtLater.trans outcomeAt⟩

theorem later_seeCard (stored : Int) (row : WorkBlockIntervention .seconds) :
    row.Later (BlockUpdate.seeCard stored row) := by
  simp only [BlockUpdate.seeCard]
  split
  next unseen =>
    exact ⟨rfl, rfl, rfl, rfl, fun _ => ⟨rfl, rfl⟩, fun second seen => by simp [seen] at unseen⟩
  · exact .refl row

theorem later_resolveRow {outcome : WorkBlockInterventionOutcome}
    (delivered : outcome.isDelivered = true) (stored : Int) (row : WorkBlockIntervention .seconds) :
    row.Later (BlockUpdate.resolveRow outcome stored row) := by
  simp only [BlockUpdate.resolveRow]
  split
  next offered =>
    refine ⟨rfl, rfl, rfl, ?_, fun answered => ?_, fun _ seen => seen⟩
    · rw [offered]
      exact delivered
    · rw [offered] at answered
      cases answered
  · exact .refl row

theorem Later.offered {later : WorkBlockIntervention .seconds} (kept : row.Later later)
    (offered : later.outcome = .offered) : row.outcome = .offered := by
  by_contra answered
  have terminal : row.outcome.isTerminal = true := by
    cases outcome : row.outcome <;> simp_all [WorkBlockInterventionOutcome.isTerminal]
  exact answered ((kept.answered terminal).1.symm.trans offered)

end WorkBlockIntervention

namespace WorkBlock

variable {surroundings : Surroundings} {op : Operation} {block after : WorkBlock}

/-- The block keeps its row, or still has none. -/
def KeepsRow (block after : WorkBlock) : Prop :=
  ∃ change : WorkBlockIntervention .seconds → WorkBlockIntervention .seconds,
    (∀ row, WorkBlockIntervention.Later row (change row)) ∧
      after.interventionRow = block.interventionRow.map change

theorem KeepsRow.of_eq (same : after.interventionRow = block.interventionRow) :
    block.KeepsRow after :=
  ⟨id, .refl, by simp [same]⟩

theorem keepsRow_returning (observation : WorkBlockObservation .nanoseconds) :
    block.KeepsRow ((BlockUpdate.returning observation).apply
      ((BlockUpdate.observing observation).apply block)) := by
  simp only [BlockUpdate.returning]
  split
  · exact ⟨_, WorkBlockIntervention.later_resolveRow rfl _, rfl⟩
  · exact .of_eq rfl

/-- One evaluation of the gate, as the two tables see it. -/
inductive Judges (surroundings : Surroundings) (op : Operation) (block after : WorkBlock) : Prop
  | evaluated (category : String) (status : ClassificationStatus)
      (confidence : ClassificationConfidence) (occurredAt receivedAt : Int)
      (observation : WorkBlockObservation .nanoseconds)
      (record : WorkBlockRecord .nanoseconds) (judged : WorkBlock)
      (isReport : op = .observeSafeCategory category status confidence occurredAt receivedAt)
      (running : block.Running occurredAt)
      (reported : observation = reportedObservation block category status confidence occurredAt)
      (opens : block.OpensRow observation)
      (fresh : ¬ block.ContinuesDecidedDwell observation occurredAt)
      (isRecord : record = block.record.loaded)
      (ledger : judged.observationRows =
        block.observationRows.map
          (BlockUpdate.closeRow (timestamp observation.occurredAt)) ++ [observation.stored])
      (sameLedger : after.observationRows = judged.observationRows)
      (keeps : block.KeepsRow judged)
      (decisions : after.decisionRows = block.decisionRows ++
        [((gateReading surroundings judged record observation.occurredAt).decision record
          observation.occurredAt).stored])
      (isRow : after.interventionRow = judged.interventionRow.or
        (((gateReading surroundings judged record observation.occurredAt).offer
          (surroundings.backoff observation.occurredAt).salience
          observation.occurredAt).map WorkBlockIntervention.stored))

theorem log_of_advance (accounted : block.Accounted)
    (advance : Advance surroundings op block after) :
    (after.decisionRows = block.decisionRows ∧ block.KeepsRow after) ∨
      block.Judges surroundings op after := by
  cases advance with
  | unchanged => exact Or.inl ⟨rfl, .of_eq rfl⟩
  | cardSeen now => exact Or.inl ⟨rfl, _, WorkBlockIntervention.later_seeCard _, rfl⟩
  | replied response now =>
    have delivered : (outcomeFor response).isDelivered = true := by cases response <;> rfl
    exact Or.inl ⟨rfl, _, WorkBlockIntervention.later_resolveRow delivered _, rfl⟩
  | paused running =>
    rw [pausing_apply _ _ running.active]
    exact Or.inl ⟨by simp, .of_eq (by simp)⟩
  | resumed now pausedAt isResume paused =>
    rw [setActive_apply _ _ paused]
    exact Or.inl ⟨rfl, .of_eq rfl⟩
  | recovered now isRestart running =>
    rw [recovering_apply _ _ running.live]
    exact Or.inl ⟨by simp, .of_eq (by simp)⟩
  | recoveredPaused now isRestart paused =>
    rw [markRecovered_apply _ (by simp_all [WorkBlockPhase.isLive])]
    exact Or.inl ⟨rfl, .of_eq rfl⟩
  | continued => exact Or.inl ⟨rfl, .of_eq rfl⟩
  | judged category status confidence occurredAt receivedAt isReport running
      observation reported opens fresh =>
      refine Or.inr (.evaluated _ _ _ _ _ _ _ ((BlockUpdate.returning observation).apply
          ((BlockUpdate.observing observation).apply block))
        isReport running reported opens fresh rfl (by simp) rfl
        (keepsRow_returning observation) ?_ rfl)
      simp [BlockUpdate.judging]
  | finished phase endedAt live =>
    rw [finishing_apply _ _ _ live (accounted.noResult live)]
    exact Or.inl ⟨by simp, _, WorkBlockIntervention.later_resolveRow rfl _, by simp; rfl⟩

/-- The decision that inserted a row, between those before it and those after. -/
structure Decides (earlier : List (InterventionDecision .seconds))
    (decision : InterventionDecision .seconds) (later : List (InterventionDecision .seconds))
    (row : WorkBlockIntervention .seconds) : Prop where
  noneBefore : ∀ other ∈ earlier, other.gateVerdict.inserts = false
  inserts : decision.gateVerdict.inserts = true
  occurredAt : decision.occurredAt = row.offeredAt
  anchorCategory : decision.anchorCategory = some row.anchorCategory
  switchCount : decision.switchCount = row.switchCount
  spentAfter : ∀ other ∈ later, other.gateVerdict.isSpent = true

/-- The log of a block without a row has no inserting decision; that of a block with
a row has the one that inserted it. -/
structure Logged (block : WorkBlock) : Prop where
  withoutRow : block.interventionRow = none →
    ∀ decision ∈ block.decisionRows, decision.gateVerdict.inserts = false
  withRow : ∀ row, block.interventionRow = some row →
    ∃ earlier decision later, block.decisionRows = earlier ++ decision :: later ∧
      Decides earlier decision later row

theorem Decides.later {earlier later : List (InterventionDecision .seconds)}
    {decision : InterventionDecision .seconds} {row rowLater : WorkBlockIntervention .seconds}
    (decides : Decides earlier decision later row) (kept : row.Later rowLater) :
    Decides earlier decision later rowLater :=
  ⟨decides.noneBefore, decides.inserts, decides.occurredAt.trans kept.offeredAt.symm,
    decides.anchorCategory.trans (by rw [kept.anchorCategory]),
    decides.switchCount.trans kept.switchCount.symm, decides.spentAfter⟩

theorem Logged.of_keeps (logged : block.Logged)
    (decisions : after.decisionRows = block.decisionRows) (keeps : block.KeepsRow after) :
    after.Logged := by
  obtain ⟨change, later, isRow⟩ := keeps
  refine ⟨fun noRow => ?_, fun rowLater someRow => ?_⟩
  · rw [decisions]
    exact logged.withoutRow (by simpa [isRow] using noRow)
  · obtain ⟨row, wasRow, rfl⟩ := map_eq_some_iff.mp (isRow.symm.trans someRow)
    obtain ⟨earlier, decision, rest, isLog, decides⟩ := logged.withRow row wasRow
    exact ⟨earlier, decision, rest, decisions.trans isLog, decides.later (later row)⟩

/-- A judged report logs the decision it came to. -/
theorem Logged.of_judges (logged : block.Logged)
    (judges : block.Judges surroundings op after) : after.Logged := by
  obtain ⟨_, _, _, _, _, ⟨now, _, _, _, _⟩, record, judged, -, -, -, -, -, -, -, -, keeps,
    decisions, isRow⟩ := judges
  dsimp only at decisions isRow
  set reading := gateReading surroundings judged record now with reading_def
  have before : ({ judged with decisionRows := block.decisionRows } : WorkBlock).Logged :=
    logged.of_keeps rfl keeps
  cases judgedRow : judged.interventionRow with
  | some row =>
    obtain ⟨earlier, decision, later, isLog, decides⟩ := before.withRow row judgedRow
    have spent : reading.verdict.isSpent = true :=
      gateReading_capped (by rw [judgedRow]; rfl)
    rw [judgedRow] at isRow
    refine ⟨by simp [isRow], fun rowLater someRow => ?_⟩
    obtain rfl : row = rowLater := Option.some.inj (isRow.symm.trans someRow)
    refine ⟨earlier, decision, later ++ [(reading.decision record now).stored],
      ?_, { decides with spentAfter := fun other member => ?_ }⟩
    · have isLog : block.decisionRows = earlier ++ decision :: later := isLog
      rw [decisions, isLog]
      simp
    · rcases List.mem_append.mp member with old | new
      · exact decides.spentAfter other old
      · obtain rfl := List.mem_singleton.mp new
        exact spent
  | none =>
    have noneBefore := before.withoutRow judgedRow
    rw [judgedRow, none_or] at isRow
    cases inserts : reading.verdict.inserts with
    | false =>
      have noOffer : reading.offer (surroundings.backoff now).salience now = none := by
        rw [← not_isSome_iff_eq_none, GateReading.offer_isSome, inserts]
        exact Bool.false_ne_true
      refine ⟨fun _ other member => ?_, by simp [isRow, noOffer]⟩
      rw [decisions, List.mem_append, List.mem_singleton] at member
      rcases member with old | rfl
      · exact noneBefore other old
      · exact inserts
    | true =>
      obtain ⟨anchor, cleared⟩ := gateReading_cleared inserts
      refine ⟨fun noRow => ?_, fun row someRow => ?_⟩
      · rw [isRow, map_eq_none_iff, ← not_isSome_iff_eq_none,
          GateReading.offer_isSome, inserts] at noRow
        exact absurd rfl noRow
      · obtain ⟨offer, isOffer, rfl⟩ :=
          map_eq_some_iff.mp (isRow.symm.trans someRow)
        obtain ⟨offeredAt, anchorCategory, switchCount, -, -⟩ :=
          GateReading.offer_fields isOffer
        rw [← reading_def] at cleared
        refine ⟨block.decisionRows, (reading.decision record now).stored, [], decisions,
          noneBefore, inserts, ?_, ?_, switchCount.symm, by simp⟩
        · exact congrArg timestamp offeredAt.symm
        · simp [GateReading.decision, anchorCategory, cleared.anchorCategory]

theorem Logged.of_advance (logged : block.Logged) (accounted : block.Accounted)
    (advance : Advance surroundings op block after) : after.Logged := by
  rcases log_of_advance accounted advance with ⟨decisions, keeps⟩ | judges
  · exact logged.of_keeps decisions keeps
  · exact logged.of_judges judges

theorem Logged.isSome_iff (logged : block.Logged) : block.interventionRow.isSome = true ↔
      (block.decisionRows.filter (·.gateVerdict.inserts)).length = 1 := by
  have spentInserts {verdict : GateVerdict} (spent : verdict.isSpent = true) :
      verdict.inserts = false := by
    cases verdict <;> simp_all [GateVerdict.isSpent, GateVerdict.inserts]
  cases isRow : block.interventionRow with
  | none =>
    have noneInserts : block.decisionRows.filter (·.gateVerdict.inserts) = [] :=
      List.filter_eq_nil_iff.mpr fun decision member => by
        simp [logged.withoutRow isRow decision member]
    simp [noneInserts]
  | some row =>
    obtain ⟨earlier, decision, later, isLog, decides⟩ := logged.withRow row isRow
    have noneBefore : earlier.filter (·.gateVerdict.inserts) = [] :=
      List.filter_eq_nil_iff.mpr fun other member => by
        simp [decides.noneBefore other member]
    have noneAfter : later.filter (·.gateVerdict.inserts) = [] :=
      List.filter_eq_nil_iff.mpr fun other member => by
        simp [spentInserts (decides.spentAfter other member)]
    simp [isLog, noneBefore, noneAfter, decides.inserts]

/-- A row that the gate has just inserted. -/
structure Inserted (surroundings : Surroundings) (op : Operation)
    (block after : WorkBlock) (row : WorkBlockIntervention .seconds) : Prop where
  running : block.Running op.instant
  noRow : block.interventionRow = none
  offeredAt : row.offeredAt = timestamp (block.clampedInstant op.instant)
  delivered : row.outcome.isDelivered = true → row.outcome = .offered
  cleared : ∃ reading judged anchor, judged.observationRows = after.observationRows ∧
    Cleared surroundings judged block.record.loaded (block.clampedInstant op.instant)
      reading anchor ∧
    row.anchorCategory = anchor ∧ row.switchCount = reading.switchCount ∧
    (row.outcome = .offered → reading.verdict = .offered)

/-- The row after a step is an earlier one that went on, or was inserted. -/
theorem row_before (accounted : block.Accounted) (advance : Advance surroundings op block after)
    {row : WorkBlockIntervention .seconds} (isRow : after.interventionRow = some row) :
    (∃ old, block.interventionRow = some old ∧ old.Later row) ∨
      Inserted surroundings op block after row := by
  rcases log_of_advance accounted advance with ⟨-, change, later, kept⟩ | judges
  · obtain ⟨old, wasRow, rfl⟩ := map_eq_some_iff.mp (kept.symm.trans isRow)
    exact Or.inl ⟨old, wasRow, later old⟩
  obtain ⟨_, _, _, occurredAt, _, observation, record, judged, isReport, running, reported,
    -, -, isRecord, -, sameLedger, ⟨change, later, kept⟩, -, isAfter⟩ := judges
  have isNow : observation.occurredAt = block.clampedInstant occurredAt := by
    rw [reported]
    rfl
  rw [isNow] at isAfter
  cases wasRow : block.interventionRow with
  | some old =>
    refine Or.inl ⟨old, rfl, ?_⟩
    rw [isAfter, kept, wasRow, map_some, some_or] at isRow
    cases isRow
    exact later old
  | none =>
    have noRow : judged.interventionRow = none := by rw [kept, wasRow, map_none]
    rw [isAfter, noRow, none_or] at isRow
    obtain ⟨offer, isOffer, rfl⟩ := map_eq_some_iff.mp isRow
    obtain ⟨offeredAt, anchorCategory, switchCount, outcome, delivered⟩ :=
      GateReading.offer_fields isOffer
    have inserts : (gateReading surroundings judged record
        (block.clampedInstant occurredAt)).verdict.inserts = true := by
      rw [← GateReading.offer_isSome, isOffer]
      rfl
    obtain ⟨anchor, cleared⟩ := gateReading_cleared inserts
    have isInstant : op.instant = occurredAt := by rw [isReport]; rfl
    subst isRecord
    refine Or.inr ⟨isInstant ▸ running, wasRow, ?_, delivered, _, judged, anchor,
      sameLedger.symm, isInstant ▸ cleared, ?_, switchCount, outcome.mp⟩
    · rw [isInstant]
      exact congrArg timestamp offeredAt
    · simp [anchorCategory, cleared.anchorCategory]

theorem row_of_advance (accounted : block.Accounted) (advance : Advance surroundings op block after)
    {row : WorkBlockIntervention .seconds} (isRow : block.interventionRow = some row) :
    ∃ later, after.interventionRow = some later ∧ row.Later later := by
  rcases log_of_advance accounted advance with ⟨-, change, later, kept⟩ | judges
  · exact ⟨change row, by simp [kept, isRow], later row⟩
  · obtain ⟨_, _, _, _, _, _, _, _, -, -, -, -, -, -, -, -, ⟨change, later, kept⟩, -,
      isAfter⟩ := judges
    exact ⟨change row, by simp [isAfter, kept, isRow], later row⟩

end WorkBlock

namespace WorkBlockManager

variable {manager : WorkBlockManager}

theorem logged_run (focus : Option (Int → Bool))
    (demotionRow : Option (DemotionStateRecord .seconds)) (rawEvents : List RawEventRow)
    (ops : List Operation) :
    ∀ block ∈ (managerMachine.run (opened focus demotionRow rawEvents) ops).store.blocks,
      block.Logged :=
  Owned.blocks_run (fun _ _ logged => ⟨logged.withoutRow, logged.withRow⟩)
    (fun _ _ _ => ⟨by simp [WorkBlockStore.createdBlock],
      by simp [WorkBlockStore.createdBlock]⟩)
    (fun _ _ _ _ accounted logged advance => logged.of_advance accounted advance)
    (owned_opened focus demotionRow rawEvents) (by simp [opened]) ops

theorem Owned.row_run (owned : manager.Owned) (ops : List Operation) {blockId : Uuid}
    {block : WorkBlock} (found : manager.store.block blockId = some block)
    {row : WorkBlockIntervention .seconds} (isRow : block.interventionRow = some row) :
    ∃ after later, (managerMachine.run manager ops).store.block blockId = some after ∧
      after.interventionRow = some later ∧ row.Later later := by
  induction ops generalizing manager block row with
  | nil => exact ⟨block, row, found, isRow, .refl row⟩
  | cons op ops ih =>
    obtain ⟨next, intention, nextFound, advance⟩ := block_step op owned.accounted found
    have accounted : (block.withIntention intention).Accounted :=
      owned.accounted block (mem_of_block found)
    obtain ⟨nextRow, isNextRow, kept⟩ :=
      WorkBlock.row_of_advance accounted advance isRow
    obtain ⟨after, later, afterFound, isLater, keptLater⟩ :=
      ih (owned.next op) nextFound isNextRow
    exact ⟨after, later, afterFound, isLater, kept.trans keptLater⟩

end WorkBlockManager

/-- One evaluation of the gate logs one decision under its block, and touches no other
block. -/
def LogsOneDecision (record : WorkBlockRecord .nanoseconds) (now : Int)
    (manager : WorkBlockManager) : Prop :=
  ∀ block, manager.store.block record.blockId = some block →
    ∃ notification next after decision,
      evaluateDrift record now manager = (.ok notification, next) ∧
      next.store.block record.blockId = some after ∧
      after.decisionRows = block.decisionRows ++ [decision] ∧
      ∀ other, other ≠ record.blockId → next.store.block other = manager.store.block other

theorem evaluateDrift_logsOneDecision (record : WorkBlockRecord .nanoseconds) (now : Int)
    (manager : WorkBlockManager) : LogsOneDecision record now manager := by
  intro block found
  obtain ⟨notification, next, runs, same⟩ := evaluateDrift_spec record now found
  have after : next.store.block record.blockId =
      some ((BlockUpdate.judging manager.surroundings record now).apply block) := by
    rw [same.block, WorkBlockManager.block_updated _ found]
  refine ⟨notification, next, _, _, runs, after, rfl, fun other different => ?_⟩
  rw [same.block, WorkBlockManager.updated, WorkBlockStore.updateBlock, block_updateBlocks]
  cases otherFound : manager.store.block other with
  | none => rfl
  | some otherBlock =>
    have otherId : otherBlock.record.blockId = other :=
      blockId_of_block otherFound
    simp [BlockUpdate.only, otherId, different]

/-- Each evaluation of the gate logs exactly one decision, and nothing else logs any.
A block has an intervention row if and only if exactly one of its decisions is an
inserting one; the row has that decision's instant, anchor and count, and every later
decision is one of the three abstentions of a spent block.  Once the row is answered,
no operation changes its outcome or when it was answered, and none ever changes when
its card was first seen. -/
theorem decisions_and_offers_agree (focus : Option (Int → Bool))
    (demotionRow : Option (DemotionStateRecord .seconds)) (rawEvents : List RawEventRow)
    (ops : List Operation) :
    let reached := managerMachine.run
      (WorkBlockManager.opened focus demotionRow rawEvents) ops
    (∀ record now manager, LogsOneDecision record now manager) ∧
    (∀ block ∈ reached.store.blocks, ∀ op, ∃ after,
      (managerMachine.next reached op).store.block block.blockId = some after ∧
      (after.decisionRows = block.decisionRows ∨
        ((∃ category status confidence occurredAt receivedAt,
            op = .observeSafeCategory category status confidence occurredAt receivedAt) ∧
          ∃ decision, after.decisionRows = block.decisionRows ++ [decision]))) ∧
    (∀ block ∈ reached.store.blocks,
      (block.interventionRow.isSome = true ↔
        (block.decisionRows.filter (·.gateVerdict.inserts)).length = 1) ∧
      ∀ row, block.interventionRow = some row →
        (∃ earlier decision later, block.decisionRows = earlier ++ decision :: later ∧
          decision.gateVerdict.inserts = true ∧
          row.offeredAt = decision.occurredAt ∧
          some row.anchorCategory = decision.anchorCategory ∧
          row.switchCount = decision.switchCount ∧
          ∀ other ∈ later, other.gateVerdict = .abstainedWarmup ∨
            other.gateVerdict = .abstainedRemaining ∨
            other.gateVerdict = .abstainedBlockCap) ∧
        ∀ laterOps, ∃ after laterRow,
          (managerMachine.run reached laterOps).store.block block.blockId = some after ∧
          after.interventionRow = some laterRow ∧
          (row.outcome.isTerminal = true →
            laterRow.outcome = row.outcome ∧ laterRow.outcomeAt = row.outcomeAt) ∧
          ∀ second, row.cardSeenAt = some second → laterRow.cardSeenAt = some second) := by
  intro reached
  have owned : reached.Owned :=
    (WorkBlockManager.owned_opened focus demotionRow rawEvents).run ops
  refine ⟨evaluateDrift_logsOneDecision, fun block member op => ?_,
    fun block member => ?_⟩
  · obtain ⟨after, intention, found, advance⟩ :=
      block_step op owned.accounted (block_of_mem member)
    have accounted : (block.withIntention intention).Accounted :=
      owned.accounted block member
    refine ⟨after, found, ?_⟩
    rcases WorkBlock.log_of_advance accounted advance with ⟨same, -⟩ | judges
    · exact Or.inl same
    · obtain ⟨_, _, _, _, _, _, _, _, isReport, -, -, -, -, -, -, -, -, decisions, -⟩ :=
        judges
      exact Or.inr ⟨⟨_, _, _, _, _, isReport⟩, _, decisions⟩
  · have logged :=
      WorkBlockManager.logged_run focus demotionRow rawEvents ops block member
    refine ⟨logged.isSome_iff, fun row isRow => ⟨?_, fun laterOps => ?_⟩⟩
    · obtain ⟨earlier, decision, later, isLog, decides⟩ := logged.withRow row isRow
      refine ⟨earlier, decision, later, isLog, decides.inserts, decides.occurredAt.symm,
        decides.anchorCategory.symm, decides.switchCount.symm, fun other otherMem => ?_⟩
      have spent := decides.spentAfter other otherMem
      cases verdict : other.gateVerdict <;> simp_all [GateVerdict.isSpent]
    · obtain ⟨after, later, found, isLater, kept⟩ :=
        owned.row_run laterOps (block_of_mem member) isRow
      exact ⟨after, later, found, isLater, kept.answered, kept.seen⟩

end Velvt
