import Velvt.DecisionLog
import Velvt.KeyedRows
import Velvt.WorkBlockClock

/-!
# The demotion policy

The verdict of the policy is a function of the intervention table and the last manual reset.
-/

namespace Velvt

open StepMachine List BlockUpdate

def demotionWindowSeconds : Int := 14 * 24 * 60 * 60

def demotionWindowStart (manualResetAt : Option Int) (second : Int) : Int :=
  match manualResetAt with
  | some resetAt => max (second - demotionWindowSeconds) resetAt
  | none => second - demotionWindowSeconds

theorem timestamp_demotionSince (manualResetAt : Option Int) (now : Int) :
    timestamp (demotionSince (manualResetAt.map fromTimestamp) now) =
      demotionWindowStart manualResetAt (timestamp now) := by
  have window : timestamp (now - Duration.days wrongInterventionRollingDays) =
      timestamp now - demotionWindowSeconds := by
    simp only [timestamp, Duration.days, Duration.seconds, wrongInterventionRollingDays,
      demotionWindowSeconds]
    omega
  cases manualResetAt with
  | none => exact window
  | some resetAt =>
    simp only [demotionSince, demotionWindowStart, Option.map_some, timestamp_max, window,
      timestamp_fromTimestamp]

def offeredSince (rows : List (WorkBlockIntervention .seconds)) (start : Int) :
    List (WorkBlockIntervention .seconds) :=
  rows.filter fun row => decide (start ≤ row.offeredAt)

def deliveredSince (rows : List (WorkBlockIntervention .seconds)) (start : Int) : Nat :=
  (offeredSince rows start).countP fun row => row.outcome.isDelivered

def wasFocusedSince (rows : List (WorkBlockIntervention .seconds)) (start : Int) : Nat :=
  (offeredSince rows start).countP fun row => row.outcome == .wasFocused

namespace WorkBlockStore

variable (store : WorkBlockStore)

def windowStart (second : Int) : Int := demotionWindowStart store.manualResetAt second

theorem demotionVerdict_eq (now : Int) : store.demotionVerdict now = demotionStateOf
      { delivered := deliveredSince store.interventionRows (store.windowStart (timestamp now))
        wasFocused := wasFocusedSince store.interventionRows
          (store.windowStart (timestamp now)) } := by
  simp only [demotionVerdict, wrongInterventionCounts, timestamp_demotionSince]
  rfl

theorem demotionVerdict_congr {first second : Int} (same : timestamp first = timestamp second) :
    store.demotionVerdict first = store.demotionVerdict second := by
  rw [demotionVerdict_eq, demotionVerdict_eq, same]

end WorkBlockStore

theorem wasFocusedSince_le (rows : List (WorkBlockIntervention .seconds)) (start : Int) :
    wasFocusedSince rows start ≤ deliveredSince rows start := by
  apply countP_mono_left
  intro row _ focused
  rw [beq_iff_eq] at focused
  rw [focused]
  rfl

theorem counts_of_delivered (rows : List (WorkBlockIntervention .seconds)) (since : Int) :
    wrongInterventionCounts (rows.filter fun row => row.outcome.isDelivered) since =
      wrongInterventionCounts rows since := by
  simp only [wrongInterventionCounts, filter_filter, countP_filter]
  congr 1
  · apply countP_congr
    intro row _
    cases row.outcome.isDelivered <;> simp
  · apply countP_congr
    intro row _
    cases outcome : row.outcome <;> simp [WorkBlockInterventionOutcome.isDelivered]

theorem demotionStateOf_demoted_iff {delivered wasFocused : Nat}
    (focused_le : wasFocused ≤ delivered) (fits : delivered * 100 ≤ u32Max) :
    demotionStateOf { delivered := delivered, wasFocused := wasFocused } = .demoted ↔
      10 ≤ delivered ∧ 15 * delivered < 100 * wasFocused := by
  have exactDelivered : saturatingMul delivered demotionThresholdPercent =
      15 * delivered := by
    simp only [saturatingMul, demotionThresholdPercent]
    omega
  have exactFocused : saturatingMul wasFocused 100 = 100 * wasFocused := by
    simp only [saturatingMul]
    omega
  simp only [demotionStateOf, demotionMinDeliveredSample, exactDelivered, exactFocused]
  split
  next above => exact iff_of_true rfl above
  next under => exact iff_of_false (by simp) under

theorem enough_of_demoted {counts : WrongInterventionCounts}
    (demoted : demotionStateOf counts = .demoted) : 10 ≤ counts.delivered := by
  simp only [demotionStateOf] at demoted
  split at demoted
  next above => exact above.1
  next => cases demoted

section Growth

variable {blocks : List WorkBlock} {update : BlockUpdate}

theorem deliveredSince_blocks (blocks : List WorkBlock) (start : Int) :
    deliveredSince (blocks.filterMap WorkBlock.interventionRow) start =
      blocks.countP fun block => block.interventionRow.any fun row =>
        decide (start ≤ row.offeredAt) && row.outcome.isDelivered := by
  simp only [deliveredSince, offeredSince, countP_filter, countP_filterMap]
  apply countP_congr
  intro block _
  cases block.interventionRow <;> simp [Bool.and_comm]

theorem wasFocusedSince_blocks (blocks : List WorkBlock) (start : Int) :
    wasFocusedSince (blocks.filterMap WorkBlock.interventionRow) start =
      blocks.countP fun block => block.interventionRow.any fun row =>
        decide (start ≤ row.offeredAt) && row.outcome == .wasFocused := by
  simp only [wasFocusedSince, offeredSince, countP_filter, countP_filterMap]
  apply countP_congr
  intro block _
  cases block.interventionRow <;> simp [and_comm]

theorem counts_of_kept (kept : ∀ block ∈ blocks, ∀ row, block.interventionRow = some row →
      ∃ later, (update.apply block).interventionRow = some later ∧ row.Later later)
    (undelivered : ∀ block ∈ blocks, block.interventionRow = none →
      ∀ row, (update.apply block).interventionRow = some row →
        row.outcome.isDelivered = false) (start : Int) :
    deliveredSince ((blocks.map update.apply).filterMap WorkBlock.interventionRow) start =
        deliveredSince (blocks.filterMap WorkBlock.interventionRow) start ∧
      wasFocusedSince (blocks.filterMap WorkBlock.interventionRow) start ≤
        wasFocusedSince ((blocks.map update.apply).filterMap WorkBlock.interventionRow)
          start := by
  simp only [deliveredSince_blocks, wasFocusedSince_blocks, countP_map]
  constructor
  · apply countP_congr
    intro block member
    simp only [Function.comp_apply]
    cases isRow : block.interventionRow with
    | some row =>
      obtain ⟨later, isLater, keeps⟩ := kept block member row isRow
      simp [isLater, keeps.offeredAt, keeps.delivered]
    | none =>
      cases isLater : (update.apply block).interventionRow with
      | none => simp
      | some later => simp [undelivered block member isRow later isLater]
  · apply countP_mono_left
    intro block member focused
    obtain ⟨row, isRow, holds⟩ := (Option.any_eq_true _ _).mp focused
    obtain ⟨later, isLater, keeps⟩ := kept block member row isRow
    simp only [Bool.and_eq_true, decide_eq_true_eq, beq_iff_eq] at holds
    obtain ⟨inWindow, wasFocused⟩ := holds
    have answered := (keeps.answered (by rw [wasFocused]; rfl)).1
    simp [isLater, keeps.offeredAt, inWindow, answered, wasFocused]

end Growth

theorem demotionStateOf_mono {delivered fewer more : Nat} (grown : fewer ≤ more)
    (demoted : demotionStateOf { delivered := delivered, wasFocused := fewer } = .demoted) :
    demotionStateOf { delivered := delivered, wasFocused := more } = .demoted := by
  simp only [demotionStateOf] at demoted ⊢
  split at demoted
  next above =>
    rw [if_pos]
    refine ⟨above.1, above.2.trans_le ?_⟩
    simp only [saturatingMul]
    omega
  next => cases demoted

namespace WorkBlock

variable {surroundings : Surroundings} {op : Operation} {block after : WorkBlock}

theorem startedAt_of_advance (accounted : block.Accounted)
    (advance : Advance surroundings op block after) :
    after.record.startedAt = block.record.startedAt := by
  cases advance with
  | unchanged => rfl
  | cardSeen => rfl
  | replied => rfl
  | paused running => rw [pausing_apply _ _ running.active]
  | resumed now pausedAt isResume paused => rw [setActive_apply _ _ paused]
  | recovered now isRestart running => rw [recovering_apply _ _ running.live]
  | recoveredPaused now isRestart paused =>
    rw [markRecovered_apply _ (by simp_all [WorkBlockPhase.isLive])]
  | continued => rfl
  | judged => simp
  | finished phase endedAt live =>
    rw [finishing_apply _ _ _ live (accounted.noResult live)]

/-- A row was offered no sooner than the gate's warmup allows, and not after the
clock. -/
structure OfferedIn (block : WorkBlock) (clock : Int) : Prop where
  dated : block.Dated clock
  warm : ∀ row, block.interventionRow = some row →
    block.record.startedAt + driftMinElapsedSeconds ≤ row.offeredAt
  past : ∀ row, block.interventionRow = some row → row.offeredAt ≤ timestamp clock

theorem Inserted.warm {row : WorkBlockIntervention .seconds}
    (inserted : Inserted surroundings op block after row) {clock : Int}
    (dated : block.Dated clock) :
    block.record.startedAt + driftMinElapsedSeconds ≤ row.offeredAt := by
  obtain ⟨reading, judged, anchor, -, cleared, -⟩ := inserted.cleared
  have warm := cleared.warm
  have planned := dated.planned
  rw [WorkBlockRecord.elapsedSeconds_loaded,
    WorkBlockRecord.elapsedAt_active _ inserted.running.active] at warm
  rw [inserted.offeredAt]
  simp only [clampedInstant, timestamp_min, timestamp_max, timestamp_fromTimestamp,
    WorkBlockRecord.spentBy, WorkBlockRecord.deadline, driftMinElapsedSeconds,
    minDurationSeconds] at warm planned ⊢
  omega

theorem OfferedIn.of_advance {clock : Int} (offered : block.OfferedIn clock)
    (accounted : block.Accounted) (later : clock ≤ op.reading) (punctual : op.Punctual)
    (advance : Advance surroundings op block after) : after.OfferedIn op.reading := by
  have startedAt := startedAt_of_advance accounted advance
  refine ⟨offered.dated.of_advance accounted later punctual advance,
    fun row isRow => ?_, fun row isRow => ?_⟩
  all_goals rcases row_before accounted advance isRow with ⟨old, wasRow, kept⟩ | inserted
  · rw [startedAt, kept.offeredAt]
    exact offered.warm old wasRow
  · rw [startedAt]
    exact inserted.warm offered.dated
  · rw [kept.offeredAt]
    exact (offered.past old wasRow).trans (timestamp_mono later)
  · rw [inserted.offeredAt]
    exact offered.dated.clamped_le punctual later

end WorkBlock

namespace WorkBlockManager

variable {manager : WorkBlockManager}

/-- The rows of the table are offered apart: every other row lies before the start of
the live block. -/
structure OffersApart (manager : WorkBlockManager) (clock : Int) : Prop where
  owned : manager.Owned
  offered : ∀ block ∈ manager.store.blocks, block.OfferedIn clock
  beforeLive : ∀ live ∈ manager.store.blocks, live.phase.isLive = true →
    ∀ block ∈ manager.store.blocks, block ≠ live →
      ∀ row, block.interventionRow = some row → row.offeredAt ≤ live.record.startedAt
  apart : ∀ first ∈ manager.store.blocks, ∀ second ∈ manager.store.blocks,
    first ≠ second → ∀ firstRow secondRow, first.interventionRow = some firstRow →
      second.interventionRow = some secondRow →
      KeyedRows.Apart driftMinElapsedSeconds firstRow.offeredAt secondRow.offeredAt

theorem Owned.eq_of_live (owned : manager.Owned) {first second : WorkBlock}
    (firstMem : first ∈ manager.store.blocks) (secondMem : second ∈ manager.store.blocks)
    (firstLive : first.phase.isLive = true) (secondLive : second.phase.isLive = true) :
    first = second :=
  Option.some.inj ((owned.latest first firstMem firstLive).symm.trans
    (owned.latest second secondMem secondLive))

variable {clock : Int}

/-- Every operation leaves the offers of the blocks apart. -/
theorem OffersApart.next (holds : manager.OffersApart clock)
    {op : Operation} (later : clock ≤ op.reading) (punctual : op.Punctual) :
    (managerMachine.next manager op).OffersApart op.reading := by
  have owned := holds.owned
  have stepped := managerMachine_stepped manager op owned.accounted
  have offered := owned.blocks_clocked_step (fun _ _ _ offered =>
      ⟨⟨offered.dated.startedAt, offered.dated.updatedAt, offered.dated.pausedAt,
        offered.dated.planned⟩, offered.warm, offered.past⟩)
    (fun record now started =>
      ⟨WorkBlock.dated_created started, by simp [WorkBlockStore.createdBlock],
        by simp [WorkBlockStore.createdBlock]⟩)
    (fun _ _ _ _ _ accounted offered later punctual advance =>
      WorkBlock.OfferedIn.of_advance offered accounted later punctual advance)
    holds.offered later punctual
  cases stepped.evolution with
  | created record idle started added =>
    have noneLive : ∀ block ∈ manager.store.blocks, block.phase.isLive = false := by
      intro block member
      by_contra live
      have isLive : block.phase.isLive = true := by simpa using live
      rw [idle block (owned.latest block member isLive)] at isLive
      cases isLive
    refine ⟨owned.next op, offered, fun live liveMem isLive block member different row
      isRow => ?_, fun first firstMem second secondMem different firstRow secondRow
      isFirst isSecond => ?_⟩
    · rw [added, mem_append, mem_singleton] at liveMem member
      rcases liveMem with old | rfl
      · rw [noneLive live old] at isLive
        cases isLive
      rcases member with old | rfl
      · have past := (holds.offered block old).past row isRow
        have startedAt : (WorkBlockStore.createdBlock record).record.startedAt =
            timestamp op.reading := congrArg timestamp started.startedAt
        rw [startedAt]
        exact past.trans (timestamp_mono later)
      · exact absurd rfl different
    · rw [added, mem_append, mem_singleton] at firstMem secondMem
      rcases firstMem with firstOld | rfl
      · rcases secondMem with secondOld | rfl
        · exact holds.apart first firstOld second secondOld different firstRow secondRow
            isFirst isSecond
        · cases isSecond
      · cases isFirst
  | advanced advances =>
    obtain ⟨update, blocks, each⟩ := advances
    -- A row of the next table is an old one, or the gate of a running block inserted it.
    have origin : ∀ block ∈ manager.store.blocks, ∀ row,
        (update.apply block).interventionRow = some row →
        (∃ old, block.interventionRow = some old ∧ row.offeredAt = old.offeredAt) ∨
        (block.phase.isLive = true ∧
          block.record.startedAt + driftMinElapsedSeconds ≤ row.offeredAt) := by
      intro block member row isRow
      obtain ⟨intention, advance⟩ := each block member
      have accounted : (block.withIntention intention).Accounted :=
        owned.accounted block member
      rcases WorkBlock.row_before accounted advance isRow with
        ⟨old, wasRow, kept⟩ | inserted
      · exact Or.inl ⟨old, wasRow, kept.offeredAt⟩
      · have dated := (holds.offered block member).dated
        have sameDated : (block.withIntention intention).Dated clock :=
          ⟨dated.startedAt, dated.updatedAt, dated.pausedAt, dated.planned⟩
        exact Or.inr ⟨inserted.running.live, inserted.warm sameDated⟩
    refine ⟨owned.next op, offered, ?_, ?_⟩
    · rw [blocks]
      intro live liveMem isLive other otherMem different row isRow
      obtain ⟨before, beforeMem, rfl⟩ := mem_map.mp liveMem
      obtain ⟨block, member, rfl⟩ := mem_map.mp otherMem
      obtain ⟨intention, advance⟩ := each before beforeMem
      have accounted : (before.withIntention intention).Accounted :=
        owned.accounted before beforeMem
      have wasLive : before.phase.isLive = true := by
        by_contra ended
        have same := WorkBlock.sameEnd_of_advance
          (by simpa [WorkBlock.withIntention] using ended) advance
        rw [same.phase] at isLive
        exact ended isLive
      have startedAt : (update.apply before).record.startedAt =
          (before.withIntention intention).record.startedAt :=
        WorkBlock.startedAt_of_advance accounted advance
      have distinct : block ≠ before := fun same => different (same ▸ rfl)
      rw [startedAt]
      rcases origin block member row isRow with ⟨old, wasRow, sameInstant⟩ | ⟨alsoLive, -⟩
      · rw [sameInstant]
        exact holds.beforeLive before beforeMem wasLive block member distinct old wasRow
      · exact absurd (owned.eq_of_live member beforeMem alsoLive wasLive) distinct
    · rw [blocks]
      intro one oneMem two twoMem different oneRow twoRow isOne isTwo
      obtain ⟨first, firstMem, rfl⟩ := mem_map.mp oneMem
      obtain ⟨second, secondMem, rfl⟩ := mem_map.mp twoMem
      have distinct : first ≠ second := fun same => different (same ▸ rfl)
      rcases origin first firstMem oneRow isOne with
        ⟨firstOld, wasFirst, sameFirst⟩ | ⟨firstLive, firstWarm⟩
      · rcases origin second secondMem twoRow isTwo with
          ⟨secondOld, wasSecond, sameSecond⟩ | ⟨secondLive, secondWarm⟩
        · rw [sameFirst, sameSecond]
          exact holds.apart first firstMem second secondMem distinct firstOld secondOld
            wasFirst wasSecond
        · have before := holds.beforeLive second secondMem secondLive first firstMem
            distinct firstOld wasFirst
          left
          omega
      · rcases origin second secondMem twoRow isTwo with
          ⟨secondOld, wasSecond, sameSecond⟩ | ⟨secondLive, -⟩
        · have before := holds.beforeLive first firstMem firstLive second secondMem
            distinct.symm secondOld wasSecond
          right
          omega
        · exact absurd (owned.eq_of_live firstMem secondMem firstLive secondLive) distinct

theorem offersApart_run (focus : Option (Int → Bool))
    (demotionRow : Option (DemotionStateRecord .seconds)) (rawEvents : List RawEventRow)
    {ops : List Operation} (clocked : Clocked clock ops) :
    (managerMachine.run (opened focus demotionRow rawEvents) ops).OffersApart
      (lastReading clock ops) := by
  have initial : (opened focus demotionRow rawEvents).OffersApart clock :=
    ⟨owned_opened focus demotionRow rawEvents, by simp [opened], by simp [opened],
      by simp [opened]⟩
  exact managerMachine.invariant_clocked_run Operation.reading
    (fun manager clock op holds later punctual => holds.next later punctual) initial
    clocked.ordered
    (managerMachine.meets_of_mem (fun op member _ => clocked.punctual op member) _)

theorem OffersApart.few (holds : manager.OffersApart clock) {now : Int} (later : clock ≤ now) :
    (offeredSince manager.store.interventionRows
      (manager.store.windowStart (timestamp now))).length ≤ 6721 := by
  set start := manager.store.windowStart (timestamp now) with start_def
  have fromWindow : timestamp now - demotionWindowSeconds ≤ start := by
    simp only [start_def, WorkBlockStore.windowStart, demotionWindowStart]
    split
    · exact le_max_left _ _
    · exact le_rfl
  have distinct : manager.store.blocks.Pairwise (· ≠ ·) :=
    (pairwise_map.mp manager.store.primaryKey).imp fun different same =>
      different (congrArg WorkBlock.blockId same)
  have apart : manager.store.interventionRows.Pairwise fun first second =>
      KeyedRows.Apart driftMinElapsedSeconds first.offeredAt second.offeredAt := by
    refine pairwise_filterMap.mpr (distinct.imp_of_mem ?_)
    intro first second firstMem secondMem different firstRow isFirst secondRow isSecond
    exact holds.apart first firstMem second secondMem different firstRow secondRow isFirst isSecond
  have keysApart : ((offeredSince manager.store.interventionRows start).map
      (·.offeredAt)).Pairwise (KeyedRows.Apart driftMinElapsedSeconds) :=
    pairwise_map.mpr (apart.sublist filter_sublist)
  have within : ∀ key ∈ (offeredSince manager.store.interventionRows start).map
      (·.offeredAt), timestamp now - demotionWindowSeconds ≤ key ∧ key ≤ timestamp now := by
    intro key member
    obtain ⟨row, rowMem, rfl⟩ := mem_map.mp member
    obtain ⟨tableMem, inWindow⟩ := mem_filter.mp rowMem
    obtain ⟨block, blockMem, isRow⟩ := mem_filterMap.mp tableMem
    have past := (holds.offered block blockMem).past row isRow
    exact ⟨fromWindow.trans (by simpa using inWindow), past.trans (timestamp_mono later)⟩
  have bound := KeyedRows.length_le_of_apart (by decide) keysApart within
  rw [length_map] at bound
  refine bound.trans ?_
  simp only [demotionWindowSeconds, driftMinElapsedSeconds]
  omega

theorem OffersApart.verdict_iff (holds : manager.OffersApart clock)
    {now : Int} (later : clock ≤ now) :
    manager.store.demotionVerdict now = .demoted ↔
      10 ≤ deliveredSince manager.store.interventionRows
          (manager.store.windowStart (timestamp now)) ∧
        15 * deliveredSince manager.store.interventionRows
            (manager.store.windowStart (timestamp now)) <
          100 * wasFocusedSince manager.store.interventionRows
            (manager.store.windowStart (timestamp now)) := by
  have few := holds.few later
  have delivered_le : deliveredSince manager.store.interventionRows
      (manager.store.windowStart (timestamp now)) ≤ 6721 :=
    countP_le_length.trans few
  rw [WorkBlockStore.demotionVerdict_eq]
  exact demotionStateOf_demoted_iff (wasFocusedSince_le _ _) (by simp only [u32Max]; omega)

end WorkBlockManager

end Velvt
