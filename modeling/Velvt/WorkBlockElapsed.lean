import Velvt.WorkBlockOwnership

/-!
# Elapsed time

The elapsed time of a block at its last persisted update never exceeds the plan, and the end of a
block freezes it in the result.
-/

namespace Velvt

open StepMachine BlockUpdate WorkBlockStore WorkBlockRecord Option

namespace WorkBlock

variable {surroundings : Surroundings} {op : Operation} {block after : WorkBlock}

/-- What a block's timing columns say of each other. -/
structure Timed (block : WorkBlock) : Prop where
  pausedAt : block.phase = .paused → block.record.pausedAt.isSome = true
  endedAt : block.phase.isTerminal = true → block.record.endedAt.isSome = true
  withinPlan : block.record.persistedElapsed ≤ block.record.plannedDurationSeconds
  result : ∀ result ∈ block.resultRow,
    result.elapsedDurationSeconds = block.record.persistedElapsed ∧
      result.plannedDurationSeconds = block.record.plannedDurationSeconds

theorem timed_created {record : WorkBlockRecord .nanoseconds} {now : Int}
    (started : Started record now) :
    (WorkBlockStore.createdBlock record).Timed := by
  have active : (WorkBlockStore.createdBlock record).record.phase = .active :=
    started.active
  refine ⟨fun paused => ?_, fun terminal => ?_, ?_, by simp [WorkBlockStore.createdBlock]⟩
  · rw [WorkBlock.phase, active] at paused
    cases paused
  · rw [WorkBlock.phase, active] at terminal
    cases terminal
  · have nothing : (WorkBlockStore.createdBlock record).record.persistedElapsed = 0 := by
      rw [persistedElapsed_active _ active]
      simp [WorkBlockStore.createdBlock, WorkBlockRecord.spentBy, started.startedAt,
        started.updatedAt]
    rw [nothing]
    exact Nat.zero_le _

theorem timestamp_clampedInstant (block : WorkBlock) (now : Int) :
    timestamp (block.clampedInstant now) =
      min (max (timestamp now) block.record.updatedAt) block.record.deadline := by
  simp [clampedInstant]

theorem Running.spent {now : Int} (running : block.Running now) :
    block.record.spentBy (max (timestamp now) block.record.updatedAt) <
      block.record.plannedDurationSeconds := by
  have timeLeft := running.timeLeft
  rwa [elapsedAt_active _ running.active] at timeLeft

theorem Timed.ends (timed : block.Timed) {phase : WorkBlockPhase} {endedAt : Int}
    (ends : block.Ends op phase endedAt) :
    elapsedSeconds block.record.loaded endedAt = block.record.spentBy (timestamp endedAt) ∧
      block.record.spentBy (timestamp endedAt) ≤ block.record.plannedDurationSeconds ∧
      block.record.persistedElapsed ≤ block.record.spentBy (timestamp endedAt) := by
  rw [elapsedSeconds_loaded]
  cases ends with
  | deadline _ active =>
    have within := timed.withinPlan
    rw [persistedElapsed_active _ active] at within ⊢
    have before := block.record.spentBy_le_deadline within
    rw [elapsedAt_active _ active, timestamp_fromTimestamp, spentBy_max, max_eq_left before]
    exact ⟨rfl, block.record.spentBy_deadline_le, before⟩
  | running now isEnd running =>
    have spent := running.spent
    rw [persistedElapsed_active _ running.active, elapsedAt_active _ running.active]
    simp only [timestamp_max, timestamp_fromTimestamp, max_assoc, max_self]
    exact ⟨trivial, spent.le, block.record.spentBy_mono (le_max_right _ _)⟩
  | paused now isEnd paused =>
    obtain ⟨pausedAt, since⟩ := isSome_iff_exists.mp (timed.pausedAt paused)
    have within := timed.withinPlan
    rw [persistedElapsed_paused _ paused since] at within ⊢
    rw [elapsedAt_paused _ paused since, since]
    simp only [map_some, getD_some, timestamp_fromTimestamp]
    exact ⟨trivial, within, le_rfl⟩

theorem timed_of_live {record : WorkBlockRecord .seconds}
    (isRecord : after.record = record) (noResult : after.resultRow = none)
    (live : record.phase.isLive = true)
    (pausedAt : record.phase = .paused → record.pausedAt.isSome = true)
    (withinPlan : record.persistedElapsed ≤ record.plannedDurationSeconds) :
    after.Timed := by
  subst isRecord
  refine ⟨pausedAt, fun terminal => ?_, withinPlan, by simp [noResult]⟩
  rw [WorkBlockPhase.not_live_of_terminal terminal] at live
  cases live

theorem Timed.spent_clamped (timed : block.Timed) {now : Int} (running : block.Running now) :
    block.record.spentBy (max block.record.updatedAt (timestamp (block.clampedInstant now))) ≤
      block.record.plannedDurationSeconds := by
  have within := timed.withinPlan
  rw [persistedElapsed_active _ running.active] at within
  have clamped : block.record.spentBy (timestamp (block.clampedInstant now)) ≤
      block.record.plannedDurationSeconds := by
    rw [timestamp_clampedInstant]
    exact (block.record.spentBy_mono (min_le_right _ _)).trans block.record.spentBy_deadline_le
  rw [spentBy_max]
  exact max_le within clamped

theorem timed_of_observed (timed : block.Timed) {now : Int} (running : block.Running now)
    (isRecord : after.record = { block.record with
        updatedAt := max block.record.updatedAt (timestamp (block.clampedInstant now)) })
    (noResult : after.resultRow = none) : after.Timed := by
  refine timed_of_live isRecord noResult running.live (fun paused => ?_) ?_
  · have active : block.record.phase = .active := running.active
    simp [active] at paused
  · refine (persistedElapsed_active _ ?_).trans_le (timed.spent_clamped running)
    exact running.active

def pausedTotal (block : WorkBlock) (pausedAt effective : Int) : Nat :=
  min (block.record.totalPausedSeconds + min (effective - pausedAt).toNat u32Max) u32Max

theorem resumed_record (now pausedAt : Int) (paused : block.phase = .paused) :
    ((BlockUpdate.setActive (max now (fromTimestamp block.record.updatedAt))
      (saturatingAdd block.record.totalPausedSeconds
        (positiveSeconds (max now (fromTimestamp block.record.updatedAt) -
          fromTimestamp pausedAt)))).apply block).record =
      { block.record with
        phase := .active
        pausedAt := none
        totalPausedSeconds := block.pausedTotal pausedAt
          (max (timestamp now) block.record.updatedAt)
        updatedAt := max (timestamp now) block.record.updatedAt } := by
  rw [setActive_apply _ _ paused, positiveSeconds_sub_fromTimestamp]
  simp [pausedTotal, saturatingAdd]

theorem spent_resumed_le (block : WorkBlock) (pausedAt effective : Int) :
    min (effective - block.record.startedAt).toNat u32Max - block.pausedTotal pausedAt effective ≤
      block.record.spentBy pausedAt := by
  simp only [pausedTotal, WorkBlockRecord.spentBy]
  omega

/-- A step leaves the timing columns in accord. -/
theorem Timed.of_advance (timed : block.Timed) (accounted : block.Accounted)
    (advance : Advance surroundings op block after) : after.Timed := by
  cases advance with
  | unchanged => exact timed
  | cardSeen => exact ⟨timed.pausedAt, timed.endedAt, timed.withinPlan, timed.result⟩
  | replied => exact ⟨timed.pausedAt, timed.endedAt, timed.withinPlan, timed.result⟩
  | paused running =>
    have noResult := accounted.noResult running.live
    have isAfter := pausing_apply surroundings (block.clampedInstant op.instant) running.active
    refine timed_of_live (congrArg record isAfter)
      (by rw [isAfter]; simpa using noResult) rfl (fun _ => rfl) ?_
    rw [persistedElapsed_paused _ rfl rfl, timestamp_clampedInstant]
    exact (block.record.spentBy_mono (min_le_right _ _)).trans block.record.spentBy_deadline_le
  | resumed now pausedAt isResume paused since =>
    have within := timed.withinPlan
    rw [persistedElapsed_paused _ paused since] at within
    have noResult := accounted.noResult (by simp_all [WorkBlockPhase.isLive])
    refine timed_of_live (resumed_record now pausedAt paused)
      (by rw [setActive_apply _ _ paused]; exact noResult) rfl
      (fun isPaused => by cases isPaused) ?_
    rw [persistedElapsed_active _ rfl]
    exact (block.spent_resumed_le pausedAt _).trans within
  | recovered now isRestart running =>
    have recordActive : block.record.phase = .active := running.active
    have noResult := accounted.noResult running.live
    have isAfter := recovering_apply surroundings now running.live
    refine timed_of_live (congrArg record isAfter)
      (by rw [isAfter]; simpa using noResult) running.live (fun isPaused => ?_) ?_
    · have isPaused : block.record.phase = .paused := isPaused
      rw [recordActive] at isPaused
      cases isPaused
    · refine (persistedElapsed_active _ ?_).trans_le
        ((block.record.spentBy_mono (le_max_left _ _)).trans running.spent.le)
      exact recordActive
  | recoveredPaused now isRestart paused =>
    have live : block.phase.isLive = true := by simp_all [WorkBlockPhase.isLive]
    obtain ⟨pausedAt, since⟩ := isSome_iff_exists.mp (timed.pausedAt paused)
    have within := timed.withinPlan
    rw [persistedElapsed_paused _ paused since] at within
    have isAfter := markRecovered_apply now live
    refine timed_of_live (congrArg record isAfter)
      (by rw [isAfter]; exact accounted.noResult live) live
      (fun _ => timed.pausedAt paused) ?_
    refine (persistedElapsed_paused _ ?_ ?_).trans_le within
    · exact paused
    · exact since
  | continued category status confidence occurredAt receivedAt isReport running
      observation reported =>
      subst reported
      exact timed_of_observed timed running rfl (accounted.noResult running.live)
  | judged category status confidence occurredAt receivedAt isReport running observation reported =>
      subst reported
      refine timed_of_observed timed running ?_ ?_
      · simp
        rfl
      · simpa using accounted.noResult running.live
  | finished phase endedAt live ends =>
    have noResult := accounted.noResult live
    obtain ⟨elapsed, within, -⟩ := timed.ends ends
    have terminal := ends.terminal
    rw [finishing_apply _ _ _ live noResult]
    refine ⟨fun paused => ?_, fun _ => rfl, ?_, ?_⟩
    · simp only [WorkBlock.phase] at paused
      rw [paused] at terminal
      cases terminal
    · rw [persistedElapsed_terminal _ terminal rfl]
      exact within
    · rintro result ⟨⟩
      rw [persistedElapsed_terminal _ terminal rfl]
      refine ⟨?_, by simp⟩
      rw [resultAt_elapsed, settling_record]
      exact elapsed

theorem Timed.persisted_le (timed : block.Timed) (accounted : block.Accounted) (second : Int) :
    block.record.persistedElapsed ≤ block.record.elapsedAt second ∧ (block.phase.isTerminal = true →
        block.record.elapsedAt second = block.record.persistedElapsed) := by
  rcases accounted with ⟨live, -⟩ | ⟨terminal, -⟩
  · refine ⟨?_, fun terminal => ?_⟩
    · obtain active | paused : block.phase = .active ∨ block.phase = .paused := by
        cases phase : block.phase <;> simp_all [WorkBlockPhase.isLive]
      · rw [persistedElapsed_active _ active, elapsedAt_active _ active]
        exact block.record.spentBy_mono (le_max_right _ _)
      · obtain ⟨pausedAt, since⟩ := isSome_iff_exists.mp (timed.pausedAt paused)
        rw [persistedElapsed_paused _ paused since, elapsedAt_paused _ paused since]
    · rw [WorkBlockPhase.not_live_of_terminal terminal] at live
      cases live
  · obtain ⟨endedAt, isEnd⟩ := isSome_iff_exists.mp (timed.endedAt terminal)
    have frozen : block.record.elapsedAt second = block.record.persistedElapsed := by
      rw [persistedElapsed_terminal _ terminal isEnd, elapsedAt_terminal _ terminal isEnd]
    exact ⟨frozen.ge, fun _ => frozen⟩

end WorkBlock

namespace WorkBlockManager

theorem timed_run (focus : Option (Int → Bool))
    (demotionRow : Option (DemotionStateRecord .seconds)) (rawEvents : List RawEventRow)
    (ops : List Operation) :
    ∀ block ∈ (managerMachine.run (opened focus demotionRow rawEvents) ops).store.blocks,
      block.Timed :=
  Owned.blocks_run
    (fun _ _ timed => ⟨timed.pausedAt, timed.endedAt, timed.withinPlan, timed.result⟩)
    (fun _ _ started => WorkBlock.timed_created started)
    (fun _ _ _ _ accounted timed advance => timed.of_advance accounted advance)
    (owned_opened focus demotionRow rawEvents) (by simp [opened]) ops

end WorkBlockManager

/-- However a block ends, its result keeps the elapsed time of its stored record,
read at any later instant; that is within the plan; and every snapshot of the
ended block shows it, with the rest of the plan as the remaining time. -/
theorem ended_block_timing_is_frozen (focus : Option (Int → Bool))
    (demotionRow : Option (DemotionStateRecord .seconds)) (rawEvents : List RawEventRow)
    (ops : List Operation) :
    let reached := managerMachine.run
      (WorkBlockManager.opened focus demotionRow rawEvents) ops
    ∀ block ∈ reached.store.blocks, block.phase.isTerminal = true →
      ∃ result, block.resultRow = some result ∧
        result.elapsedDurationSeconds ≤ result.plannedDurationSeconds ∧
        result.plannedDurationSeconds = block.record.plannedDurationSeconds ∧
        (∀ now, elapsedSeconds block.record.loaded now = result.elapsedDurationSeconds) ∧
        ∀ before op snapshot, ops = before ++ [op] →
          (managerMachine.answer (managerMachine.run
            (WorkBlockManager.opened focus demotionRow rawEvents) before) op).reported =
              some snapshot →
          snapshot.blockId = some block.blockId →
          snapshot.elapsedDurationSeconds = result.elapsedDurationSeconds ∧
          snapshot.remainingDurationSeconds =
            result.plannedDurationSeconds - result.elapsedDurationSeconds := by
  intro reached block member terminal
  have owned : reached.Owned :=
    (WorkBlockManager.owned_opened focus demotionRow rawEvents).run ops
  have timed := WorkBlockManager.timed_run focus demotionRow rawEvents ops block member
  have accounted := owned.accounted block member
  obtain ⟨result, isResult⟩ : ∃ result, block.resultRow = some result := by
    rcases accounted with ⟨live, -⟩ | ⟨-, result⟩
    · rw [WorkBlockPhase.not_live_of_terminal terminal] at live
      cases live
    · exact isSome_iff_exists.mp result
  obtain ⟨elapsed, planned⟩ := timed.result result isResult
  have frozen (second : Int) :
      block.record.elapsedAt second = result.elapsedDurationSeconds :=
    ((timed.persisted_le accounted second).2 terminal).trans elapsed.symm
  refine ⟨result, isResult, ?_, planned, fun now => ?_, ?_⟩
  · rw [elapsed, planned]
    exact timed.withinPlan
  · rw [elapsedSeconds_loaded, frozen]
  · rintro before op snapshot rfl reported isBlock
    set prior := managerMachine.run
      (WorkBlockManager.opened focus demotionRow rawEvents) before with prior_def
    have priorOwned : prior.Owned :=
      (WorkBlockManager.owned_opened focus demotionRow rawEvents).run before
    have isReached : reached = managerMachine.next prior op := by
      simp [reached, prior_def]
    obtain ⟨shown, -⟩ :=
      (managerMachine_stepped prior op priorOwned.accounted).reports snapshot reported
    rcases shown with rfl | ⟨other, otherMem, second, shows⟩
    · cases isBlock
    · have same : other = block :=
        eq_of_blockId (isReached ▸ otherMem) member
          (Option.some.inj (shows.blockId.symm.trans isBlock))
      subst same
      rw [planned]
      exact ⟨shows.elapsed.trans (frozen second),
        shows.remaining.trans (by rw [frozen second])⟩

namespace WorkBlock

variable {surroundings : Surroundings} {op : Operation} {block after : WorkBlock}

/-- The operation takes no earlier reading over the last update of a block that
has spent time.  Two operations can: a restart of a running block, whose update
is the reading itself, and a resume, whose reading may lie before its pause.  A
full counter of seconds hides the difference at a restart and makes one at a
resume. -/
def KeepsElapsed (block : WorkBlock) : Operation → Prop
  | .recoverAfterRestart now =>
    0 < block.record.persistedElapsed → block.Running now →
      block.record.updatedAt ≤ timestamp now ∨ block.record.startedAt + u32Max ≤ timestamp now
  | .resume blockId now =>
    0 < block.record.persistedElapsed → block.blockId = blockId →
      ∀ pausedAt ∈ block.record.pausedAt,
        pausedAt = max (timestamp now) block.record.updatedAt ∨
          (pausedAt ≤ max (timestamp now) block.record.updatedAt ∧
            max (timestamp now) block.record.updatedAt - block.record.startedAt ≤ u32Max)
  | _ => True

theorem KeepsElapsed.anyIntention (keeps : block.KeepsElapsed op)
    (intention : Option String) : (block.withIntention intention).KeepsElapsed op := by
  cases op with
  | recoverAfterRestart now =>
    exact fun spent running => keeps spent ⟨running.active, running.timeLeft⟩
  | _ => exact keeps

theorem spentBy_resumed (block : WorkBlock) (pausedAt effective : Int)
    (spent : 0 < block.record.spentBy pausedAt) (keeps : pausedAt = effective ∨
      (pausedAt ≤ effective ∧ effective - block.record.startedAt ≤ u32Max)) :
    block.record.spentBy pausedAt ≤ min (effective - block.record.startedAt).toNat u32Max -
        block.pausedTotal pausedAt effective := by
  simp only [pausedTotal, WorkBlockRecord.spentBy] at *
  omega

theorem observed_persisted {observation : WorkBlockObservation .nanoseconds} {now : Int}
    (running : block.Running now) (isRecord : after.record = { block.record with
        updatedAt := max block.record.updatedAt (timestamp observation.occurredAt) }) :
    block.record.persistedElapsed ≤ after.record.persistedElapsed := by
  rw [isRecord, persistedElapsed_active _ running.active]
  have grown := block.record.spentBy_mono
    (le_max_left block.record.updatedAt (timestamp observation.occurredAt))
  refine grown.trans (ge_of_eq (persistedElapsed_active _ ?_))
  exact running.active

/-- No elapsed time falls in a step whose reading keeps up with the stored ones. -/
theorem Timed.persistedElapsed_mono (timed : block.Timed) (accounted : block.Accounted)
    (keeps : block.KeepsElapsed op) (advance : Advance surroundings op block after) :
    block.record.persistedElapsed ≤ after.record.persistedElapsed := by
  rcases Nat.eq_zero_or_pos block.record.persistedElapsed with nothing | spent
  · rw [nothing]
    exact Nat.zero_le _
  cases advance with
  | unchanged => exact le_rfl
  | cardSeen => exact le_rfl
  | replied => exact le_rfl
  | paused running =>
    rw [pausing_apply _ _ running.active]
    have within := timed.withinPlan
    rw [persistedElapsed_active _ running.active] at within ⊢
    rw [persistedElapsed_paused _ rfl rfl, timestamp_clampedInstant]
    have before := block.record.spentBy_le_deadline within
    have later := block.record.spentBy_mono
      (le_max_right (timestamp op.instant) block.record.updatedAt)
    rcases le_total (max (timestamp op.instant) block.record.updatedAt)
      block.record.deadline with early | late
    · rw [min_eq_left early]
      exact later
    · rw [min_eq_right late]
      exact before
  | resumed now pausedAt isResume paused since =>
    subst isResume
    have kept := keeps spent rfl pausedAt since
    rw [resumed_record now pausedAt paused]
    rw [persistedElapsed_paused _ paused since] at spent ⊢
    rw [persistedElapsed_active _ rfl]
    exact block.spentBy_resumed pausedAt _ spent kept
  | recovered now isRestart running =>
    subst isRestart
    have kept := keeps spent running
    rw [recovering_apply _ _ running.live]
    rw [persistedElapsed_active _ running.active]
    have isActive : block.record.phase = .active := running.active
    have later : block.record.spentBy block.record.updatedAt ≤
        block.record.spentBy (timestamp now) := by
      rcases kept with later | full
      · exact block.record.spentBy_mono later
      · simp only [WorkBlockRecord.spentBy]
        omega
    refine later.trans (ge_of_eq (persistedElapsed_active _ ?_))
    exact isActive
  | recoveredPaused now isRestart paused =>
    obtain ⟨pausedAt, since⟩ := isSome_iff_exists.mp (timed.pausedAt paused)
    rw [markRecovered_apply _ (by simp_all [WorkBlockPhase.isLive])]
    rw [persistedElapsed_paused _ paused since]
    refine ge_of_eq (persistedElapsed_paused _ ?_ ?_)
    · exact paused
    · exact since
  | continued category status confidence occurredAt receivedAt isReport running
      observation reported =>
      exact observed_persisted running rfl
  | judged category status confidence occurredAt receivedAt isReport running observation reported =>
      exact observed_persisted running (by simp; rfl)
  | finished phase endedAt live ends =>
    rw [finishing_apply _ _ _ live (accounted.noResult live)]
    refine le_trans (timed.ends ends).2.2 ?_
    refine ge_of_eq (persistedElapsed_terminal _ ?_ ?_)
    · exact ends.terminal
    · rfl

end WorkBlock

namespace WorkBlockManager

theorem Owned.timed_next {manager : WorkBlockManager} (owned : manager.Owned)
    (timed : ∀ block ∈ manager.store.blocks, block.Timed) (op : Operation) :
    ∀ block ∈ (managerMachine.next manager op).store.blocks, block.Timed :=
  owned.blocks_run
    (fun _ _ timed => ⟨timed.pausedAt, timed.endedAt, timed.withinPlan, timed.result⟩)
    (fun _ _ started => WorkBlock.timed_created started)
    (fun _ _ _ _ accounted timed advance => timed.of_advance accounted advance)
    timed [op]

/-- The operation keeps the elapsed time of every block. -/
def KeepsElapsed (manager : WorkBlockManager) (op : Operation) : Prop :=
  ∀ block ∈ manager.store.blocks, block.KeepsElapsed op

theorem Owned.persistedElapsed_run {manager : WorkBlockManager} (owned : manager.Owned)
    (timed : ∀ block ∈ manager.store.blocks, block.Timed) {ops : List Operation}
    (keeps : managerMachine.Meets KeepsElapsed manager ops) {blockId : Uuid}
    {block : WorkBlock} (found : manager.store.block blockId = some block) :
    ∃ after, (managerMachine.run manager ops).store.block blockId = some after ∧
      after.Timed ∧ block.record.persistedElapsed ≤ after.record.persistedElapsed := by
  induction ops generalizing manager block with
  | nil => exact ⟨block, found, timed block (mem_of_block found), le_rfl⟩
  | cons op ops ih =>
    have member := mem_of_block found
    obtain ⟨next, intention, nextFound, advance⟩ := block_step op owned.accounted found
    have before := timed block member
    have anyIntention : (block.withIntention intention).Timed :=
      ⟨before.pausedAt, before.endedAt, before.withinPlan, before.result⟩
    have grown : block.record.persistedElapsed ≤ next.record.persistedElapsed :=
      anyIntention.persistedElapsed_mono (owned.accounted block member)
        ((keeps.1 block member).anyIntention intention) advance
    obtain ⟨after, afterFound, afterTimed, grownAfter⟩ :=
      ih (owned.next op) (owned.timed_next timed op) keeps.2 nextFound
    exact ⟨after, afterFound, afterTimed, grown.trans grownAfter⟩

end WorkBlockManager

/-- Every snapshot of a block that the last operation of a run reports shows at
least what the block had spent at its last update before the run. -/
def ElapsedNeverFalls (manager : WorkBlockManager) (ops : List Operation) (op : Operation) : Prop :=
  ∀ block ∈ manager.store.blocks, block.phase.isLive = true →
    ∀ snapshot,
      (managerMachine.answer (managerMachine.run manager ops) op).reported = some snapshot →
      snapshot.blockId = some block.blockId →
      block.record.persistedElapsed ≤ snapshot.elapsedDurationSeconds

/-- Elapsed time never falls in a run whose operations keep it. -/
theorem elapsed_never_falls (focus : Option (Int → Bool))
    (demotionRow : Option (DemotionStateRecord .seconds)) (rawEvents : List RawEventRow)
    (before later : List Operation) (op : Operation)
    (keeps : managerMachine.Meets WorkBlockManager.KeepsElapsed
      (managerMachine.run (WorkBlockManager.opened focus demotionRow rawEvents) before)
      (later ++ [op])) :
    ElapsedNeverFalls
      (managerMachine.run (WorkBlockManager.opened focus demotionRow rawEvents) before)
      later op := by
  intro block member _ snapshot reported isBlock
  have timed := WorkBlockManager.timed_run focus demotionRow rawEvents before
  have owned := (WorkBlockManager.owned_opened focus demotionRow rawEvents).run before
  set manager := managerMachine.run
    (WorkBlockManager.opened focus demotionRow rawEvents) before
  obtain ⟨after, found, afterTimed, grown⟩ :=
    owned.persistedElapsed_run timed keeps (block_of_mem member)
  have isNext : managerMachine.run manager (later ++ [op]) =
      managerMachine.next (managerMachine.run manager later) op := by simp
  have laterOwned := owned.run later
  obtain ⟨shown, -⟩ := (managerMachine_stepped (managerMachine.run manager later) op
    laterOwned.accounted).reports snapshot reported
  rcases shown with rfl | ⟨other, otherMem, second, shows⟩
  · cases isBlock
  · rw [isNext] at found
    have same : other = after :=
      eq_of_found found otherMem
        (Option.some.inj (shows.blockId.symm.trans isBlock))
    subst same
    rw [shows.elapsed]
    exact grown.trans (afterTimed.persisted_le
      ((laterOwned.next op).accounted other otherMem) second).1

/-- A restart takes its own reading over a block's last update: a block that had
spent a hundred seconds reports fifty. -/
theorem elapsed_falls_at_restart :
    ¬ ElapsedNeverFalls
      (managerMachine.run (WorkBlockManager.opened none none [])
        [.start ⟨none, 1800, none, .medium⟩ 1 0,
          .observeSafeCategory "work" .classified .high (Duration.seconds 100)
            (Duration.seconds 100)])
      [] (.recoverAfterRestart (Duration.seconds 50)) := by
  intro never
  set manager := managerMachine.run (WorkBlockManager.opened none none [])
    [.start ⟨none, 1800, none, .medium⟩ 1 0,
      .observeSafeCategory "work" .classified .high (Duration.seconds 100)
        (Duration.seconds 100)] with manager_def
  have before : manager.store.blocks.map (fun block =>
      (block.blockId, block.phase.isLive, block.record.persistedElapsed)) =
        [(1, true, 100)] := by
    decide +kernel
  have after : (managerMachine.answer manager
      (.recoverAfterRestart (Duration.seconds 50))).reported.map (fun snapshot =>
        (snapshot.blockId, snapshot.elapsedDurationSeconds)) = some (some 1, 50) := by
    decide +kernel
  obtain ⟨block, blocks, isBlock⟩ := List.map_eq_singleton_iff.mp before
  obtain ⟨snapshot, reported, isSnapshot⟩ := map_eq_some_iff.mp after
  simp only [Prod.mk.injEq] at isBlock isSnapshot
  have kept := never block (by simp [blocks]) isBlock.2.1 snapshot reported
    (by rw [isSnapshot.1, isBlock.1])
  rw [isBlock.2.2, isSnapshot.2] at kept
  omega

/-- A restart that reads a later clock keeps what the block had spent. -/
theorem elapsed_never_falls_at_later_restart :
    ElapsedNeverFalls
      (managerMachine.run (WorkBlockManager.opened none none [])
        [.start ⟨none, 1800, none, .medium⟩ 1 0,
          .observeSafeCategory "work" .classified .high (Duration.seconds 100)
            (Duration.seconds 100)])
      [] (.recoverAfterRestart (Duration.seconds 200)) := by
  refine elapsed_never_falls none none [] _ [] _ ⟨fun block member _ _ => Or.inl ?_, trivial⟩
  have updated : (managerMachine.run (WorkBlockManager.opened none none [])
      [.start ⟨none, 1800, none, .medium⟩ 1 0,
        .observeSafeCategory "work" .classified .high (Duration.seconds 100)
          (Duration.seconds 100)]).store.blocks.all (fun block =>
            decide (block.record.updatedAt ≤ timestamp (Duration.seconds 200))) = true := by
    decide +kernel
  simpa using List.all_eq_true.mp updated block member

end Velvt
