import Mathlib.Data.Int.ConditionallyCompleteOrder
import Velvt.WorkBlockOwnership

/-!
# Runs under a nondecreasing clock

Where no clock reading goes back and no report lies after its reading, no instant a block stores
lies after the last reading.
-/

namespace Velvt

open StepMachine BlockUpdate

/-- The readings of a run never go back, and its reports lie in their past. -/
structure Clocked (clock : Int) (ops : List Operation) : Prop where
  ordered : Machine.Nondecreasing Operation.reading clock ops
  punctual : ∀ op ∈ ops, op.Punctual

theorem Clocked.of_append {clock : Int} {first second : List Operation}
    (clocked : Clocked clock (first ++ second)) : Clocked clock first := by
  refine ⟨?_, fun op member => clocked.punctual op (List.mem_append_left _ member)⟩
  have ordered := clocked.ordered
  rw [Machine.Nondecreasing, List.map_append, ← List.cons_append] at ordered
  exact (List.pairwise_append.mp ordered).1

/-- The last reading of a run that starts at `clock`. -/
abbrev lastReading (clock : Int) (ops : List Operation) : Int :=
  Machine.lastReading Operation.reading clock ops

namespace WorkBlockManager

variable {manager : WorkBlockManager}

theorem Owned.blocks_clocked_step {Inv : WorkBlock → Int → Prop}
    (anyIntention : ∀ block clock intention, Inv block clock →
      Inv (block.withIntention intention) clock)
    (started : ∀ record now, Started record now → Inv (WorkBlockStore.createdBlock record) now)
    (advanced : ∀ surroundings op block after clock, block.Accounted → Inv block clock →
      clock ≤ op.reading → op.Punctual → Advance surroundings op block after →
      Inv after op.reading)
    (owned : manager.Owned) {clock : Int}
    (holds : ∀ block ∈ manager.store.blocks, Inv block clock) {op : Operation}
    (later : clock ≤ op.reading) (punctual : op.Punctual) :
    ∀ block ∈ (managerMachine.next manager op).store.blocks, Inv block op.reading := by
  intro next member
  rcases block_before op owned.accounted member with
    ⟨block, blockMem, intention, -, advance⟩ | ⟨record, isStarted, rfl⟩
  · have accounted : (block.withIntention intention).Accounted :=
      owned.accounted block blockMem
    exact advanced _ _ _ _ clock accounted
      (anyIntention _ _ _ (holds block blockMem)) later punctual advance
  · exact started record _ isStarted

end WorkBlockManager

namespace WorkBlock

variable {surroundings : Surroundings} {op : Operation} {block after : WorkBlock}

/-- No instant of the block lies after the clock. -/
structure Dated (block : WorkBlock) (clock : Int) : Prop where
  startedAt : block.record.startedAt ≤ timestamp clock
  updatedAt : block.record.updatedAt ≤ timestamp clock
  pausedAt : ∀ pausedAt, block.record.pausedAt = some pausedAt → pausedAt ≤ timestamp clock
  planned : minDurationSeconds ≤ block.record.plannedDurationSeconds

theorem dated_created {record : WorkBlockRecord .nanoseconds} {now : Int}
    (started : Started record now) : (WorkBlockStore.createdBlock record).Dated now := by
  refine ⟨?_, ?_, fun pausedAt isPaused => ?_, started.bounds.1⟩
  · exact (congrArg timestamp started.startedAt).le
  · exact (congrArg timestamp started.updatedAt).le
  · simp [WorkBlockStore.createdBlock, started.notPaused] at isPaused

theorem Dated.mono {clock later : Int} (dated : block.Dated clock)
    (ordered : clock ≤ later) : block.Dated later :=
  ⟨dated.startedAt.trans (timestamp_mono ordered), dated.updatedAt.trans (timestamp_mono ordered),
    fun pausedAt isPaused =>
      (dated.pausedAt pausedAt isPaused).trans (timestamp_mono ordered),
    dated.planned⟩

variable {clock : Int}

section

variable (dated : block.Dated clock)

include dated

theorem Dated.effective_le (punctual : op.Punctual) (later : clock ≤ op.reading) :
    max (timestamp op.instant) block.record.updatedAt ≤ timestamp op.reading :=
  max_le (timestamp_mono punctual) (dated.updatedAt.trans (timestamp_mono later))

theorem Dated.clamped_le (punctual : op.Punctual) (later : clock ≤ op.reading) :
    timestamp (block.clampedInstant op.instant) ≤ timestamp op.reading := by
  have clamped : timestamp (block.clampedInstant op.instant) =
      min (max (timestamp op.instant) block.record.updatedAt) block.record.deadline := by
    simp [clampedInstant]
  rw [clamped]
  exact (min_le_left _ _).trans (dated.effective_le punctual later)

theorem Dated.deadline_le (active : block.phase = .active) {second : Int}
    (spent : block.record.plannedDurationSeconds ≤ block.record.elapsedAt second) :
    block.record.deadline ≤ max second block.record.updatedAt := by
  have planned := dated.planned
  rw [WorkBlockRecord.elapsedAt_active _ active] at spent
  simp only [WorkBlockRecord.spentBy, minDurationSeconds] at spent planned
  simp only [WorkBlockRecord.deadline]
  omega

theorem Dated.endedAt_le
    (later : clock ≤ op.reading) (punctual : op.Punctual) {phase : WorkBlockPhase}
    {endedAt : Int} (ends : block.Ends op phase endedAt) :
    timestamp endedAt ≤ timestamp op.reading := by
  have updated := dated.updatedAt.trans (timestamp_mono later)
  cases ends with
  | deadline _ active spent =>
    rw [timestamp_fromTimestamp]
    exact (dated.deadline_le active spent).trans (dated.effective_le punctual later)
  | running now isEnd =>
    subst isEnd
    rw [timestamp_max, timestamp_fromTimestamp]
    exact max_le le_rfl updated
  | paused now isEnd paused =>
    subst isEnd
    cases since : block.record.pausedAt with
    | none =>
      rw [Option.map_none, Option.getD_none, timestamp_max, timestamp_fromTimestamp]
      exact max_le le_rfl updated
    | some pausedAt =>
      rw [Option.map_some, Option.getD_some, timestamp_fromTimestamp]
      exact (dated.pausedAt pausedAt since).trans (timestamp_mono later)

theorem Dated.of_record {record : WorkBlockRecord .seconds} (isRecord : after.record = record)
    (startedAt : record.startedAt = block.record.startedAt)
    (planned : record.plannedDurationSeconds = block.record.plannedDurationSeconds)
    (updatedAt : record.updatedAt ≤ timestamp clock)
    (pausedAt : ∀ pausedAt, record.pausedAt = some pausedAt → pausedAt ≤ timestamp clock) :
    after.Dated clock := by
  subst isRecord
  exact ⟨startedAt ▸ dated.startedAt, updatedAt, pausedAt, planned ▸ dated.planned⟩

/-- A step dates nothing after its reading. -/
theorem Dated.of_advance
    (accounted : block.Accounted) (later : clock ≤ op.reading) (punctual : op.Punctual)
    (advance : Advance surroundings op block after) : after.Dated op.reading := by
  have now := dated.mono later
  cases advance with
  | unchanged => exact now
  | cardSeen => exact ⟨now.startedAt, now.updatedAt, now.pausedAt, now.planned⟩
  | replied => exact ⟨now.startedAt, now.updatedAt, now.pausedAt, now.planned⟩
  | paused running =>
    have within := dated.clamped_le punctual later
    refine now.of_record (congrArg record (pausing_apply _ _ running.active)) rfl rfl within ?_
    rintro pausedAt ⟨⟩
    exact within
  | resumed second pausedAt isResume paused =>
    subst isResume
    refine now.of_record (congrArg record (setActive_apply _ _ paused)) rfl rfl ?_ (by simp)
    rw [timestamp_max, timestamp_fromTimestamp]
    exact max_le le_rfl now.updatedAt
  | recovered second isRestart running =>
    subst isRestart
    exact now.of_record (congrArg record (recovering_apply _ _ running.live))
      rfl rfl le_rfl now.pausedAt
  | recoveredPaused second isRestart paused =>
    subst isRestart
    exact now.of_record (congrArg record (markRecovered_apply _
        (by simp_all [WorkBlockPhase.isLive])))
      rfl rfl le_rfl now.pausedAt
  | continued category status confidence occurredAt receivedAt isReport running
      observation reported =>
      subst reported isReport
      have within := dated.clamped_le punctual later
      exact now.of_record (observing_record _ _) rfl rfl (max_le now.updatedAt within) now.pausedAt
  | judged category status confidence occurredAt receivedAt isReport running observation reported =>
      subst reported isReport
      have within := dated.clamped_le punctual later
      have isRecord := returning_record
        ((BlockUpdate.observing (reportedObservation block category status confidence
          occurredAt)).apply block)
        (reportedObservation block category status confidence occurredAt)
      exact now.of_record (isRecord.trans (observing_record _ _)) rfl rfl
        (max_le now.updatedAt within) now.pausedAt
  | finished phase endedAt live ends =>
    refine now.of_record (congrArg record (finishing_apply _ _ _ live (accounted.noResult live)))
      rfl rfl (dated.endedAt_le later punctual ends) (by simp)

end

end WorkBlock

end Velvt
