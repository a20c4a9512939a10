import Velvt.WorkBlockClock

/-!
# The order of the ledger

A report opens its row at an instant no earlier than any row before it, and closes the rows that
were open; a boundary closes the open row.
-/

namespace Velvt

open StepMachine List BlockUpdate

namespace WorkBlock

variable {surroundings : Surroundings} {op : Operation} {block after : WorkBlock}

/-- The rows stand in time order, and only the last can be open. -/
structure Ordered (block : WorkBlock) : Prop where
  sorted : block.observationRows.Pairwise fun earlier later =>
    earlier.occurredAt ≤ later.occurredAt
  closed : block.observationRows.Pairwise fun earlier _ => earlier.endedAt.isSome = true

/-- A live block has no row after its last update or its deadline, and a counter of
paused seconds that fits. -/
structure Reached (block : WorkBlock) : Prop where
  updatedAt : ∀ row ∈ block.observationRows, row.occurredAt ≤ block.record.updatedAt
  deadline : ∀ row ∈ block.observationRows, row.occurredAt ≤ block.record.deadline
  total : block.record.totalPausedSeconds ≤ u32Max

structure Orderly (block : WorkBlock) : Prop where
  ordered : block.Ordered
  reached : block.phase.isLive = true → block.Reached

/-- A restart of a live block reads a clock no earlier than any row of its
ledger. -/
def KeepsOrder (block : WorkBlock) : Operation → Prop
  | .recoverAfterRestart now =>
    block.phase.isLive = true → ∀ row ∈ block.observationRows, row.occurredAt ≤ timestamp now
  | _ => True

theorem Ordered.orderedRows (ordered : block.Ordered) :
    block.orderedRows = block.observationRows :=
  ordered.sorted.insertionSort_eq

theorem Ordered.latestObservation (ordered : block.Ordered) : block.latestObservation =
      block.observationRows.getLast?.map WorkBlockObservation.loaded := by
  rw [WorkBlock.latestObservation, ordered.orderedRows]

theorem closeAtReportedEnd_rows (surroundings : Surroundings) (boundary : Int) (block : WorkBlock) :
    ((BlockUpdate.closeAtReportedEnd surroundings boundary).apply block).observationRows =
        block.observationRows ∨
      ∃ openRow, block.latestObservation = some openRow ∧ openRow.endedAt = none ∧
        ((BlockUpdate.closeAtReportedEnd surroundings boundary).apply block).observationRows =
          block.observationRows.map (BlockUpdate.closeRow (timestamp
            (reportedEnd openRow (surroundings.reportedDwells openRow.occurredAt boundary)
              boundary))) := by
  simp only [BlockUpdate.closeAtReportedEnd]
  cases isOpen : block.latestObservation.filter (·.endedAt.isNone) with
  | none => exact Or.inl rfl
  | some openRow =>
    obtain ⟨latest, openEnd⟩ := Option.filter_eq_some_iff.mp isOpen
    exact Or.inr ⟨openRow, latest, by simpa using openEnd, rfl⟩

@[simp]
theorem closeRow_occurredAt (stored : Int) (row : WorkBlockObservation .seconds) :
    (BlockUpdate.closeRow stored row).occurredAt = row.occurredAt := by
  simp only [BlockUpdate.closeRow]
  split <;> rfl

theorem closeRow_isSome (stored : Int) (row : WorkBlockObservation .seconds) :
    (BlockUpdate.closeRow stored row).endedAt.isSome = true := by
  simp only [BlockUpdate.closeRow]
  split
  · rfl
  next closed => exact Option.isSome_iff_ne_none.mpr (by simpa using closed)

/-- The operation reports a dwell, and the running block opens a row for it. -/
inductive Opens (op : Operation) (block : WorkBlock) : WorkBlockObservation .seconds → Prop
  | reported (category : String) (status : ClassificationStatus)
      (confidence : ClassificationConfidence) (occurredAt receivedAt : Int)
      (isReport : op = .observeSafeCategory category status confidence occurredAt receivedAt)
      (running : block.Running occurredAt)
      (opens : block.OpensRow (reportedObservation block category status confidence occurredAt)) :
      Opens op block (reportedObservation block category status confidence occurredAt).stored

/-- A step closes rows and opens at most one. -/
theorem ledger_of_advance (accounted : block.Accounted)
    (advance : Advance surroundings op block after) :
    after.observationRows = block.observationRows ∨ (∃ stored, after.observationRows =
        block.observationRows.map (BlockUpdate.closeRow stored)) ∨
      ∃ stored row, block.Opens op row ∧ after.observationRows =
        block.observationRows.map (BlockUpdate.closeRow stored) ++ [row] := by
  have closes (boundary : Int) (rows : after.observationRows =
      ((BlockUpdate.closeAtReportedEnd surroundings boundary).apply block).observationRows) :
      after.observationRows = block.observationRows ∨ ∃ stored, after.observationRows =
          block.observationRows.map (BlockUpdate.closeRow stored) := by
    rcases closeAtReportedEnd_rows surroundings boundary block with
      same | ⟨openRow, -, -, closed⟩
    · exact Or.inl (rows.trans same)
    · exact Or.inr ⟨_, rows.trans closed⟩
  have noRow (rows : after.observationRows = block.observationRows ∨
      ∃ stored, after.observationRows = block.observationRows.map (BlockUpdate.closeRow stored)) :
      after.observationRows = block.observationRows ∨ (∃ stored, after.observationRows =
          block.observationRows.map (BlockUpdate.closeRow stored)) ∨
        ∃ stored row, block.Opens op row ∧ after.observationRows =
          block.observationRows.map (BlockUpdate.closeRow stored) ++ [row] :=
    rows.imp_right Or.inl
  cases advance with
  | unchanged => exact Or.inl rfl
  | cardSeen => exact Or.inl rfl
  | replied => exact Or.inl rfl
  | paused running =>
    exact noRow (closes (block.clampedInstant op.instant) (pausing_observationRows _ _ _))
  | resumed now pausedAt isResume paused =>
    rw [setActive_apply _ _ paused]
    exact Or.inl rfl
  | recovered now isRestart running =>
    exact noRow (closes now (recovering_observationRows _ _ _))
  | recoveredPaused now isRestart paused =>
    rw [markRecovered_apply _ (by simp_all [WorkBlockPhase.isLive])]
    exact Or.inl rfl
  | continued category status confidence occurredAt receivedAt isReport running observation
      reported opens =>
      subst reported
      exact Or.inr (Or.inr ⟨_, _, .reported _ _ _ _ _ isReport running opens,
        observing_observationRows _ _⟩)
  | judged category status confidence occurredAt receivedAt isReport running observation
      reported opens =>
      subst reported
      exact Or.inr (Or.inr ⟨_, _, .reported _ _ _ _ _ isReport running opens,
        returning_observationRows _ _⟩)
  | finished phase endedAt live =>
    refine noRow (closes endedAt ?_)
    rw [finishing_apply _ _ _ live (accounted.noResult live)]
    rfl

theorem rows_of_advance (accounted : block.Accounted)
    (advance : Advance surroundings op block after) :
    after.observationRows = block.observationRows ∨ (∃ stored, after.observationRows =
        block.observationRows.map (BlockUpdate.closeRow stored)) ∨
      (op.isReport = true ∧ ∃ stored row, after.observationRows =
        block.observationRows.map (BlockUpdate.closeRow stored) ++ [row]) := by
  refine (ledger_of_advance accounted advance).imp_right fun more => more.imp_right ?_
  rintro ⟨stored, row, ⟨_, _, _, _, _, rfl, -, -⟩, rows⟩
  exact ⟨rfl, stored, _, rows⟩

def starts (block : WorkBlock) : List Int :=
  block.observationRows.map (·.occurredAt)

theorem Ordered.of_closed (ordered : block.Ordered) {stored : Int} (rows : after.observationRows =
      block.observationRows.map (BlockUpdate.closeRow stored)) : after.Ordered := by
  constructor
  · rw [rows, pairwise_map]
    simpa using ordered.sorted
  · rw [rows, pairwise_map]
    exact ordered.closed.imp fun _ => closeRow_isSome _ _

variable {row : WorkBlockObservation .seconds}

theorem Ordered.of_opened (ordered : block.Ordered) {stored : Int} (rows : after.observationRows =
      block.observationRows.map (BlockUpdate.closeRow stored) ++ [row])
    (last : ∀ earlier ∈ block.observationRows, earlier.occurredAt ≤ row.occurredAt) :
    after.Ordered := by
  constructor
  · rw [rows, pairwise_append]
    refine ⟨pairwise_map.mpr (by simpa using ordered.sorted),
      pairwise_singleton _ _, fun earlier member later isLast => ?_⟩
    obtain ⟨before, beforeMem, rfl⟩ := mem_map.mp member
    rw [mem_singleton.mp isLast, closeRow_occurredAt]
    exact last before beforeMem
  · rw [rows, pairwise_append]
    refine ⟨pairwise_map.mpr (ordered.closed.imp fun _ => closeRow_isSome _ _),
      pairwise_singleton _ _, fun earlier member _ _ => ?_⟩
    obtain ⟨before, -, rfl⟩ := mem_map.mp member
    exact closeRow_isSome _ _

theorem Reached.row_le (reached : block.Reached) (now : Int)
    (member : row ∈ block.observationRows) :
    row.occurredAt ≤ timestamp (block.clampedInstant now) := by
  have clamped : timestamp (block.clampedInstant now) =
      min (max (timestamp now) block.record.updatedAt) block.record.deadline := by
    simp [clampedInstant]
  rw [clamped]
  exact le_min ((reached.updatedAt row member).trans (le_max_right _ _))
    (reached.deadline row member)

theorem Reached.of_starts (reached : block.Reached) (starts : after.starts = block.starts)
    (updatedAt : ∀ row ∈ block.observationRows, row.occurredAt ≤ after.record.updatedAt)
    (deadline : block.record.deadline ≤ after.record.deadline)
    (total : after.record.totalPausedSeconds ≤ u32Max) : after.Reached := by
  have before {row : WorkBlockObservation .seconds} (member : row ∈ after.observationRows) :
      ∃ earlier ∈ block.observationRows, earlier.occurredAt = row.occurredAt := by
    have isStart : row.occurredAt ∈ after.starts := mem_map_of_mem member
    rw [starts] at isStart
    exact mem_map.mp isStart
  refine ⟨fun row member => ?_, fun row member => ?_, total⟩
  · obtain ⟨earlier, earlierMem, same⟩ := before member
    rw [← same]
    exact updatedAt earlier earlierMem
  · obtain ⟨earlier, earlierMem, same⟩ := before member
    rw [← same]
    exact (reached.deadline earlier earlierMem).trans deadline

theorem closeAtReportedEnd_starts (surroundings : Surroundings) (boundary : Int)
    (block : WorkBlock) :
    ((BlockUpdate.closeAtReportedEnd surroundings boundary).apply block).starts =
      block.starts := by
  rcases closeAtReportedEnd_rows surroundings boundary block with
    same | ⟨openRow, -, -, rows⟩
  · simp only [starts, same]
  · simp [starts, rows]

theorem Ordered.closeAtReportedEnd (ordered : block.Ordered) (surroundings : Surroundings)
    (boundary : Int) (rows : after.observationRows =
      ((BlockUpdate.closeAtReportedEnd surroundings boundary).apply
        block).observationRows) : after.Ordered := by
  rcases closeAtReportedEnd_rows surroundings boundary block with
    same | ⟨openRow, -, -, closed⟩
  · rw [same] at rows
    exact ⟨rows ▸ ordered.sorted, rows ▸ ordered.closed⟩
  · exact ordered.of_closed (rows.trans closed)

theorem orderly_opened (orderly : block.Orderly) {now : Int} (running : block.Running now)
    {stored : Int}
    (start : row.occurredAt = timestamp (block.clampedInstant now)) (rows : after.observationRows =
      block.observationRows.map (BlockUpdate.closeRow stored) ++ [row])
    (isRecord : after.record = { block.record with
        updatedAt := max block.record.updatedAt
          (timestamp (block.clampedInstant now)) }) : after.Orderly := by
  have reached := orderly.reached running.live
  have clamped : timestamp (block.clampedInstant now) ≤ block.record.deadline := by
    simp [clampedInstant]
  refine ⟨orderly.ordered.of_opened rows fun earlier member => ?_, fun _ => ?_⟩
  · rw [start]
    exact reached.row_le now member
  · refine ⟨fun other member => ?_, fun other member => ?_, by rw [isRecord]; exact reached.total⟩
    all_goals
      rw [isRecord]
      rw [rows, mem_append, mem_singleton] at member
      rcases member with closed | rfl
    · obtain ⟨before, beforeMem, rfl⟩ := mem_map.mp closed
      rw [closeRow_occurredAt]
      exact (reached.updatedAt before beforeMem).trans (le_max_left _ _)
    · rw [start]
      exact le_max_right _ _
    · obtain ⟨before, beforeMem, rfl⟩ := mem_map.mp closed
      rw [closeRow_occurredAt]
      exact reached.deadline before beforeMem
    · rw [start]
      exact clamped

/-- The rows of a block stay in order of their times. -/
theorem Orderly.of_advance (orderly : block.Orderly) (accounted : block.Accounted)
    (keeps : block.KeepsOrder op) (advance : Advance surroundings op block after) :
    after.Orderly := by
  cases advance with
  | unchanged => exact orderly
  | cardSeen =>
    exact ⟨⟨orderly.ordered.sorted, orderly.ordered.closed⟩, fun live =>
      have reached := orderly.reached live
      ⟨reached.updatedAt, reached.deadline, reached.total⟩⟩
  | replied =>
    exact ⟨⟨orderly.ordered.sorted, orderly.ordered.closed⟩, fun live =>
      have reached := orderly.reached live
      ⟨reached.updatedAt, reached.deadline, reached.total⟩⟩
  | paused running =>
    have reached := orderly.reached running.live
    rw [pausing_apply _ _ running.active]
    refine ⟨orderly.ordered.closeAtReportedEnd _ _ rfl, fun _ => ?_⟩
    exact reached.of_starts (closeAtReportedEnd_starts _ _ _)
      (fun row member => reached.row_le _ member) le_rfl reached.total
  | resumed now pausedAt isResume paused since =>
    have reached := orderly.reached (by simp_all [WorkBlockPhase.isLive])
    rw [setActive_apply _ _ paused]
    refine ⟨⟨orderly.ordered.sorted, orderly.ordered.closed⟩, fun _ => ?_⟩
    refine reached.of_starts rfl (fun row member => ?_) ?_ ?_
    · rw [timestamp_max, timestamp_fromTimestamp]
      exact (reached.updatedAt row member).trans (le_max_right _ _)
    · have total := reached.total
      simp only [WorkBlockRecord.deadline, saturatingAdd]
      omega
    · exact min_le_right _ _
  | recovered now isRestart running =>
    subst isRestart
    have reached := orderly.reached running.live
    rw [recovering_apply _ _ running.live]
    refine ⟨orderly.ordered.closeAtReportedEnd _ _ rfl, fun _ => ?_⟩
    exact reached.of_starts (closeAtReportedEnd_starts _ _ _) (keeps running.live) le_rfl
      reached.total
  | recoveredPaused now isRestart paused =>
    subst isRestart
    have live : block.phase.isLive = true := by simp_all [WorkBlockPhase.isLive]
    have reached := orderly.reached live
    rw [markRecovered_apply _ live]
    refine ⟨⟨orderly.ordered.sorted, orderly.ordered.closed⟩, fun _ => ?_⟩
    exact reached.of_starts rfl (keeps live) le_rfl reached.total
  | continued category status confidence occurredAt receivedAt isReport running
      observation reported =>
      subst reported
      have start : (reportedObservation block category status confidence
          occurredAt).stored.occurredAt = timestamp (block.clampedInstant occurredAt) := rfl
      exact orderly_opened orderly running start (observing_observationRows _ _)
        (observing_record _ _)
  | judged category status confidence occurredAt receivedAt isReport running observation reported =>
      subst reported
      have start : (reportedObservation block category status confidence
          occurredAt).stored.occurredAt = timestamp (block.clampedInstant occurredAt) := rfl
      exact orderly_opened orderly running start
        (returning_observationRows _ _) (returning_record _ _)
  | finished phase endedAt live ends =>
    rw [finishing_apply _ _ _ live (accounted.noResult live)]
    refine ⟨orderly.ordered.closeAtReportedEnd surroundings endedAt rfl, fun stillLive => ?_⟩
    have ended : phase.isLive = true := stillLive
    rw [WorkBlockPhase.not_live_of_terminal ends.terminal] at ended
    cases ended

theorem orderly_created {record : WorkBlockRecord .nanoseconds} {now : Int}
    (started : Started record now) : (WorkBlockStore.createdBlock record).Orderly :=
  ⟨⟨List.Pairwise.nil, List.Pairwise.nil⟩, fun _ =>
    ⟨by simp [WorkBlockStore.createdBlock], by simp [WorkBlockStore.createdBlock],
      (congrArg (· ≤ u32Max) started.neverPaused).mpr (Nat.zero_le _)⟩⟩

theorem KeepsOrder.anyIntention (keeps : block.KeepsOrder op) (intention : Option String) :
    (block.withIntention intention).KeepsOrder op := by
  cases op <;> exact keeps

theorem Orderly.anyIntention (orderly : block.Orderly) (intention : Option String) :
    (block.withIntention intention).Orderly :=
  ⟨⟨orderly.ordered.sorted, orderly.ordered.closed⟩, fun live =>
    have reached := orderly.reached live
    ⟨reached.updatedAt, reached.deadline, reached.total⟩⟩

theorem Orderly.keepsOrder {clock : Int} (orderly : block.Orderly)
    (dated : block.Dated clock) (later : clock ≤ op.reading) : block.KeepsOrder op := by
  cases op with
  | recoverAfterRestart now =>
    intro live row member
    exact ((orderly.reached live).updatedAt row member).trans
      (dated.updatedAt.trans (timestamp_mono later))
  | _ => trivial

end WorkBlock

namespace WorkBlockManager

variable {manager : WorkBlockManager}

/-- The operation keeps the ledger of every block in order. -/
def KeepsOrder (manager : WorkBlockManager) (op : Operation) : Prop :=
  ∀ block ∈ manager.store.blocks, block.KeepsOrder op

/-- Every block is accounted for, only the latest is live, and ledgers are in
order. -/
structure InOrder (manager : WorkBlockManager) : Prop where
  owned : manager.Owned
  orderly : ∀ block ∈ manager.store.blocks, block.Orderly

theorem InOrder.next (inOrder : manager.InOrder) {op : Operation}
    (keeps : manager.KeepsOrder op) : (managerMachine.next manager op).InOrder := by
  refine ⟨inOrder.owned.next op, fun next member => ?_⟩
  rcases block_before op inOrder.owned.accounted member with
    ⟨block, blockMem, intention, -, advance⟩ | ⟨record, started, rfl⟩
  · have accounted : (block.withIntention intention).Accounted :=
      inOrder.owned.accounted block blockMem
    exact ((inOrder.orderly block blockMem).anyIntention intention).of_advance accounted
      ((keeps block blockMem).anyIntention intention) advance
  · exact WorkBlock.orderly_created started

theorem inOrder_opened (focus : Option (Int → Bool))
    (demotionRow : Option (DemotionStateRecord .seconds)) (rawEvents : List RawEventRow) :
    (opened focus demotionRow rawEvents).InOrder :=
  ⟨owned_opened focus demotionRow rawEvents, by simp [opened]⟩

theorem InOrder.run (inOrder : manager.InOrder) {ops : List Operation}
    (keeps : managerMachine.Meets KeepsOrder manager ops) :
    (managerMachine.run manager ops).InOrder :=
  managerMachine.invariant_run (fun _ _ holds keeps => holds.next keeps) inOrder keeps

end WorkBlockManager

end Velvt
