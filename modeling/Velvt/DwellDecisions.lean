import Velvt.DecisionLog
import Velvt.WorkBlockLedger

/-!
# One dwell, one decision

A dwell is reported when it begins and again when it ends.
-/

namespace Velvt

open StepMachine WorkBlockStore

namespace WorkBlock

variable {surroundings : Surroundings} {op : Operation} {block after : WorkBlock}

theorem decisions_of_advance (accounted : block.Accounted)
    (advance : Advance surroundings op block after) :
    after.decisionRows = block.decisionRows ∨
      (op.isReport = true ∧ block.Judges surroundings op after ∧
        after.decisionRows.length = block.decisionRows.length + 1) := by
  rcases log_of_advance accounted advance with ⟨same, -⟩ | judges
  · exact Or.inl same
  · refine Or.inr ⟨?_, judges, ?_⟩
    · obtain ⟨_, _, _, _, _, _, _, _, rfl, -⟩ := judges
      rfl
    · obtain ⟨_, _, _, _, _, _, _, _, -, -, -, -, -, -, -, -, -, decisions, -⟩ := judges
      rw [decisions, List.length_append, List.length_singleton]

/-- The last row of the ledger is a dwell's, begun no earlier than it. -/
def HoldsDwell (block : WorkBlock) (category : String) (status : ClassificationStatus)
    (confidence : ClassificationConfidence) (occurredAt : Int) : Prop :=
  ∃ row, block.observationRows.getLast? = some row ∧
    sameEvidence category status confidence row.loaded = true ∧
    timestamp occurredAt ≤ row.occurredAt

section Dwell

variable {category : String} {status : ClassificationStatus}
  {confidence : ClassificationConfidence} {occurredAt receivedAt : Int}

theorem HoldsDwell.of_advance (holds : block.HoldsDwell category status confidence occurredAt)
    (accounted : block.Accounted) (noReport : op.isReport = false)
    (advance : Advance surroundings op block after) :
    after.HoldsDwell category status confidence occurredAt := by
  obtain ⟨row, isLast, evidence, begun⟩ := holds
  rcases rows_of_advance accounted advance with same | ⟨stored, closed⟩ | ⟨isReport, -⟩
  · exact ⟨row, by rw [same]; exact isLast, evidence, begun⟩
  · refine ⟨BlockUpdate.closeRow stored row, ?_, ?_, ?_⟩
    · rw [closed, List.getLast?_map, isLast, Option.map_some]
    · rw [← evidence]
      simp only [BlockUpdate.closeRow]
      split <;> rfl
    · rw [closeRow_occurredAt]
      exact begun
  · rw [noReport] at isReport
    cases isReport

theorem Running.le_deadline {now : Int} (running : block.Running now)
    (fits : block.record.totalPausedSeconds + block.record.plannedDurationSeconds ≤ u32Max) :
    timestamp now ≤ block.record.deadline := by
  have timeLeft := running.timeLeft
  rw [WorkBlockRecord.elapsedAt_active _ running.active] at timeLeft
  simp only [WorkBlockRecord.spentBy, WorkBlockRecord.deadline] at timeLeft ⊢
  omega

theorem holdsDwell_of_judges (judges : block.Judges surroundings
      (.observeSafeCategory category status confidence occurredAt receivedAt) after)
    (inTime : timestamp occurredAt ≤ block.record.deadline) :
    after.HoldsDwell category status confidence occurredAt := by
  obtain ⟨_, _, _, _, _, observation, record, judged, isReport, -, reported, -, -, -, ledger,
    sameLedger, -, -, -⟩ := judges
  cases isReport
  subst reported
  refine ⟨_, by rw [sameLedger, ledger, List.getLast?_concat], ?_, ?_⟩
  · simp [sameEvidence, reportedObservation]
  · have clamped : timestamp (block.clampedInstant occurredAt) =
        min (max (timestamp occurredAt) block.record.updatedAt) block.record.deadline := by
      simp [clampedInstant]
    change timestamp occurredAt ≤ timestamp (block.clampedInstant occurredAt)
    rw [clamped]
    exact le_min (le_max_left _ _) inTime

theorem HoldsDwell.not_judges (holds : block.HoldsDwell category status confidence occurredAt)
    (ordered : block.Ordered) :
    ¬ block.Judges surroundings
      (.observeSafeCategory category status confidence occurredAt receivedAt) after := by
  rintro ⟨_, _, _, _, _, observation, record, judged, isReport, -, reported, opens, fresh, -⟩
  cases isReport
  subst reported
  obtain ⟨row, isLast, evidence, begun⟩ := holds
  have latest : block.latestObservation = some row.loaded := by
    rw [ordered.latestObservation, isLast, Option.map_some]
  cases isOpen : row.endedAt with
  | none =>
    have differs := opens row.loaded latest (by simp [isOpen])
    exact absurd (evidence.symm.trans differs) (by simp)
  | some endedAt =>
    refine fresh ⟨row.loaded, latest, by simp [isOpen], evidence, ?_⟩
    simpa using begun

end Dwell

end WorkBlock

namespace WorkBlockManager

variable {manager : WorkBlockManager}

/-- Ledgers are in order, and no instant lies after the clock. -/
structure Current (manager : WorkBlockManager) (clock : Int) : Prop where
  inOrder : manager.InOrder
  dated : ∀ block ∈ manager.store.blocks, block.Dated clock

theorem Current.next {clock : Int} (current : manager.Current clock) {op : Operation}
    (later : clock ≤ op.reading) (punctual : op.Punctual) :
    (managerMachine.next manager op).Current op.reading := by
  have keeps : manager.KeepsOrder op := fun block member =>
    (current.inOrder.orderly block member).keepsOrder (current.dated block member) later
  refine ⟨current.inOrder.next keeps, ?_⟩
  exact current.inOrder.owned.blocks_clocked_step
    (fun _ _ _ dated => ⟨dated.startedAt, dated.updatedAt, dated.pausedAt, dated.planned⟩)
    (fun _ _ started => WorkBlock.dated_created started)
    (fun _ _ _ _ _ accounted dated later punctual advance =>
      WorkBlock.Dated.of_advance dated accounted later punctual advance)
    current.dated later punctual

theorem current_run (focus : Option (Int → Bool))
    (demotionRow : Option (DemotionStateRecord .seconds)) (rawEvents : List RawEventRow)
    {clock : Int} {ops : List Operation} (clocked : Clocked clock ops) :
    (managerMachine.run (opened focus demotionRow rawEvents) ops).Current
      (lastReading clock ops) := by
  have initial : (opened focus demotionRow rawEvents).Current clock :=
    ⟨inOrder_opened focus demotionRow rawEvents, by simp [opened]⟩
  exact managerMachine.invariant_clocked_run Operation.reading
    (fun manager clock op current later punctual => current.next later punctual) initial
    clocked.ordered
    (managerMachine.meets_of_mem (fun op member _ => clocked.punctual op member) _)

def decisionCount (manager : WorkBlockManager) (blockId : Uuid) : Nat :=
  ((manager.store.block blockId).map fun block => block.decisionRows.length).getD 0

theorem decisionCount_of_found {blockId : Uuid} {block : WorkBlock}
    (found : manager.store.block blockId = some block) :
    manager.decisionCount blockId = block.decisionRows.length := by
  simp [decisionCount, found]

theorem Owned.decisionCount_of_absent (owned : manager.Owned) (op : Operation)
    {blockId : Uuid} (absent : manager.store.block blockId = none) :
    (managerMachine.next manager op).decisionCount blockId = 0 := by
  cases found : (managerMachine.next manager op).store.block blockId with
  | none => simp [decisionCount, found]
  | some next =>
    rcases block_before op owned.accounted (mem_of_block found) with
      ⟨block, blockMem, intention, sameId, -⟩ | ⟨record, -, rfl⟩
    · have wasThere := block_of_mem blockMem
      rw [← sameId, blockId_of_block found, absent] at wasThere
      cases wasThere
    · rw [decisionCount_of_found found]
      rfl

theorem Owned.decisionCount_next (owned : manager.Owned) (op : Operation) (blockId : Uuid) :
    (managerMachine.next manager op).decisionCount blockId ≤
      manager.decisionCount blockId + 1 := by
  cases found : manager.store.block blockId with
  | none =>
    rw [owned.decisionCount_of_absent op found]
    exact Nat.zero_le _
  | some block =>
    obtain ⟨next, intention, nextFound, advance⟩ := block_step op owned.accounted found
    have accounted : (block.withIntention intention).Accounted :=
      owned.accounted block (mem_of_block found)
    rw [decisionCount_of_found found, decisionCount_of_found nextFound]
    rcases WorkBlock.decisions_of_advance accounted advance with same | ⟨-, -, grown⟩
    · rw [same]
      exact Nat.le_succ _
    · exact grown.le

theorem Owned.holdsDwell_run (owned : manager.Owned) {category : String}
    {status : ClassificationStatus} {confidence : ClassificationConfidence}
    {occurredAt : Int} {ops : List Operation} (noReport : ∀ op ∈ ops, op.isReport = false)
    {blockId : Uuid} {block : WorkBlock} (found : manager.store.block blockId = some block)
    (holds : block.HoldsDwell category status confidence occurredAt) :
    ∃ after, (managerMachine.run manager ops).store.block blockId = some after ∧
      after.HoldsDwell category status confidence occurredAt := by
  induction ops generalizing manager block with
  | nil => exact ⟨block, found, holds⟩
  | cons op ops ih =>
    obtain ⟨next, intention, nextFound, advance⟩ := block_step op owned.accounted found
    have accounted : (block.withIntention intention).Accounted :=
      owned.accounted block (mem_of_block found)
    have held : (block.withIntention intention).HoldsDwell category status confidence
      occurredAt := holds
    exact ih (owned.next op) (fun later member => noReport later
      (List.mem_cons_of_mem _ member)) nextFound
      (held.of_advance accounted (noReport op List.mem_cons_self) advance)

end WorkBlockManager

/-- The two reports of a dwell log at most one decision between them under any
block. -/
def AtMostOneDecision (start : WorkBlockManager) (before : List Operation)
    (inProgress : Operation) (between : List Operation) (closed : Operation) : Prop :=
  let asked := managerMachine.run start before
  let begun := managerMachine.next asked inProgress
  let reached := managerMachine.run begun between
  let ended := managerMachine.next reached closed
  ∀ blockId, begun.decisionCount blockId + ended.decisionCount blockId ≤
    asked.decisionCount blockId + reached.decisionCount blockId + 1

/-- Under a nondecreasing clock, whatever boundaries lie between the two reports of a
dwell, the gate evaluates it at most once in each block, unless the dwell begins after
the deadline of a block that still runs. -/
theorem one_dwell_is_at_most_one_decision (focus : Option (Int → Bool))
    (demotionRow : Option (DemotionStateRecord .seconds)) (rawEvents : List RawEventRow)
    (clock : Int) (before between : List Operation) (category : String)
    (status : ClassificationStatus) (confidence : ClassificationConfidence)
    (occurredAt begunAt closedAt : Int) (clocked : Clocked clock (before ++
      .observeSafeCategory category status confidence occurredAt begunAt :: between ++
        [.observeSafeCategory category status confidence occurredAt closedAt]))
    (sequential : ∀ op ∈ between, op.isReport = false) (inTime : ∀ block, (managerMachine.run
        (WorkBlockManager.opened focus demotionRow rawEvents) before).store.latestBlock =
          some block →
      block.Running occurredAt → timestamp occurredAt ≤ block.record.deadline) :
    AtMostOneDecision (WorkBlockManager.opened focus demotionRow rawEvents) before
      (.observeSafeCategory category status confidence occurredAt begunAt) between
      (.observeSafeCategory category status confidence occurredAt closedAt) := by
  have current := WorkBlockManager.current_run focus demotionRow rawEvents
    (Clocked.of_append clocked)
  simp only [Machine.run_append, Machine.run_cons] at current
  have askedOwned := (WorkBlockManager.owned_opened focus demotionRow rawEvents).run before
  simp only [AtMostOneDecision]
  intro blockId
  set asked := managerMachine.run
    (WorkBlockManager.opened focus demotionRow rawEvents) before
  set begun := managerMachine.next asked
    (.observeSafeCategory category status confidence occurredAt begunAt)
  set reached := managerMachine.run begun between
  set ended := managerMachine.next reached
    (.observeSafeCategory category status confidence occurredAt closedAt)
  have begunOwned : begun.Owned := askedOwned.next _
  have reachedOwned : reached.Owned := begunOwned.run between
  have secondGrows : ended.decisionCount blockId ≤ reached.decisionCount blockId + 1 :=
    reachedOwned.decisionCount_next _ blockId
  cases found : asked.store.block blockId with
  | none =>
    have nothing : begun.decisionCount blockId = 0 :=
      askedOwned.decisionCount_of_absent _ found
    omega
  | some block =>
    obtain ⟨next, intention, nextFound, advance⟩ :=
      block_step (.observeSafeCategory category status confidence occurredAt begunAt)
        askedOwned.accounted found
    have member := mem_of_block found
    have accounted : (block.withIntention intention).Accounted :=
      askedOwned.accounted block member
    have askedCount := WorkBlockManager.decisionCount_of_found found
    have begunCount : begun.decisionCount blockId = next.decisionRows.length :=
      WorkBlockManager.decisionCount_of_found nextFound
    rcases WorkBlock.decisions_of_advance accounted advance with
      same | ⟨-, judges, grown⟩
    · have unchanged : next.decisionRows.length = block.decisionRows.length :=
        congrArg List.length same
      omega
    · have firstGrows : next.decisionRows.length = block.decisionRows.length + 1 := grown
      have running : (block.withIntention intention).Running occurredAt := by
        obtain ⟨_, _, _, _, _, _, _, _, isReport, running, -⟩ := judges
        cases isReport
        exact running
      have holds := WorkBlock.holdsDwell_of_judges judges
        (inTime block (askedOwned.latest block member running.live)
          ⟨running.active, running.timeLeft⟩)
      obtain ⟨later, laterFound, stillHolds⟩ :=
        begunOwned.holdsDwell_run sequential nextFound holds
      obtain ⟨last, lastIntention, lastFound, lastAdvance⟩ :=
        block_step (.observeSafeCategory category status confidence occurredAt closedAt)
          reachedOwned.accounted laterFound
      have laterMember := mem_of_block laterFound
      have laterAccounted : (later.withIntention lastIntention).Accounted :=
        reachedOwned.accounted later laterMember
      have ordered := ((current.inOrder.orderly later laterMember).anyIntention
        lastIntention).ordered
      have lastHolds : (later.withIntention lastIntention).HoldsDwell category status
        confidence occurredAt := stillHolds
      have reachedCount : reached.decisionCount blockId = later.decisionRows.length :=
        WorkBlockManager.decisionCount_of_found laterFound
      have endedCount : ended.decisionCount blockId = last.decisionRows.length :=
        WorkBlockManager.decisionCount_of_found lastFound
      rcases WorkBlock.decisions_of_advance laterAccounted lastAdvance with
        same | ⟨-, judges, -⟩
      · have unchanged : last.decisionRows.length = later.decisionRows.length :=
          congrArg List.length same
        omega
      · exact absurd judges (lastHolds.not_judges ordered)

/-- A pause that fills the counter of paused seconds leaves a block running past its
deadline: the row of a dwell that begins later is clamped back to the deadline, and the
report after the next pause is taken for another dwell. -/
theorem second_decision_after_full_pause :
    let before : List Operation :=
      [.start ⟨none, 1800, none, .medium⟩ 1 0, .pause 1 (Duration.seconds 10),
        .resume 1 (Duration.seconds 4294967306)]
    let inProgress : Operation := .observeSafeCategory "work" .classified .high
      (Duration.seconds 4294970000) (Duration.seconds 4294970000)
    let between : List Operation :=
      [.pause 1 (Duration.seconds 4294970010), .resume 1 (Duration.seconds 4294970020)]
    let closed : Operation := .observeSafeCategory "work" .classified .high
      (Duration.seconds 4294970000) (Duration.seconds 4294970030)
    Clocked 0 (before ++ inProgress :: between ++ [closed]) ∧
      (∀ op ∈ between, op.isReport = false) ∧
      ¬ AtMostOneDecision (WorkBlockManager.opened none none []) before inProgress between
        closed := by
  refine ⟨⟨by simp [Machine.Nondecreasing, Operation.reading, Duration.seconds],
    by simp [Operation.Punctual, Operation.instant, Operation.reading, Duration.seconds]⟩,
    by simp [Operation.isReport], fun atMostOne => ?_⟩
  have counts := atMostOne 1
  revert counts
  decide +kernel

/-- A pause between the two reports of a dwell, in time. -/
theorem one_decision_across_a_pause :
    AtMostOneDecision (WorkBlockManager.opened none none [])
      [.start ⟨none, 1800, none, .medium⟩ 1 0]
      (.observeSafeCategory "work" .classified .high (Duration.seconds 10)
        (Duration.seconds 12))
      [.pause 1 (Duration.seconds 20), .resume 1 (Duration.seconds 30)]
      (.observeSafeCategory "work" .classified .high (Duration.seconds 10)
        (Duration.seconds 40)) := by
  refine one_dwell_is_at_most_one_decision none none [] 0 _ _ _ _ _ _ _ _
    ⟨by simp [Machine.Nondecreasing, Operation.reading, Duration.seconds],
      by simp [Operation.Punctual, Operation.instant, Operation.reading, Duration.seconds]⟩
    (by simp [Operation.isReport]) ?_
  intro block latest running
  have member := List.mem_of_getLast? latest
  have room : (managerMachine.run (WorkBlockManager.opened none none [])
      [.start ⟨none, 1800, none, .medium⟩ 1 0]).store.blocks.all (fun block =>
        decide (block.record.totalPausedSeconds + block.record.plannedDurationSeconds ≤
          u32Max)) = true := by
    decide +kernel
  exact running.le_deadline (by simpa using List.all_eq_true.mp room block member)

end Velvt
