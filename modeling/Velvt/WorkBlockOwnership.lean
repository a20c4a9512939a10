import Velvt.WorkBlockInversion

/-!
# Ownership and write-once results

At most one block is live, and it is the latest one.
-/

namespace Velvt

open StepMachine List BlockUpdate WorkBlockStore

theorem WorkBlockPhase.not_live_of_terminal {phase : WorkBlockPhase}
    (terminal : phase.isTerminal = true) : phase.isLive = false := by
  cases phase <;> simp_all [isTerminal, isLive]

namespace WorkBlock

variable {surroundings : Surroundings} {op : Operation} {block after : WorkBlock}

/-- The end of a block as the store keeps it. -/
structure SameEnd (block after : WorkBlock) : Prop where
  phase : after.phase = block.phase
  endedAt : after.record.endedAt = block.record.endedAt
  result : after.resultRow = block.resultRow

theorem SameEnd.refl (block : WorkBlock) : SameEnd block block :=
  ⟨rfl, rfl, rfl⟩

theorem SameEnd.trans {first middle last : WorkBlock} (before : SameEnd first middle)
    (later : SameEnd middle last) : SameEnd first last :=
  ⟨later.phase.trans before.phase, later.endedAt.trans before.endedAt,
    later.result.trans before.result⟩

theorem sameEnd_of_advance (ended : block.phase.isLive = false)
    (advance : Advance surroundings op block after) : SameEnd block after := by
  have notActive : block.record.phase ≠ .active := by
    rintro active
    simp [active, WorkBlockPhase.isLive] at ended
  have notPaused : block.record.phase ≠ .paused := by
    rintro paused
    simp [paused, WorkBlockPhase.isLive] at ended
  cases advance with
  | unchanged => exact .refl block
  | cardSeen => exact ⟨rfl, rfl, rfl⟩
  | replied => exact ⟨rfl, rfl, rfl⟩
  | paused running => exact absurd running.active notActive
  | resumed now pausedAt isResume paused => exact absurd paused notPaused
  | recovered now isRestart running => exact absurd running.active notActive
  | recoveredPaused now isRestart paused => exact absurd paused notPaused
  | continued category status confidence occurredAt receivedAt isReport running =>
    exact absurd running.active notActive
  | judged category status confidence occurredAt receivedAt isReport running =>
    exact absurd running.active notActive
  | finished phase endedAt live => simp_all

theorem Ends.terminal {phase : WorkBlockPhase} {endedAt : Int}
    (ends : block.Ends op phase endedAt) : phase.isTerminal = true := by
  cases ends with
  | deadline _ _ _ ending => rcases ending with rfl | rfl <;> rfl
  | running => rfl
  | paused => rfl

theorem Accounted.of_advance (accounted : block.Accounted)
    (advance : Advance surroundings op block after) : after.Accounted := by
  cases advance with
  | unchanged => exact accounted
  | cardSeen => exact accounted
  | replied => exact accounted
  | paused running =>
    have noResult := accounted.noResult running.live
    rw [pausing_apply _ _ running.active]
    exact Or.inl ⟨rfl, by simpa using noResult⟩
  | resumed now pausedAt isResume paused =>
    have noResult := accounted.noResult (by simp_all [WorkBlockPhase.isLive])
    rw [setActive_apply _ _ paused]
    exact Or.inl ⟨rfl, noResult⟩
  | recovered now isRestart running =>
    have noResult := accounted.noResult running.live
    rw [recovering_apply _ _ running.live]
    exact Or.inl ⟨running.live, by simpa using noResult⟩
  | recoveredPaused now isRestart paused =>
    have live : block.phase.isLive = true := by simp_all [WorkBlockPhase.isLive]
    rw [markRecovered_apply _ live]
    exact Or.inl ⟨live, accounted.noResult live⟩
  | continued category status confidence occurredAt receivedAt isReport running =>
    exact Or.inl ⟨running.live, accounted.noResult running.live⟩
  | judged category status confidence occurredAt receivedAt isReport running observation =>
      refine Or.inl ⟨?_, ?_⟩
      · simpa using running.live
      · simpa using accounted.noResult running.live
  | finished phase endedAt live ends =>
    rw [finishing_apply _ _ _ live (accounted.noResult live)]
    exact Or.inr ⟨ends.terminal, rfl⟩

end WorkBlock

theorem Started.accounted {record : WorkBlockRecord .nanoseconds} {now : Int}
    (started : Started record now) : (WorkBlockStore.createdBlock record).Accounted :=
  Or.inl ⟨by simp [WorkBlockStore.createdBlock, started.active, WorkBlockPhase.isLive], rfl⟩

section Steps

variable {manager : WorkBlockManager} (op : Operation)

theorem block_step (accounted : ∀ block ∈ manager.store.blocks, block.Accounted)
    {blockId : Uuid} {block : WorkBlock} (found : manager.store.block blockId = some block) :
    ∃ next intention, (managerMachine.next manager op).store.block blockId = some next ∧
        Advance manager.surroundings op (block.withIntention intention) next := by
  have stepped := managerMachine_stepped manager op accounted
  have member := mem_of_block found
  obtain rfl := blockId_of_block found
  cases stepped.evolution with
  | advanced advances =>
    obtain ⟨update, blocks, each⟩ := advances
    obtain ⟨intention, advance⟩ := each block member
    refine ⟨update.apply block, intention, ?_, advance⟩
    have nextMember : update.apply block ∈ (managerMachine.next manager op).store.blocks := by
      rw [blocks]
      exact mem_map_of_mem member
    have nextFound := block_of_mem nextMember
    rwa [update.keepsId] at nextFound
  | created record idle started added =>
    refine ⟨block, block.record.intention, ?_, .unchanged⟩
    apply block_of_mem
    rw [added]
    exact mem_append_left _ member

theorem block_before (accounted : ∀ block ∈ manager.store.blocks, block.Accounted)
    {next : WorkBlock} (member : next ∈ (managerMachine.next manager op).store.blocks) :
    (∃ block ∈ manager.store.blocks, ∃ intention, next.blockId = block.blockId ∧
      Advance manager.surroundings op (block.withIntention intention) next) ∨
    ∃ record, Started record op.reading ∧ next = WorkBlockStore.createdBlock record := by
  have stepped := managerMachine_stepped manager op accounted
  cases stepped.evolution with
  | advanced advances =>
    obtain ⟨update, blocks, each⟩ := advances
    rw [blocks] at member
    obtain ⟨block, blockMem, rfl⟩ := mem_map.mp member
    obtain ⟨intention, advance⟩ := each block blockMem
    exact Or.inl ⟨block, blockMem, intention, update.keepsId block, advance⟩
  | created record idle started added =>
    rw [added, mem_append, mem_singleton] at member
    rcases member with old | rfl
    · exact Or.inl ⟨next, old, next.record.intention, rfl, .unchanged⟩
    · exact Or.inr ⟨record, started, rfl⟩

end Steps

namespace WorkBlockManager

/-- Every block is accounted for, and only the latest can be live. -/
structure Owned (manager : WorkBlockManager) : Prop where
  accounted : ∀ block ∈ manager.store.blocks, block.Accounted
  latest : ∀ block ∈ manager.store.blocks, block.phase.isLive = true →
    manager.store.latestBlock = some block

theorem owned_opened (focus : Option (Int → Bool))
    (demotionRow : Option (DemotionStateRecord .seconds)) (rawEvents : List RawEventRow) :
    (opened focus demotionRow rawEvents).Owned :=
  ⟨by simp [opened], by simp [opened]⟩

variable {manager : WorkBlockManager}

/-- Every operation keeps to one live block, the latest. -/
theorem Owned.next (owned : manager.Owned)
    (op : Operation) : (managerMachine.next manager op).Owned := by
  have stepped := managerMachine_stepped manager op owned.accounted
  refine ⟨fun next member => ?_, fun block member live => ?_⟩
  · rcases block_before op owned.accounted member with
      ⟨block, blockMem, intention, -, advance⟩ | ⟨record, started, rfl⟩
    · have accounted : (block.withIntention intention).Accounted :=
        owned.accounted block blockMem
      exact accounted.of_advance advance
    · exact started.accounted
  cases stepped.evolution with
  | advanced advances =>
    obtain ⟨update, blocks, each⟩ := advances
    rw [blocks] at member
    obtain ⟨before, beforeMem, rfl⟩ := mem_map.mp member
    obtain ⟨intention, advance⟩ := each before beforeMem
    have wasLive : before.phase.isLive = true := by
      by_contra ended
      have same := WorkBlock.sameEnd_of_advance
        (by simpa [WorkBlock.withIntention] using ended) advance
      rw [same.phase] at live
      exact ended live
    rw [WorkBlockStore.latestBlock, blocks, List.getLast?_map]
    exact congrArg (Option.map update.apply) (owned.latest before beforeMem wasLive)
  | created record idle started added =>
    rw [added, mem_append, mem_singleton] at member
    rcases member with old | rfl
    · have ended := idle block (owned.latest block old live)
      rw [live] at ended
      cases ended
    · rw [WorkBlockStore.latestBlock, added, List.getLast?_concat]

theorem Owned.run (owned : manager.Owned)
    (ops : List Operation) : (managerMachine.run manager ops).Owned :=
  managerMachine.invariant_run_of_forall (fun _ op holds => holds.next op) ops owned

theorem Owned.sameEnd_run (owned : manager.Owned)
    (ops : List Operation) {blockId : Uuid} {block : WorkBlock}
    (found : manager.store.block blockId = some block) (ended : block.phase.isLive = false) :
    ∃ after, (managerMachine.run manager ops).store.block blockId = some after ∧
      block.SameEnd after := by
  induction ops generalizing manager block with
  | nil => exact ⟨block, found, .refl block⟩
  | cons op ops ih =>
    obtain ⟨next, intention, nextFound, advance⟩ :=
      block_step op owned.accounted found
    have same : (block.withIntention intention).SameEnd next :=
      WorkBlock.sameEnd_of_advance ended advance
    obtain ⟨after, afterFound, sameAfter⟩ :=
      ih (owned.next op) nextFound (by rw [same.phase]; exact ended)
    have whole := same.trans sameAfter
    exact ⟨after, afterFound, whole.phase, whole.endedAt, whole.result⟩

theorem Owned.blocks_run {Inv : WorkBlock → Prop}
    (anyIntention : ∀ block intention, Inv block → Inv (block.withIntention intention))
    (started : ∀ record now, Started record now → Inv (WorkBlockStore.createdBlock record))
    (advanced : ∀ surroundings op block after, block.Accounted → Inv block →
      Advance surroundings op block after → Inv after)
    (owned : manager.Owned)
    (initial : ∀ block ∈ manager.store.blocks, Inv block) (ops : List Operation) :
    ∀ block ∈ (managerMachine.run manager ops).store.blocks, Inv block := by
  have keeps : ∀ (manager : WorkBlockManager) (op : Operation),
      (manager.Owned ∧ ∀ block ∈ manager.store.blocks, Inv block) →
      (managerMachine.next manager op).Owned ∧
        ∀ block ∈ (managerMachine.next manager op).store.blocks, Inv block := by
    rintro manager op ⟨owned, holds⟩
    refine ⟨owned.next op, fun next member => ?_⟩
    rcases block_before op owned.accounted member with
      ⟨block, blockMem, intention, -, advance⟩ | ⟨record, isStarted, rfl⟩
    · have accounted : (block.withIntention intention).Accounted :=
        owned.accounted block blockMem
      exact advanced _ _ _ _ accounted (anyIntention _ _ (holds block blockMem)) advance
    · exact started record _ isStarted
  exact (managerMachine.invariant_run_of_forall keeps ops ⟨owned, initial⟩).2

end WorkBlockManager

/-- In every state the manager reaches, whatever the clock reads and whatever
identifiers are drawn, at most one block is live and it is the latest one; a
block that has ended has its result row; and no later operation changes its
phase, its end or its result. -/
theorem one_live_block_and_frozen_results (focus : Option (Int → Bool))
    (demotionRow : Option (DemotionStateRecord .seconds)) (rawEvents : List RawEventRow)
    (ops : List Operation) :
    let reached := managerMachine.run
      (WorkBlockManager.opened focus demotionRow rawEvents) ops
    (∀ first ∈ reached.store.blocks, ∀ second ∈ reached.store.blocks,
      first.phase.isLive = true → second.phase.isLive = true → first = second) ∧
    (∀ block ∈ reached.store.blocks, block.phase.isLive = true →
      reached.store.latestBlock = some block) ∧
    (∀ block ∈ reached.store.blocks, block.phase.isTerminal = true →
      block.resultRow.isSome = true ∧
      ∀ later : List Operation, ∃ after,
        (managerMachine.run reached later).store.block block.blockId = some after ∧
        after.phase = block.phase ∧ after.record.endedAt = block.record.endedAt ∧
        after.resultRow = block.resultRow) := by
  intro reached
  have owned : reached.Owned :=
    (WorkBlockManager.owned_opened focus demotionRow rawEvents).run ops
  refine ⟨?_, owned.latest, ?_⟩
  · intro first firstMem second secondMem firstLive secondLive
    have same := (owned.latest first firstMem firstLive).symm.trans
      (owned.latest second secondMem secondLive)
    exact Option.some.inj same
  · intro block member terminal
    have ended := WorkBlockPhase.not_live_of_terminal terminal
    refine ⟨?_, fun later => ?_⟩
    · rcases owned.accounted block member with ⟨live, -⟩ | ⟨-, result⟩
      · simp_all
      · exact result
    · obtain ⟨after, found, same⟩ :=
        owned.sameEnd_run later (block_of_mem member) ended
      exact ⟨after, found, same.phase, same.endedAt, same.result⟩

end Velvt
