import Velvt.WorkBlockPrograms
import Velvt.WorkBlockSpecs

/-!
# How long the text of an intention is kept

Each row has a deadline for its text, and the sweep clears the text of the rows that are past
theirs.
-/

namespace Velvt

open StepMachine

/-- The text is kept or cleared, and its deadline not moved back. -/
structure WorkBlock.ForgetsTo (block later : WorkBlock) : Prop where
  blockId : later.blockId = block.blockId
  text : later.record.intention = none ∨
    later.record.intention = block.record.intention ∧
      later.record.intentionExpiresAt ≤ block.record.intentionExpiresAt

theorem WorkBlock.ForgetsTo.refl (block : WorkBlock) : block.ForgetsTo block :=
  ⟨rfl, .inr ⟨rfl, le_refl _⟩⟩

theorem WorkBlock.ForgetsTo.trans {first middle last : WorkBlock}
    (before : first.ForgetsTo middle) (after : middle.ForgetsTo last) :
    first.ForgetsTo last := by
  refine ⟨after.blockId.trans before.blockId, ?_⟩
  rcases after.text with cleared | ⟨same, deadline⟩
  · exact .inl cleared
  · rcases before.text with cleared | ⟨same', deadline'⟩
    · exact .inl (same.trans cleared)
    · exact .inr ⟨same.trans same', deadline.trans deadline'⟩

/-- Every block of the later store stems from one of the earlier. -/
def WorkBlockStore.ForgetsTo (store later : WorkBlockStore) : Prop :=
  ∀ next ∈ later.blocks, ∃ block ∈ store.blocks, block.ForgetsTo next

theorem WorkBlockStore.ForgetsTo.refl (store : WorkBlockStore) : store.ForgetsTo store :=
  fun block member => ⟨block, member, .refl block⟩

theorem WorkBlockStore.ForgetsTo.trans {first middle last : WorkBlockStore}
    (before : first.ForgetsTo middle) (after : middle.ForgetsTo last) :
    first.ForgetsTo last := by
  intro next member
  obtain ⟨between, isBetween, forgets⟩ := after next member
  obtain ⟨block, isBlock, forgot⟩ := before between isBetween
  exact ⟨block, isBlock, forgot.trans forgets⟩

/-- An update that writes no text and moves no deadline back. -/
def BlockUpdate.Forgets (update : BlockUpdate) : Prop :=
  ∀ block : WorkBlock, block.ForgetsTo (update.apply block)

variable {update : BlockUpdate}

theorem BlockUpdate.Forgets.only (forgets : update.Forgets)
    (blockId : Uuid) : (update.only blockId).Forgets := by
  intro block
  by_cases same : block.blockId = blockId
  · simpa [BlockUpdate.only, same] using forgets block
  · simpa [BlockUpdate.only, same] using WorkBlock.ForgetsTo.refl block

theorem BlockUpdate.Forgets.updateBlocks (forgets : update.Forgets)
    (store : WorkBlockStore) : store.ForgetsTo (store.updateBlocks update) := by
  intro next member
  obtain ⟨block, isBlock, rfl⟩ := List.mem_map.mp member
  exact ⟨block, isBlock, forgets block⟩

theorem BlockUpdate.forgets_of_same
    (text : ∀ block, (update.apply block).record.intention = block.record.intention)
    (deadline : ∀ block,
      (update.apply block).record.intentionExpiresAt ≤ block.record.intentionExpiresAt) :
    update.Forgets :=
  fun block => ⟨update.keepsId block, .inr ⟨text block, deadline block⟩⟩

theorem BlockUpdate.IsStatement.forgets (statement : update.IsStatement) : update.Forgets := by
  refine BlockUpdate.forgets_of_same ?_ ?_ <;> intro block <;> cases statement with
  | setPaused | setActive | markRecovered | finalize =>
    simp only [BlockUpdate.setPaused, BlockUpdate.setActive, BlockUpdate.markRecovered,
      BlockUpdate.finalize]
    split <;> simp
  | _ => rfl

theorem forgets_expireIntention (now : Int) : (BlockUpdate.expireIntention now).Forgets := by
  intro block
  refine ⟨BlockUpdate.keepsId _ block, ?_⟩
  simp only [BlockUpdate.expireIntention]
  split
  · exact .inl rfl
  · exact .inr ⟨rfl, le_refl _⟩

section Programs

variable {Result Next : Type}

/-- A program that writes no text and moves no deadline back. -/
def Forgets (program : ManagerM Result) : Prop :=
  ∀ manager : WorkBlockManager, manager.store.ForgetsTo (program manager).2.store

theorem forgets_pure (result : Result) : Forgets (pure result : ManagerM Result) :=
  fun _ => .refl _

theorem forgets_fail (error : WorkBlockError) :
    Forgets (ManagerM.fail error : ManagerM Result) :=
  fun _ => .refl _

theorem forgets_query (read : WorkBlockStore → Result) : Forgets (ManagerM.query read) :=
  fun _ => .refl _

theorem forgets_publishDeadline (deadline : Option Int) : Forgets (publishDeadline deadline) :=
  fun _ => .refl _

theorem forgets_focusActive (instant : Int) : Forgets (focusActive instant) :=
  fun _ => .refl _

theorem Forgets.bind {first : ManagerM Result} {rest : Result → ManagerM Next}
    (before : Forgets first) (after : ∀ result, Forgets (rest result)) :
    Forgets (first >>= rest) := by
  intro manager
  have forgot := before manager
  rw [ManagerM.bind_apply]
  split
  · rename_i result between isBetween
    rw [isBetween] at forgot
    exact forgot.trans (after result between)
  · rename_i error between isBetween
    rw [isBetween] at forgot
    exact forgot

theorem Forgets.ite {condition : Prop} [Decidable condition] {first second : ManagerM Result}
    (yes : Forgets first) (no : Forgets second) :
    Forgets (if condition then first else second) := by
  split
  · exact yes
  · exact no

theorem forgets_updateBlocks {update : BlockUpdate} (forgets : update.Forgets) :
    Forgets (ManagerM.command (·.updateBlocks update)) :=
  fun manager => forgets.updateBlocks manager.store

theorem forgets_updateBlock (blockId : Uuid) {update : BlockUpdate}
    (forgets : update.Forgets) : Forgets (ManagerM.command (·.updateBlock blockId update)) :=
  fun manager => (forgets.only blockId).updateBlocks manager.store

theorem forgets_of_blocks {write : WorkBlockStore → WorkBlockStore}
    (same : ∀ store, (write store).blocks = store.blocks) : Forgets (ManagerM.command write) := by
  intro manager next member
  have before : next ∈ manager.store.blocks := same manager.store ▸ member
  exact ⟨next, before, .refl next⟩

theorem forgets_getBlock (blockId : Uuid) : Forgets (getBlock blockId) := by
  refine (forgets_query _).bind ?_
  intro found
  cases found with
  | some block => exact forgets_pure _
  | none => exact forgets_fail _

theorem forgets_updateWorkBlock (blockId : Uuid) (phases : WorkBlockPhase → Bool)
    {update : BlockUpdate} (statement : update.IsStatement) :
    Forgets (updateWorkBlock blockId (fun block => phases block.phase) update) := by
  refine (forgets_query _).bind ?_
  intro found
  cases found with
  | none => exact forgets_fail _
  | some block => exact (forgets_updateBlock blockId statement.forgets).ite (forgets_fail _)

theorem forgets_expireIntentions (now : Int) : Forgets (expireIntentions now) :=
  forgets_updateBlocks (forgets_expireIntention now)

theorem forgets_evaluateDemotion (now : Int) : Forgets (evaluateDemotion now) := by
  refine (forgets_query _).bind fun row => (forgets_query _).bind fun counts => ?_
  refine Forgets.ite ?_ (forgets_pure _)
  refine Forgets.bind (forgets_of_blocks ?_) fun _ => forgets_pure _
  exact fun _ => rfl

theorem forgets_demotionStatePayload (now : Int) : Forgets (demotionStatePayload now) :=
  (forgets_evaluateDemotion now).bind fun _ => forgets_pure _

theorem forgets_resetDemotion (now : Int) : Forgets (resetDemotion now) := by
  refine Forgets.bind (forgets_of_blocks ?_) fun _ => forgets_demotionStatePayload now
  exact fun _ => rfl

theorem forgetsRules : ProgramRules fun _ program => Forgets program where
  pure := forgets_pure
  fail := forgets_fail
  bind := Forgets.bind
  latest := forgets_query _
  latestObservation _ := forgets_query _
  observations _ := forgets_query _
  result _ := forgets_query _
  intervention _ := forgets_query _
  reportedDwells _ _ := forgets_query _
  recentInterventions _ := forgets_query _
  focusActive := forgets_focusActive
  getBlock := forgets_getBlock
  publishDeadline := forgets_publishDeadline
  expireIntentions := forgets_expireIntentions
  updateBlock blockId _ statement := forgets_updateBlock blockId statement.forgets
  updateWorkBlock := forgets_updateWorkBlock
  verdict now := (forgets_evaluateDemotion now).bind fun _ => forgets_pure _

end Programs

end Velvt
