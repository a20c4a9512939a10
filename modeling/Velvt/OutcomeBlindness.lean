import Velvt.DecisionOutcomes
import Velvt.WorkBlockPrograms
import Velvt.WorkBlockSpecs

/-!
# The manager never reads an outcome

No operation reads the outcome of a decision, and a pass writes nothing else.
-/

namespace Velvt

open StepMachine List WorkBlockStore ManagerM

def InterventionDecision.withoutOutcome (row : InterventionDecision .seconds) :
    InterventionDecision .seconds :=
  { row with anchorSeenWithin600s := none, outcomeAt := none }

def BlockUpdate.forgetOutcomes : BlockUpdate where
  apply block :=
    { block with decisionRows := block.decisionRows.map InterventionDecision.withoutOutcome }
  keepsId _ := rfl

def WorkBlockManager.withoutOutcomes (manager : WorkBlockManager) : WorkBlockManager :=
  { manager with store := manager.store.updateBlocks .forgetOutcomes }

/-- Taking the outcomes out before or after an update comes to the same. -/
def BlockUpdate.SkipsOutcomes (update : BlockUpdate) : Prop :=
  ∀ block : WorkBlock, update.apply (BlockUpdate.forgetOutcomes.apply block) =
    BlockUpdate.forgetOutcomes.apply (update.apply block)

variable {update : BlockUpdate}

theorem BlockUpdate.IsStatement.skipsOutcomes
    (statement : update.IsStatement) : update.SkipsOutcomes := by
  intro block
  cases statement with
  | setPaused | setActive | markRecovered | finalize =>
    simp only [BlockUpdate.setPaused, BlockUpdate.setActive, BlockUpdate.markRecovered,
      BlockUpdate.finalize, BlockUpdate.forgetOutcomes]
    split <;> rfl
  | recordDecision decision unseen pending =>
    have kept : decision.stored.withoutOutcome = decision.stored := by
      simp only [InterventionDecision.withoutOutcome, InterventionDecision.stored, unseen,
        pending, Option.map_none]
    simp only [BlockUpdate.recordDecision, BlockUpdate.forgetOutcomes, map_append,
      map_cons, map_nil, kept]
  | _ => rfl

theorem BlockUpdate.SkipsOutcomes.only (skips : update.SkipsOutcomes)
    (blockId : Uuid) : (update.only blockId).SkipsOutcomes := by
  intro block
  have sameId : (BlockUpdate.forgetOutcomes.apply block).blockId = block.blockId :=
    BlockUpdate.forgetOutcomes.keepsId block
  by_cases same : block.blockId = blockId
  · simpa only [BlockUpdate.only, sameId, same, if_true] using skips block
  · simp only [BlockUpdate.only, sameId, same, if_false]

theorem BlockUpdate.SkipsOutcomes.updateBlocks
    (skips : update.SkipsOutcomes) (store : WorkBlockStore) :
    (store.updateBlocks .forgetOutcomes).updateBlocks update =
      (store.updateBlocks update).updateBlocks .forgetOutcomes := by
  refine ext_fields ?_ rfl rfl
  simp only [updateBlocks_blocks, map_map]
  exact map_congr_left fun block _ => skips block

section Programs

/-- With the outcomes taken out before, the program answers alike and leaves the same state
with the outcomes taken out. -/
def BlindToOutcomes (Result : Type) (program : ManagerM Result) : Prop :=
  ∀ manager : WorkBlockManager, program manager.withoutOutcomes =
    ((program manager).1, (program manager).2.withoutOutcomes)

variable {Result Next : Type}

theorem blind_pure (result : Result) : BlindToOutcomes Result (pure result) :=
  fun _ => rfl

theorem blind_fail (error : WorkBlockError) : BlindToOutcomes Result (ManagerM.fail error) :=
  fun _ => rfl

theorem blind_bind {first : ManagerM Result} {rest : Result → ManagerM Next}
    (before : BlindToOutcomes _ first) (after : ∀ result, BlindToOutcomes _ (rest result)) :
    BlindToOutcomes _ (first >>= rest) := by
  intro manager
  rw [bind_apply, bind_apply, before manager]
  cases ran : first manager with
  | mk answer between =>
    cases answer with
    | ok result => exact after result between
    | error error => rfl

theorem blind_ite {condition : Prop} [Decidable condition] {first second : ManagerM Result}
    (yes : BlindToOutcomes _ first) (no : BlindToOutcomes _ second) :
    BlindToOutcomes _ (if condition then first else second) := by
  split
  · exact yes
  · exact no

theorem blind_query {read : WorkBlockStore → Result}
    (reads : ∀ store : WorkBlockStore, read (store.updateBlocks .forgetOutcomes) = read store) :
    BlindToOutcomes Result (ManagerM.query read) :=
  fun manager => congrArg (fun answer => (Except.ok answer, manager.withoutOutcomes))
    (reads manager.store)

theorem blind_query_block (blockId : Uuid) (read : Option WorkBlock → Result)
    (reads : ∀ found, read (found.map BlockUpdate.forgetOutcomes.apply) = read found) :
    BlindToOutcomes _ (ManagerM.query fun store => read (store.block blockId)) := by
  refine blind_query fun store => ?_
  rw [block_updateBlocks, reads]

theorem blind_command {write : WorkBlockStore → WorkBlockStore}
    (skips : ∀ store : WorkBlockStore, write (store.updateBlocks .forgetOutcomes) =
      (write store).updateBlocks .forgetOutcomes) :
    BlindToOutcomes _ (ManagerM.command write) :=
  fun manager => congrArg (fun store => (Except.ok (), { manager with store := store }))
    (skips manager.store)

theorem blind_updateBlock (blockId : Uuid) {update : BlockUpdate} (statement : update.IsStatement) :
    BlindToOutcomes _ (ManagerM.command (·.updateBlock blockId update)) :=
  blind_command fun store => (statement.skipsOutcomes.only blockId).updateBlocks store

theorem interventionRows_forgetOutcomes (store : WorkBlockStore) :
    (store.updateBlocks .forgetOutcomes).interventionRows = store.interventionRows := by
  simp only [WorkBlockStore.interventionRows, updateBlocks_blocks, filterMap_map]
  rfl

theorem blind_evaluateDemotion (now : Int) : BlindToOutcomes _ (evaluateDemotion now) := by
  refine blind_bind (blind_query fun _ => rfl) fun row => ?_
  refine blind_bind (blind_query fun store => ?_) fun counts => ?_
  · rw [interventionRows_forgetOutcomes]
  · refine blind_ite (blind_bind ?_ fun _ => blind_pure _) (blind_pure _)
    exact blind_command fun _ => rfl

theorem blind_resetDemotion (now : Int) : BlindToOutcomes _ (resetDemotion now) := by
  refine blind_bind (blind_command fun _ => rfl) fun _ => ?_
  exact blind_bind (blind_evaluateDemotion now) fun _ => blind_pure _

theorem blind_expireIntentions (now : Int) : BlindToOutcomes _ (expireIntentions now) := by
  refine blind_command fun store => BlockUpdate.SkipsOutcomes.updateBlocks ?_ store
  intro block
  simp only [BlockUpdate.expireIntention, BlockUpdate.forgetOutcomes]
  split <;> rfl

theorem blind_updateWorkBlock (blockId : Uuid) (phases : WorkBlockPhase → Bool)
    {update : BlockUpdate} (statement : update.IsStatement) :
    BlindToOutcomes _ (updateWorkBlock blockId (fun block => phases block.phase) update) := by
  intro manager
  have writes := blind_updateBlock blockId statement manager
  simp only [updateWorkBlock, bind_apply, query_apply,
    WorkBlockManager.withoutOutcomes, block_updateBlocks]
  cases manager.store.block blockId with
  | none => rfl
  | some block =>
    have samePhase : (BlockUpdate.forgetOutcomes.apply block).phase = block.phase := rfl
    simp only [Option.map_some, samePhase, ManagerM.ite_apply]
    split
    · exact writes
    · rfl

theorem blind_getBlock (blockId : Uuid) : BlindToOutcomes _ (getBlock blockId) := by
  intro manager
  simp only [getBlock, bind_apply, query_apply,
    WorkBlockManager.withoutOutcomes, block_updateBlocks]
  cases manager.store.block blockId <;> rfl

theorem blind_create (record : WorkBlockRecord .nanoseconds) :
    BlindToOutcomes _ (create record) := by
  intro manager
  have sameIds : (manager.store.updateBlocks .forgetOutcomes).blocks.map WorkBlock.blockId =
      manager.store.blocks.map WorkBlock.blockId := by
    rw [updateBlocks_blocks, map_map]
    rfl
  by_cases taken : record.blockId ∈ manager.store.blocks.map WorkBlock.blockId
  · have refuses : manager.store.create record = .error .persistence := dif_pos taken
    have refusesToo : manager.withoutOutcomes.store.create record = .error .persistence :=
      dif_pos (sameIds ▸ taken)
    simp only [create, refuses, refusesToo]
  · have adds : manager.store.create record = _ := dif_neg taken
    have addsToo : manager.withoutOutcomes.store.create record = _ := dif_neg (sameIds ▸ taken)
    simp only [create, adds, addsToo]
    refine congrArg (fun store => (Except.ok (), { manager with store := store })) ?_
    refine ext_fields ?_ rfl rfl
    simp only [WorkBlockManager.withoutOutcomes, updateBlocks_blocks, map_append, map_cons, map_nil]
    rfl

theorem blindRules : ProgramRules BlindToOutcomes where
  pure := blind_pure
  fail := blind_fail
  bind := blind_bind
  latest := blind_query fun store => by
    simp only [WorkBlockStore.latest, WorkBlockStore.latestBlock,
      updateBlocks_blocks, List.getLast?_map, Option.map_map]
    rfl
  latestObservation blockId := by
    refine blind_query_block blockId (·.bind WorkBlock.latestObservation) ?_
    intro found
    cases found <;> rfl
  observations blockId := by
    refine blind_query_block blockId (fun found => (found.map WorkBlock.observations).getD []) ?_
    intro found
    cases found <;> rfl
  result blockId := by
    refine blind_query_block blockId (·.bind WorkBlock.resultRow) ?_
    intro found
    cases found <;> rfl
  intervention blockId := by
    refine blind_query_block blockId (fun found => (found.bind WorkBlock.interventionRow).map WorkBlockIntervention.loaded) ?_
    intro found
    cases found <;> rfl
  reportedDwells _ _ := blind_query fun _ => rfl
  recentInterventions limit := blind_query fun store => by rw [interventionRows_forgetOutcomes]
  focusActive _ := fun _ => rfl
  getBlock := blind_getBlock
  publishDeadline _ := fun _ => rfl
  expireIntentions := blind_expireIntentions
  updateBlock := blind_updateBlock
  updateWorkBlock := blind_updateWorkBlock
  verdict now := blind_bind (blind_evaluateDemotion now) fun _ => blind_pure _

theorem blind_perform (op : Operation) : BlindToOutcomes _ op.perform := by
  cases op with
  | start request freshId now =>
    exact blindRules.map (blindRules.startWithOrigin blind_create _ _ _ _) _
  | startWithOrigin => exact blindRules.map (blindRules.startWithOrigin blind_create _ _ _ _) _
  | pause => exact blindRules.map (blindRules.pause _ _) _
  | resume => exact blindRules.map (blindRules.resume _ _) _
  | endBlock => exact blindRules.map (blindRules.endBlock _ _) _
  | requestState => exact blindRules.map (blindRules.requestState _) _
  | lifecycle => exact blindRules.map (blindRules.lifecycle _ _) _
  | observeSafeCategory => exact blindRules.map (blindRules.observeSafeCategory _ _ _ _) _
  | recoverAfterRestart => exact blindRules.map (blindRules.recoverAfterRestart _) _
  | acceptRecovery => exact blindRules.map (blindRules.acceptRecovery blind_create _ _ _ _) _
  | recordInterventionCardSeen =>
    exact blindRules.map (blindRules.recordInterventionCardSeen _ _) _
  | reportInterventionOutcome =>
    exact blindRules.map (blindRules.reportInterventionOutcome _ _ _) _
  | evaluateDemotion => exact blindRules.map (blind_evaluateDemotion _) _
  | demotionStatePayload =>
    exact blindRules.map (blind_bind (blind_evaluateDemotion _) fun _ => blind_pure _) _
  | resetDemotion => exact blindRules.map (blind_resetDemotion _) _
  | replaceRawEvents => exact blindRules.map (blind_command fun _ => rfl) _
  | attachFocusSource => exact fun _ => rfl

end Programs

section Passes

open InterventionDecisionOutcomeTarget

theorem withoutOutcome_resolveDecisionRow (anchorSeen : Bool) (stored : Int)
    (row : InterventionDecision .seconds) :
    (BlockUpdate.resolveDecisionRow anchorSeen stored row).withoutOutcome = row.withoutOutcome := by
  simp only [BlockUpdate.resolveDecisionRow]
  split <;> rfl

theorem forgetOutcomes_resolveDecision (index : Nat) (anchorSeen : Bool) (instant : Int)
    (block : WorkBlock) :
    BlockUpdate.forgetOutcomes.apply
        ((BlockUpdate.resolveDecision index anchorSeen instant).apply block) =
      BlockUpdate.forgetOutcomes.apply block := by
  have sameRows : (block.decisionRows.modify index
        (BlockUpdate.resolveDecisionRow anchorSeen (timestamp instant))).map
          InterventionDecision.withoutOutcome =
      block.decisionRows.map InterventionDecision.withoutOutcome := by
    apply ext_getElem?
    intro place
    rw [List.getElem?_map, List.getElem?_map, List.getElem?_modify]
    cases block.decisionRows[place]? with
    | none => rfl
    | some row =>
      by_cases here : index = place
      · simp only [here, if_true, Option.map_eq_map, Option.map_some,
          withoutOutcome_resolveDecisionRow]
      · simp only [here, if_false, Option.map_eq_map, Option.map_some]
  simp only [BlockUpdate.forgetOutcomes, BlockUpdate.resolveDecision, sameRows]

theorem forgetOutcomes_resolve (state : WorkBlockStore × Nat)
    (entry : DecisionKey × InterventionDecision .nanoseconds) :
    (resolve state entry).1.updateBlocks .forgetOutcomes =
      state.1.updateBlocks .forgetOutcomes := by
  simp only [resolve]
  split
  · refine ext_fields ?_ rfl rfl
    simp only [WorkBlockStore.resolveDecision, updateBlocks_blocks, updateBlock_blocks, map_map]
    refine map_congr_left fun block _ => ?_
    by_cases same : block.blockId = entry.1.blockId
    · simp only [Function.comp_apply, BlockUpdate.only, same, if_true,
        forgetOutcomes_resolveDecision]
    · simp only [Function.comp_apply, BlockUpdate.only, same, if_false]
  · rfl

theorem forgetOutcomes_runCleanup (decisionId : DecisionKey → Uuid) (store : WorkBlockStore)
    (now : Int) (batchSize : Nat) :
    (runCleanup decisionId store now batchSize).1.updateBlocks .forgetOutcomes =
      store.updateBlocks .forgetOutcomes := by
  exact List.foldlRecOn _ resolve (motive := fun state : WorkBlockStore × Nat =>
      state.1.updateBlocks .forgetOutcomes = store.updateBlocks .forgetOutcomes) rfl
    fun state same entry _ => (forgetOutcomes_resolve state entry).trans same

end Passes

theorem withoutOutcomes_next (manager : WorkBlockManager) (op : Operation) :
    (managerMachine.next manager op).withoutOutcomes =
      managerMachine.next manager.withoutOutcomes op := by
  have blind := blind_perform op manager
  simp only [Machine.next, managerMachine, blind]
  cases op.perform manager with
  | mk answer next => cases answer <;> rfl

theorem withoutOutcomes_run (decisionId : DecisionKey → Uuid) (manager : WorkBlockManager)
    (steps : List OutcomeStep) :
    ((outcomeMachine decisionId).run manager steps).withoutOutcomes =
      managerMachine.run manager.withoutOutcomes (operationsOf steps) := by
  induction steps generalizing manager with
  | nil => rfl
  | cons step steps ih =>
    rw [Machine.run_cons, ih]
    cases step with
    | operation op =>
      have onOperation : (outcomeMachine decisionId).next manager (.operation op) =
          managerMachine.next manager op := rfl
      rw [onOperation, withoutOutcomes_next]
      rfl
    | resolveOutcomes now batchSize =>
      have onPass := forgetOutcomes_runCleanup decisionId manager.store now batchSize
      have same : ((outcomeMachine decisionId).next manager
          (.resolveOutcomes now batchSize)).withoutOutcomes = manager.withoutOutcomes :=
        congrArg (fun store => { manager with store := store }) onPass
      rw [same]
      rfl

def OutcomeAnswer.operation? : OutcomeAnswer → Option Answer
  | operation answer => some answer
  | resolved _ => none

theorem answer_withoutOutcomes (manager : WorkBlockManager) (op : Operation) :
    managerMachine.answer manager.withoutOutcomes op = managerMachine.answer manager op := by
  have blind := blind_perform op manager
  simp only [Machine.answer, managerMachine, blind]
  cases op.perform manager with
  | mk answer next => cases answer <;> rfl

/-- Wherever passes over the log lie between the operations, the operations answer as they do
without. -/
theorem passes_do_not_show (decisionId : DecisionKey → Uuid) (manager : WorkBlockManager)
    (steps : List OutcomeStep) :
    ((outcomeMachine decisionId).answers manager steps).filterMap OutcomeAnswer.operation? =
      managerMachine.answers manager (operationsOf steps) := by
  -- Both are the answers from any manager that differs in outcomes only.
  have alike : ∀ other : WorkBlockManager, manager.withoutOutcomes = other.withoutOutcomes →
      ((outcomeMachine decisionId).answers manager steps).filterMap OutcomeAnswer.operation? =
        managerMachine.answers other (operationsOf steps) := by
    induction steps generalizing manager with
    | nil => exact fun _ _ => rfl
    | cons step steps ih =>
      intro other same
      have later := withoutOutcomes_run decisionId manager [step]
      cases step with
      | operation op =>
        have answers := answer_withoutOutcomes manager op
        rw [same, answer_withoutOutcomes] at answers
        have rest := ih _ (managerMachine.next other op)
          (later.trans ((congrArg (managerMachine.next · op) same).trans
            (withoutOutcomes_next other op).symm))
        exact congrArg₂ List.cons answers.symm rest
      | resolveOutcomes now batchSize => exact ih _ other (later.trans same)
  exact alike manager rfl

end Velvt
