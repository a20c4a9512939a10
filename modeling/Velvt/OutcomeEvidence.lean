import Velvt.DecisionLog
import Velvt.OutcomeBlindness
import Velvt.WorkBlockLedger

/-!
# Outcomes and the evidence for them

A pass looks at every row that names the anchor, confident or not, and at the rows that are there
when it comes.
-/

namespace Velvt

open StepMachine List WorkBlockStore

/-- The row starts in the horizon of the decision, and names its anchor. -/
def InterventionDecision.Covers (decision : InterventionDecision .seconds)
    (row : WorkBlockObservation .seconds) : Prop :=
  decision.anchorCategory.any (eqIgnoreAsciiCase row.category) = true ∧
    decision.occurredAt < row.occurredAt ∧
    row.occurredAt ≤ decision.occurredAt + decisionOutcomeHorizonSeconds
  deriving Decidable

namespace WorkBlock

/-- A row that names the anchor starts in the horizon of the decision, confident or not. -/
def AnchorNamed (block : WorkBlock) (decision : InterventionDecision .seconds) : Prop :=
  ∃ row ∈ block.observationRows, decision.Covers row

/-- A confident observation of the anchor starts in the horizon of the decision. -/
def AnchorObserved (block : WorkBlock) (decision : InterventionDecision .seconds) : Prop :=
  ∃ row ∈ block.observationRows, isConfidentEvidence row = true ∧ decision.Covers row
  deriving Decidable

/-- The row leaves the outcomes of the block to its confident rows: where it is the first to name
the anchor of an open decision it is confident, it is no late evidence for a decision that was
found without, and it opens before no row that is not confident. -/
@[mk_iff]
structure AnswersFor (block : WorkBlock) (row : WorkBlockObservation .seconds) : Prop where
  pending : ∀ decision ∈ block.decisionRows, decision.Covers row →
    decision.anchorSeenWithin600s = none →
      isConfidentEvidence row = true ∨ block.AnchorObserved decision
  settled : ∀ decision ∈ block.decisionRows, decision.Covers row →
    decision.anchorSeenWithin600s = some false → isConfidentEvidence row = false
  ahead : ∀ other ∈ block.observationRows, row.occurredAt < other.occurredAt →
    other.occurredAt ≤ row.occurredAt + decisionOutcomeHorizonSeconds →
      isConfidentEvidence other = true

instance (block : WorkBlock) (row : WorkBlockObservation .seconds) :
    Decidable (block.AnswersFor row) :=
  decidable_of_iff' _ (answersFor_iff block row)

/-- The outcomes of the block say what its ledger says, and every open one will. -/
structure Truthful (block : WorkBlock) : Prop where
  owned : ∀ decision ∈ block.decisionRows, decision.blockId = some block.blockId
  pending : ∀ decision ∈ block.decisionRows, decision.anchorSeenWithin600s = none →
    block.AnchorNamed decision → block.AnchorObserved decision
  settled : ∀ decision ∈ block.decisionRows, ∀ seen,
    decision.anchorSeenWithin600s = some seen → (seen = true ↔ block.AnchorObserved decision)

variable {surroundings : Surroundings} {op : Operation} {block after : WorkBlock}

theorem AnchorObserved.named {decision : InterventionDecision .seconds}
    (observed : block.AnchorObserved decision) : block.AnchorNamed decision := by
  obtain ⟨row, member, -, covers⟩ := observed
  exact ⟨row, member, covers⟩

/-- The rows of the block, some of them closed, and then new ones. -/
structure Extends (block : WorkBlock) (news : List (WorkBlockObservation .seconds))
    (after : WorkBlock) : Prop where
  ledger : ∃ change : WorkBlockObservation .seconds → WorkBlockObservation .seconds,
    (∀ row, (change row).occurredAt = row.occurredAt ∧ (change row).category = row.category ∧
      isConfidentEvidence (change row) = isConfidentEvidence row) ∧
    after.observationRows = block.observationRows.map change ++ news

theorem extends_closed {stored : Int} {news : List (WorkBlockObservation .seconds)}
    (rows : after.observationRows =
      block.observationRows.map (BlockUpdate.closeRow stored) ++ news) :
    block.Extends news after := by
  refine ⟨BlockUpdate.closeRow stored, ?_, rows⟩
  intro row
  simp only [BlockUpdate.closeRow]
  split <;> exact ⟨rfl, rfl, rfl⟩

theorem extends_of_advance (accounted : block.Accounted)
    (advance : Advance surroundings op block after) :
    block.Extends [] after ∨ ∃ row, block.Opens op row ∧ block.Extends [row] after := by
  rcases ledger_of_advance accounted advance with same | ⟨stored, rows⟩ | ⟨stored, row, opens, rows⟩
  · refine .inl ⟨id, fun row => ⟨rfl, rfl, rfl⟩, ?_⟩
    rw [same, map_id, append_nil]
  · exact .inl (extends_closed (by rw [rows, append_nil]))
  · exact .inr ⟨row, opens, extends_closed rows⟩

section Extension

variable {news : List (WorkBlockObservation .seconds)} {decision : InterventionDecision .seconds}

theorem Extends.anchorNamed (grown : block.Extends news after) : after.AnchorNamed decision ↔
      block.AnchorNamed decision ∨ ∃ row ∈ news, decision.Covers row := by
  obtain ⟨change, kept, rows⟩ := grown.ledger
  have covers : ∀ row, decision.Covers (change row) ↔ decision.Covers row := by
    intro row
    obtain ⟨start, category, -⟩ := kept row
    simp only [InterventionDecision.Covers, start, category]
  simp only [AnchorNamed, rows, mem_append, or_and_right, exists_or, mem_map,
    exists_exists_and_eq_and, covers]

theorem Extends.anchorObserved (grown : block.Extends news after) : after.AnchorObserved decision ↔
      block.AnchorObserved decision ∨
        ∃ row ∈ news, isConfidentEvidence row = true ∧ decision.Covers row := by
  obtain ⟨change, kept, rows⟩ := grown.ledger
  have covers : ∀ row, (isConfidentEvidence (change row) = true ∧ decision.Covers (change row)) ↔
      isConfidentEvidence row = true ∧ decision.Covers row := by
    intro row
    obtain ⟨start, category, confident⟩ := kept row
    simp only [InterventionDecision.Covers, start, category, confident]
  simp only [AnchorObserved, rows, mem_append, or_and_right, exists_or, mem_map,
    exists_exists_and_eq_and, covers]

theorem Truthful.kept (truthful : block.Truthful) (member : decision ∈ block.decisionRows)
    (grown : block.Extends news after) (answers : ∀ row ∈ news, block.AnswersFor row) :
    (decision.anchorSeenWithin600s = none →
        after.AnchorNamed decision → after.AnchorObserved decision) ∧
      ∀ seen, decision.anchorSeenWithin600s = some seen →
        (seen = true ↔ after.AnchorObserved decision) := by
  rw [grown.anchorNamed, grown.anchorObserved]
  refine ⟨?_, ?_⟩
  · rintro isOpen (named | ⟨row, isNew, covers⟩)
    · exact .inl (truthful.pending decision member isOpen named)
    · rcases (answers row isNew).pending decision member covers isOpen with confident | observed
      · exact .inr ⟨row, isNew, confident, covers⟩
      · exact .inl observed
  · intro seen isSeen
    rw [truthful.settled decision member seen isSeen]
    refine ⟨.inl, ?_⟩
    rintro (observed | ⟨row, isNew, confident, covers⟩)
    · exact observed
    · cases seen with
      | true => exact (truthful.settled decision member true isSeen).mp rfl
      | false =>
        have notConfident := (answers row isNew).settled decision member covers isSeen
        rw [confident] at notConfident
        cases notConfident

end Extension

/-- A step leaves every outcome true to the rows it was drawn from. -/
theorem Truthful.of_advance (truthful : block.Truthful) (accounted : block.Accounted)
    (sameId : after.blockId = block.blockId)
    (answers : ∀ row, block.Opens op row → block.AnswersFor row)
    (advance : Advance surroundings op block after) : after.Truthful := by
  rcases log_of_advance accounted advance with ⟨sameLog, -⟩ | judges
  · obtain ⟨news, grown, answersNews⟩ : ∃ news, block.Extends news after ∧
        ∀ row ∈ news, block.AnswersFor row := by
      rcases extends_of_advance accounted advance with grown | ⟨row, opens, grown⟩
      · exact ⟨[], grown, by simp⟩
      · refine ⟨[row], grown, ?_⟩
        intro other isRow
        rw [mem_singleton.mp isRow]
        exact answers row opens
    refine ⟨?_, ?_, ?_⟩
    · rw [sameLog, sameId]
      exact truthful.owned
    · rw [sameLog]
      exact fun decision member => (truthful.kept member grown answersNews).1
    · rw [sameLog]
      exact fun decision member => (truthful.kept member grown answersNews).2
  · obtain ⟨category, status, confidence, occurredAt, receivedAt, observation, record, judged,
      isReport, running, rfl, opens, -, rfl, ledger, sameLedger, -, decisions, -⟩ := judges
    have answersRow := answers _ (.reported _ _ _ _ _ isReport running opens)
    have grown : block.Extends _ after := extends_closed (sameLedger.trans ledger)
    have answersNews : ∀ row ∈ [(reportedObservation block category status confidence
        occurredAt).stored], block.AnswersFor row := by
      intro row isRow
      rw [mem_singleton.mp isRow]
      exact answersRow
    refine ⟨?_, ?_, ?_⟩ <;> rw [decisions] <;> intro decision member <;>
      rcases mem_append.mp member with old | isNew
    · rw [sameId]
      exact truthful.owned decision old
    · rw [mem_singleton.mp isNew, sameId]
      rfl
    · exact (truthful.kept old grown answersNews).1
    · obtain rfl := mem_singleton.mp isNew
      rw [grown.anchorNamed, grown.anchorObserved]
      rintro - (⟨other, isOther, covers⟩ | ⟨row, isRow, covers⟩)
      · exact .inl ⟨other, isOther, answersRow.ahead other isOther covers.2.1 covers.2.2, covers⟩
      · -- the decision is made at the start of the row, which is before its horizon
        rw [mem_singleton.mp isRow] at covers
        exact absurd covers.2.1 (lt_irrefl _)
    · exact (truthful.kept old grown answersNews).2
    · rw [mem_singleton.mp isNew]
      intro seen isSeen
      cases isSeen

theorem Truthful.resolved (truthful : block.Truthful) {index : Nat}
    {row : InterventionDecision .seconds} (isRow : block.decisionRows[index]? = some row)
    {seen : Bool} (answer : seen = true ↔ block.AnchorNamed row) (instant : Int) :
    ((BlockUpdate.resolveDecision index seen instant).apply block).Truthful := by
  have isOld : ∀ decision ∈ ((BlockUpdate.resolveDecision index seen instant).apply
      block).decisionRows, decision ∈ block.decisionRows ∨ row.anchorSeenWithin600s = none ∧
        decision = { row with
          anchorSeenWithin600s := some seen, outcomeAt := some (timestamp instant) } := by
    intro decision member
    obtain ⟨place, isPlace⟩ := mem_iff_getElem?.mp member
    simp only [BlockUpdate.resolveDecision, List.getElem?_modify] at isPlace
    by_cases here : index = place
    · subst here
      simp only [isRow, if_true, Option.map_eq_map, Option.map_some, Option.some.injEq,
        BlockUpdate.resolveDecisionRow] at isPlace
      split at isPlace
      · rename_i isOpen
        exact .inr ⟨Option.isNone_iff_eq_none.mp isOpen, isPlace.symm⟩
      · exact .inl (isPlace ▸ mem_of_getElem? isRow)
    · simp only [here, if_false, Option.map_eq_map, Option.map_id_fun', id_eq] at isPlace
      exact .inl (mem_of_getElem? isPlace)
  have member := mem_of_getElem? isRow
  refine ⟨?_, ?_, ?_⟩ <;> intro decision isDecision <;>
    rcases isOld decision isDecision with old | ⟨isOpen, rfl⟩
  · exact truthful.owned decision old
  · exact truthful.owned row member
  · exact truthful.pending decision old
  · intro isOpen
    cases isOpen
  · exact truthful.settled decision old
  · intro other isSeen
    obtain rfl := Option.some.inj isSeen
    exact answer.trans ⟨truthful.pending row member isOpen, AnchorObserved.named⟩

end WorkBlock

section Passes

open InterventionDecisionOutcomeTarget

variable {store : WorkBlockStore}

theorem observedCategoryBetween_iff {blockId : Uuid} {block : WorkBlock}
    (found : store.block blockId = some block) {row : InterventionDecision .seconds}
    {anchor : String} (isAnchor : row.anchorCategory = some anchor) :
    store.observedCategoryBetween blockId anchor row.loaded.occurredAt
        (row.loaded.occurredAt + Duration.seconds decisionOutcomeHorizonSeconds) = true ↔
      block.AnchorNamed row := by
  have horizon : timestamp (fromTimestamp row.occurredAt +
      Duration.seconds decisionOutcomeHorizonSeconds) =
        row.occurredAt + decisionOutcomeHorizonSeconds := by
    rw [fromTimestamp_add_seconds, timestamp_fromTimestamp]
  simp only [WorkBlockStore.observedCategoryBetween, found, Option.any_some, any_eq_true,
    Bool.and_eq_true, decide_eq_true_eq, InterventionDecision.loaded, timestamp_fromTimestamp,
    horizon, WorkBlock.AnchorNamed, InterventionDecision.Covers, isAnchor, and_assoc]

theorem decisionRow_forgetOutcomes (key : DecisionKey) :
    (store.updateBlocks .forgetOutcomes).decisionRow key =
      (store.decisionRow key).map InterventionDecision.withoutOutcome := by
  simp only [WorkBlockStore.decisionRow, block_updateBlocks]
  cases store.block key.blockId with
  | none => rfl
  | some block => exact List.getElem?_map

/-- What a pass has read of a decision, but for its outcome, is in the log. -/
def WorkBlockStore.Logs (store : WorkBlockStore)
    (entry : DecisionKey × InterventionDecision .nanoseconds) : Prop :=
  ∃ row : InterventionDecision .seconds, entry.2 = row.loaded ∧
    (store.updateBlocks .forgetOutcomes).decisionRow entry.1 = some row.withoutOutcome

theorem logs_unresolved (decisionId : DecisionKey → Uuid) (horizonClosedBy : Int) (limit : Nat) :
    ∀ entry ∈ store.unresolvedDecisions decisionId horizonClosedBy limit, store.Logs entry := by
  intro entry member
  simp only [WorkBlockStore.unresolvedDecisions] at member
  obtain ⟨⟨key, row⟩, taken, rfl⟩ := mem_map.mp member
  have logged := (mem_filter.mp ((mem_insertionSort _).mp (mem_of_mem_take taken))).1
  obtain ⟨block, isBlock, placed⟩ := mem_flatMap.mp logged
  obtain ⟨⟨decision, index⟩, isPlace, same⟩ := mem_map.mp placed
  obtain ⟨rfl, rfl⟩ := Prod.mk.inj same
  refine ⟨decision, rfl, ?_⟩
  rw [decisionRow_forgetOutcomes, WorkBlockStore.decisionRow, block_of_mem isBlock]
  exact congrArg (Option.map _) (mem_zipIdx_iff_getElem?.mp isPlace)

theorem truthful_resolve {state : WorkBlockStore × Nat}
    (truthful : ∀ block ∈ state.1.blocks, block.Truthful)
    {entry : DecisionKey × InterventionDecision .nanoseconds} (logs : state.1.Logs entry) :
    ∀ block ∈ (resolve state entry).1.blocks, block.Truthful := by
  obtain ⟨row, read, isLogged⟩ := logs
  rw [decisionRow_forgetOutcomes] at isLogged
  obtain ⟨current, isCurrent, same⟩ := Option.map_eq_some_iff.mp isLogged
  obtain ⟨home, found, isRow⟩ := Option.bind_eq_some_iff.mp isCurrent
  have sameBlock : current.blockId = row.blockId := (congrArg InterventionDecision.blockId same :)
  have sameAnchor : current.anchorCategory = row.anchorCategory :=
    (congrArg InterventionDecision.anchorCategory same :)
  have sameStart : current.occurredAt = row.occurredAt :=
    (congrArg InterventionDecision.occurredAt same :)
  have truthfulHome := truthful home (mem_of_block found)
  have owned := truthfulHome.owned current (mem_of_getElem? isRow)
  rw [blockId_of_block found] at owned
  simp only [resolve, read]
  split
  · rename_i blockId anchor isBlockId isAnchor
    have isHome : entry.1.blockId = blockId :=
      Option.some.inj ((owned.symm.trans sameBlock).trans isBlockId)
    have answer := observedCategoryBetween_iff (isHome ▸ found) (sameAnchor.trans isAnchor)
    have sameRead : current.loaded.occurredAt = row.loaded.occurredAt :=
      congrArg fromTimestamp sameStart
    rw [sameRead] at answer
    intro block member
    obtain ⟨before, isBefore, rfl⟩ := mem_map.mp member
    by_cases here : before.blockId = entry.1.blockId
    · rw [eq_of_found found isBefore here]
      simp only [BlockUpdate.only, blockId_of_block found, if_true]
      exact truthfulHome.resolved isRow answer _
    · simp only [BlockUpdate.only, here, if_false]
      exact truthful before isBefore
  · exact truthful

theorem truthful_runCleanup (truthful : ∀ block ∈ store.blocks, block.Truthful)
    (decisionId : DecisionKey → Uuid) (now : Int) (batchSize : Nat) :
    ∀ block ∈ (runCleanup decisionId store now batchSize).1.blocks, block.Truthful := by
  have logs : ∀ entry ∈ store.unresolvedDecisions decisionId
      (now - Duration.seconds decisionOutcomeHorizonSeconds) batchSize, store.Logs entry :=
    logs_unresolved decisionId _ _
  have kept : ∀ (state : WorkBlockStore × Nat), ((∀ block ∈ state.1.blocks, block.Truthful) ∧
        state.1.updateBlocks .forgetOutcomes = store.updateBlocks .forgetOutcomes) →
      ∀ entry ∈ store.unresolvedDecisions decisionId
        (now - Duration.seconds decisionOutcomeHorizonSeconds) batchSize,
      (∀ block ∈ (resolve state entry).1.blocks, block.Truthful) ∧
        (resolve state entry).1.updateBlocks .forgetOutcomes =
          store.updateBlocks .forgetOutcomes := by
    rintro state ⟨truthful, same⟩ entry isEntry
    obtain ⟨row, read, isLogged⟩ := logs entry isEntry
    exact ⟨truthful_resolve truthful ⟨row, read, same ▸ isLogged⟩,
      (forgetOutcomes_resolve state entry).trans same⟩
  exact (List.foldlRecOn _ resolve (motive := fun state : WorkBlockStore × Nat =>
    (∀ block ∈ state.1.blocks, block.Truthful) ∧
      state.1.updateBlocks .forgetOutcomes = store.updateBlocks .forgetOutcomes)
    ⟨truthful, rfl⟩ kept).1

theorem decisionRow_runCleanup {key : DecisionKey} {decision : InterventionDecision .seconds}
    (isRow : store.decisionRow key = some decision)
    (isSet : decision.anchorSeenWithin600s.isSome = true) (decisionId : DecisionKey → Uuid)
    (now : Int) (batchSize : Nat) :
    (runCleanup decisionId store now batchSize).1.decisionRow key = some decision := by
  have isSettled : ∀ seen stored,
      BlockUpdate.resolveDecisionRow seen stored decision = decision := by
    intro seen stored
    rw [BlockUpdate.resolveDecisionRow, if_neg]
    rw [Option.isNone_iff_eq_none]
    exact Option.isSome_iff_ne_none.mp isSet
  have keeps : ∀ (state : WorkBlockStore × Nat)
      (entry : DecisionKey × InterventionDecision .nanoseconds),
      state.1.decisionRow key = some decision →
        (resolve state entry).1.decisionRow key = some decision := by
    intro state entry isRow
    simp only [resolve]
    split
    · obtain ⟨block, found, isPlace⟩ := Option.bind_eq_some_iff.mp isRow
      simp only [WorkBlockStore.resolveDecision, WorkBlockStore.decisionRow,
        WorkBlockStore.updateBlock, block_updateBlocks, found, Option.map_some,
        Option.bind_some, BlockUpdate.only]
      split
      · simp only [BlockUpdate.resolveDecision, List.getElem?_modify, isPlace,
          Option.map_eq_map, Option.map_some, isSettled, ite_self]
      · exact isPlace
    · exact isRow
  exact List.foldlRecOn _ resolve
    (motive := fun state : WorkBlockStore × Nat => state.1.decisionRow key = some decision) isRow
    fun state isRow entry _ => keeps state entry isRow

end Passes

/-- A report leaves the outcomes of the running block to its confident rows. -/
def ReportAnswers (manager : WorkBlockManager) : OutcomeStep → Prop
  | .operation (.observeSafeCategory category status confidence occurredAt _) =>
    ∀ block ∈ manager.store.blocks, block.Running occurredAt →
      block.OpensRow (reportedObservation block category status confidence occurredAt) →
      block.AnswersFor (reportedObservation block category status confidence occurredAt).stored
  | _ => True

instance (block : WorkBlock) (now : Int) : Decidable (block.Running now) :=
  decidable_of_iff' _ (block.running_iff now)

instance (block : WorkBlock) (observation : WorkBlockObservation .nanoseconds) :
    Decidable (block.OpensRow observation) :=
  inferInstanceAs (Decidable (∀ _ ∈ block.latestObservation, _ → _))

instance (manager : WorkBlockManager) (step : OutcomeStep) :
    Decidable (ReportAnswers manager step) := by
  unfold ReportAnswers
  split <;> infer_instance

section Runs

variable {manager : WorkBlockManager} {decisionId : DecisionKey → Uuid}

theorem ReportAnswers.opens {op : Operation} (answers : ReportAnswers manager (.operation op))
    {block : WorkBlock} (member : block ∈ manager.store.blocks) {intention : Option String}
    {row : WorkBlockObservation .seconds} (opens : (block.withIntention intention).Opens op row) :
    (block.withIntention intention).AnswersFor row := by
  obtain ⟨category, status, confidence, occurredAt, receivedAt, rfl, running, opens⟩ := opens
  have answersRow := answers block member ⟨running.active, running.timeLeft⟩ opens
  exact ⟨answersRow.pending, answersRow.settled, answersRow.ahead⟩

theorem accounted_of_withoutOutcomes (owned : manager.withoutOutcomes.Owned) :
    ∀ block ∈ manager.store.blocks, block.Accounted := by
  intro block member
  exact owned.accounted (BlockUpdate.forgetOutcomes.apply block) (mem_map_of_mem member)

/-- The blocks are accounted for, and their outcomes truthful. -/
structure KeepsOutcomes (manager : WorkBlockManager) : Prop where
  owned : manager.withoutOutcomes.Owned
  truthful : ∀ block ∈ manager.store.blocks, block.Truthful

theorem owned_next (owned : manager.withoutOutcomes.Owned) (step : OutcomeStep) :
    ((outcomeMachine decisionId).next manager step).withoutOutcomes.Owned := by
  have alone := withoutOutcomes_run decisionId manager [step]
  rw [Machine.run_cons, Machine.run_nil] at alone
  rw [alone]
  exact owned.run _

theorem KeepsOutcomes.next (keeps : KeepsOutcomes manager) {step : OutcomeStep}
    (answers : ReportAnswers manager step) :
    KeepsOutcomes ((outcomeMachine decisionId).next manager step) := by
  refine ⟨owned_next keeps.owned step, ?_⟩
  cases step with
  | operation op =>
    intro next member
    rcases block_before op (accounted_of_withoutOutcomes keeps.owned) member with
      ⟨block, isBlock, intention, sameId, advance⟩ | ⟨record, started, rfl⟩
    · have truthful := keeps.truthful block isBlock
      have accounted := accounted_of_withoutOutcomes keeps.owned block isBlock
      have truthful' : (block.withIntention intention).Truthful :=
        ⟨truthful.owned, truthful.pending, truthful.settled⟩
      exact truthful'.of_advance accounted sameId (fun _ => answers.opens isBlock) advance
    · refine ⟨?_, ?_, ?_⟩ <;> intro decision isDecision <;> cases isDecision
  | resolveOutcomes now batchSize =>
    exact truthful_runCleanup keeps.truthful decisionId now batchSize

variable {key : DecisionKey}

theorem decisionRow_next (owned : manager.withoutOutcomes.Owned) (step : OutcomeStep)
    {decision : InterventionDecision .seconds}
    (isRow : manager.store.decisionRow key = some decision)
    (isSet : decision.anchorSeenWithin600s.isSome = true) :
    ((outcomeMachine decisionId).next manager step).store.decisionRow key = some decision := by
  cases step with
  | operation op =>
    obtain ⟨block, found, isPlace⟩ := Option.bind_eq_some_iff.mp isRow
    have accounted := accounted_of_withoutOutcomes owned
    obtain ⟨next, intention, nextFound, advance⟩ := block_step op accounted found
    have blockAccounted : (block.withIntention intention).Accounted :=
      accounted block (mem_of_block found)
    have isPlaceNext : next.decisionRows[key.index]? = some decision := by
      rcases WorkBlock.log_of_advance blockAccounted advance with ⟨sameLog, -⟩ | judges
      · rw [sameLog]
        exact isPlace
      · obtain ⟨_, _, _, _, _, _, _, _, -, -, -, -, -, -, -, -, -, decisions, -⟩ := judges
        rw [decisions]
        exact (List.getElem?_append_left (List.getElem?_eq_some_iff.mp isPlace).1).trans isPlace
    exact Option.bind_eq_some_iff.mpr ⟨next, nextFound, isPlaceNext⟩
  | resolveOutcomes now batchSize => exact decisionRow_runCleanup isRow isSet decisionId now batchSize

theorem decisionRow_run (owned : manager.withoutOutcomes.Owned) (steps : List OutcomeStep)
    {decision : InterventionDecision .seconds}
    (isRow : manager.store.decisionRow key = some decision)
    (isSet : decision.anchorSeenWithin600s.isSome = true) :
    ((outcomeMachine decisionId).run manager steps).store.decisionRow key = some decision := by
  induction steps generalizing manager with
  | nil => exact isRow
  | cons step steps ih =>
    exact ih (owned_next owned step) (decisionRow_next owned step isRow isSet)

theorem keepsOutcomes_opened (focus : Option (Int → Bool))
    (demotionRow : Option (DemotionStateRecord .seconds)) (rawEvents : List RawEventRow) :
    KeepsOutcomes (.opened focus demotionRow rawEvents) :=
  ⟨WorkBlockManager.owned_opened focus demotionRow rawEvents, by simp [WorkBlockManager.opened]⟩

theorem anchorObserved_of_same {other : WorkBlockManager}
    (same : manager.withoutOutcomes = other.withoutOutcomes)
    {decision otherDecision : InterventionDecision .seconds}
    (isRow : manager.store.decisionRow key = some decision)
    (isOther : other.store.decisionRow key = some otherDecision) :
    ∃ block ∈ manager.store.blocks, ∃ otherBlock ∈ other.store.blocks,
      decision ∈ block.decisionRows ∧ otherDecision ∈ otherBlock.decisionRows ∧
      (block.AnchorObserved decision ↔ otherBlock.AnchorObserved otherDecision) := by
  obtain ⟨block, found, isPlace⟩ := Option.bind_eq_some_iff.mp isRow
  obtain ⟨otherBlock, otherFound, otherPlace⟩ := Option.bind_eq_some_iff.mp isOther
  have sameStore : manager.store.updateBlocks .forgetOutcomes =
      other.store.updateBlocks .forgetOutcomes := congrArg WorkBlockManager.store same
  have sameBlock : BlockUpdate.forgetOutcomes.apply block =
      BlockUpdate.forgetOutcomes.apply otherBlock := by
    have blocks := congrArg (·.block key.blockId) sameStore
    simp only [block_updateBlocks, found, otherFound, Option.map_some, Option.some.injEq] at blocks
    exact blocks
  have sameDecision : decision.withoutOutcome = otherDecision.withoutOutcome := by
    have rows := congrArg (·.decisionRow key) sameStore
    simp only [decisionRow_forgetOutcomes, isRow, isOther, Option.map_some,
      Option.some.injEq] at rows
    exact rows
  refine ⟨block, mem_of_block found, otherBlock, mem_of_block otherFound, mem_of_getElem? isPlace,
    mem_of_getElem? otherPlace, ?_⟩
  have sameRows : block.observationRows = otherBlock.observationRows :=
    (congrArg WorkBlock.observationRows sameBlock :)
  have sameAnchor : decision.anchorCategory = otherDecision.anchorCategory :=
    (congrArg InterventionDecision.anchorCategory sameDecision :)
  have sameStart : decision.occurredAt = otherDecision.occurredAt :=
    (congrArg InterventionDecision.occurredAt sameDecision :)
  simp only [WorkBlock.AnchorObserved, InterventionDecision.Covers, sameRows, sameAnchor, sameStart]

end Runs

/-- In a run whose reports leave the outcomes to the confident rows, every outcome says whether a
confident observation of the anchor starts in the horizon of its decision; once set it never
changes, whatever comes later; and another schedule of passes between the same operations, where
the reports do so too, sets no other outcome. -/
theorem outcomes_follow_confident_rows (focus : Option (Int → Bool))
    (demotionRow : Option (DemotionStateRecord .seconds)) (rawEvents : List RawEventRow)
    (decisionId : DecisionKey → Uuid) (steps : List OutcomeStep)
    (answer : (outcomeMachine decisionId).Meets ReportAnswers
      (.opened focus demotionRow rawEvents) steps) :
    let machine := outcomeMachine decisionId
    let start := WorkBlockManager.opened focus demotionRow rawEvents
    let reached := machine.run start steps
    (∀ block ∈ reached.store.blocks, ∀ decision ∈ block.decisionRows, ∀ seen,
      decision.anchorSeenWithin600s = some seen →
        (seen = true ↔ block.AnchorObserved decision)) ∧
    (∀ key decision, reached.store.decisionRow key = some decision →
      decision.anchorSeenWithin600s.isSome = true → ∀ later : List OutcomeStep,
        (machine.run reached later).store.decisionRow key = some decision) ∧
    ∀ others : List OutcomeStep, operationsOf others = operationsOf steps →
      machine.Meets ReportAnswers start others →
      ∀ key decision other seen otherSeen, reached.store.decisionRow key = some decision →
        (machine.run start others).store.decisionRow key = some other →
        decision.anchorSeenWithin600s = some seen →
        other.anchorSeenWithin600s = some otherSeen → seen = otherSeen := by
  intro machine start reached
  have opened := keepsOutcomes_opened focus demotionRow rawEvents
  have keeps : ∀ (state : WorkBlockManager) (step : OutcomeStep), KeepsOutcomes state →
      ReportAnswers state step → KeepsOutcomes (machine.next state step) :=
    fun _ _ keeps answers => keeps.next answers
  have reachedKeeps : KeepsOutcomes reached := machine.invariant_run keeps opened answer
  refine ⟨?_, ?_, ?_⟩
  · intro block member
    exact (reachedKeeps.truthful block member).settled
  · intro key decision isRow isSet later
    exact decisionRow_run reachedKeeps.owned later isRow isSet
  · intro others sameOps answers key decision other seen otherSeen isRow isOther isSeen
      isOtherSeen
    have otherKeeps := machine.invariant_run keeps opened answers
    have same : reached.withoutOutcomes = (machine.run start others).withoutOutcomes := by
      rw [withoutOutcomes_run, withoutOutcomes_run, sameOps]
    obtain ⟨block, isBlock, otherBlock, isOtherBlock, member, otherMember, agree⟩ :=
      anchorObserved_of_same same isRow isOther
    have first := (reachedKeeps.truthful block isBlock).settled decision member seen isSeen
    have second := (otherKeeps.truthful otherBlock isOtherBlock).settled other otherMember
      otherSeen isOtherSeen
    exact Bool.eq_iff_iff.mpr (first.trans (agree.trans second.symm))

/-- A block whose anchor is the editor, and a decision made when its user left for a chat. -/
def departure : List OutcomeStep :=
  [.operation (.start ⟨none, 1500, none, .medium⟩ 1 0),
    .operation (.observeSafeCategory "editor" .classified .high 0 0),
    .operation (.observeSafeCategory "chat" .classified .high (Duration.seconds 240)
      (Duration.seconds 240))]

/-- The return is reported in time, and a pass follows the horizon. -/
theorem outcome_of_prompt_return :
    let steps : List OutcomeStep := departure ++
      [.operation (.observeSafeCategory "editor" .classified .high (Duration.seconds 500)
        (Duration.seconds 500)),
        .resolveOutcomes (Duration.seconds 900) 10]
    let reached := (outcomeMachine fun _ => 0).run (.opened none none []) steps
    ∀ block ∈ reached.store.blocks, ∀ decision ∈ block.decisionRows, ∀ seen,
      decision.anchorSeenWithin600s = some seen →
        (seen = true ↔ block.AnchorObserved decision) :=
  (outcomes_follow_confident_rows none none [] (fun _ => 0) _ (by decide +kernel)).1

/-- A return that is reported after the pass is not counted, and counted by a pass that comes
later; a row that is not confident is counted as well. -/
theorem outcome_depends_on_the_pass :
    let machine := outcomeMachine fun _ => 0
    let start := WorkBlockManager.opened none none []
    let lateReport : OutcomeStep := .operation (.observeSafeCategory "editor" .classified .high
      (Duration.seconds 500) (Duration.seconds 1000))
    let unsureReport : OutcomeStep := .operation (.observeSafeCategory "editor" .ambiguous .low
      (Duration.seconds 300) (Duration.seconds 300))
    let early := departure ++ [.resolveOutcomes (Duration.seconds 900) 10, lateReport]
    let late := departure ++ [lateReport, .resolveOutcomes (Duration.seconds 1100) 10]
    let unsure := departure ++ [unsureReport, .resolveOutcomes (Duration.seconds 1100) 10]
    operationsOf early = operationsOf late ∧
      ((machine.run start early).store.decisionRow ⟨1, 1⟩).bind (·.anchorSeenWithin600s) =
        some false ∧
      ((machine.run start late).store.decisionRow ⟨1, 1⟩).bind (·.anchorSeenWithin600s) =
        some true ∧
      (∃ block ∈ (machine.run start early).store.blocks, ∃ decision ∈ block.decisionRows,
        decision.anchorSeenWithin600s = some false ∧ block.AnchorObserved decision) ∧
      ∃ block ∈ (machine.run start unsure).store.blocks, ∃ decision ∈ block.decisionRows,
        decision.anchorSeenWithin600s = some true ∧ ¬ block.AnchorObserved decision := by
  refine ⟨rfl, ?_, ?_, ?_, ?_⟩ <;> decide +kernel

end Velvt
