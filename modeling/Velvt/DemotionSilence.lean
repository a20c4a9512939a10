import Velvt.InterventionDemotion
import Velvt.RecordAgreement

/-!
# Silence while demoted

While the policy is demoted the gate withholds, and no snapshot renders an offer: an operation acts
at one second, its effective instant, and leaves a demoted policy demoted there.
-/

namespace Velvt

open StepMachine

namespace WorkBlockManager

variable {manager : WorkBlockManager}

/-- An operation's instant, as the last persisted update admits it. -/
def effectiveInstant (manager : WorkBlockManager) (op : Operation) : Int :=
  match manager.store.latest with
  | none => op.instant
  | some record => effectiveNow record op.instant

theorem timestamp_effectiveInstant {block : WorkBlock}
    (latest : manager.store.latestBlock = some block) (op : Operation) :
    timestamp (manager.effectiveInstant op) =
      max (timestamp op.instant) block.record.updatedAt := by
  simp [effectiveInstant, WorkBlockStore.latest, latest]

variable {clock : Int}

variable {op : Operation}

/-- While the policy is demoted, a running block judges at the effective instant. -/
theorem OffersApart.clamped_eq (holds : manager.OffersApart clock) {block : WorkBlock}
    (member : block ∈ manager.store.blocks)
    (running : block.Running op.instant)
    (demoted : manager.store.demotionVerdict (manager.effectiveInstant op) = .demoted) :
    timestamp (block.clampedInstant op.instant) =
      timestamp (manager.effectiveInstant op) := by
  have latest := holds.owned.latest block member running.live
  have effective := timestamp_effectiveInstant latest op
  set second := max (timestamp op.instant) block.record.updatedAt with second_def
  have timeLeft := running.timeLeft
  rw [WorkBlockRecord.elapsedAt_active _ running.active, ← second_def] at timeLeft
  have clamped : timestamp (block.clampedInstant op.instant) =
      min second block.record.deadline := by
    simp [WorkBlock.clampedInstant, second_def]
  rw [clamped, effective]
  refine min_eq_left ?_
  by_contra beyond
  have full : block.record.startedAt + u32Max ≤ second := by
    simp only [WorkBlockRecord.spentBy, WorkBlockRecord.deadline, u32Max] at timeLeft beyond ⊢
    omega
  set start := manager.store.windowStart second with start_def
  have afterStart : block.record.startedAt < start := by
    have fromWindow : second - demotionWindowSeconds ≤ start := by
      simp only [start_def, WorkBlockStore.windowStart, demotionWindowStart]
      split
      · exact le_max_left _ _
      · exact le_rfl
    simp only [demotionWindowSeconds, u32Max] at fromWindow full
    omega
  have own : ∀ other ∈ manager.store.blocks, (other.interventionRow.any fun row =>
      decide (start ≤ row.offeredAt) && row.outcome.isDelivered) = true → other = block := by
    intro other otherMem counted
    by_contra different
    obtain ⟨row, isRow, inWindow⟩ := (Option.any_eq_true _ _).mp counted
    have before := holds.beforeLive block member running.live other otherMem different row isRow
    simp only [Bool.and_eq_true, decide_eq_true_eq] at inWindow
    omega
  have distinct : manager.store.blocks.Nodup := manager.store.primaryKey.of_map _
  have few : deliveredSince manager.store.interventionRows start ≤ 1 := by
    rw [WorkBlockStore.interventionRows, deliveredSince_blocks, List.countP_eq_length_filter]
    have single := distinct.filter fun other => other.interventionRow.any fun row =>
      decide (start ≤ row.offeredAt) && row.outcome.isDelivered
    generalize isCounted : manager.store.blocks.filter (fun other =>
      other.interventionRow.any fun row =>
        decide (start ≤ row.offeredAt) && row.outcome.isDelivered) = counted at single
    rcases counted with _ | ⟨first, _ | ⟨next, rest⟩⟩
    · simp
    · simp
    · have firstMem : first ∈ first :: next :: rest := by simp
      have nextMem : next ∈ first :: next :: rest := by simp
      rw [← isCounted, List.mem_filter] at firstMem nextMem
      have same := (own first firstMem.1 firstMem.2).trans (own next nextMem.1 nextMem.2).symm
      simp [same] at single
  rw [WorkBlockStore.demotionVerdict_eq, effective, ← start_def] at demoted
  have enough := enough_of_demoted demoted
  dsimp only at enough
  omega

theorem OffersApart.acts_eq (holds : manager.OffersApart clock) (later : clock ≤ op.reading)
    {instant : Int} (acts : ActsAt manager op instant)
    (demoted : manager.store.demotionVerdict (manager.effectiveInstant op) = .demoted) :
    timestamp instant = timestamp (manager.effectiveInstant op) := by
  have onTime (isReading : op.reading = op.instant) :
      timestamp (manager.effectiveInstant op) = timestamp op.instant := by
    cases latest : manager.store.latestBlock with
    | none => simp [effectiveInstant, WorkBlockStore.latest, latest]
    | some block =>
      have updated := (holds.offered block (List.mem_of_getLast? latest)).dated.updatedAt
      rw [timestamp_effectiveInstant latest, ← isReading]
      exact max_eq_left (updated.trans (timestamp_mono later))
  cases acts with
  | itself isReading => exact (onTime isReading).symm
  | afterUpdate isReading block member =>
    have updated := (holds.offered block member).dated.updatedAt
    rw [onTime isReading, timestamp_max, timestamp_fromTimestamp, ← isReading]
    exact max_eq_left (updated.trans (timestamp_mono later))
  | clamped block member running => exact holds.clamped_eq member running demoted

theorem OffersApart.offered_before (holds : manager.OffersApart clock)
    (demoted : manager.store.demotionVerdict (manager.effectiveInstant op) = .demoted)
    {block after : WorkBlock} {intention : Option String} (member : block ∈ manager.store.blocks)
    (advance : Advance manager.surroundings op (block.withIntention intention) after)
    {row : WorkBlockIntervention .seconds} (isRow : after.interventionRow = some row)
    (offered : row.outcome = .offered) :
    ∃ old, block.interventionRow = some old ∧ old.Later row := by
  have accounted : (block.withIntention intention).Accounted :=
    holds.owned.accounted block member
  rcases WorkBlock.row_before accounted advance isRow with kept | inserted
  · exact kept
  · obtain ⟨reading, judged, anchor, -, cleared, -, -, verdict⟩ := inserted.cleared
    have running : block.Running op.instant :=
      ⟨inserted.running.active, inserted.running.timeLeft⟩
    have active := (cleared.offered (verdict offered)).1
    have stillDemoted : manager.surroundings.demotion (block.clampedInstant op.instant) =
        .demoted :=
      (manager.store.demotionVerdict_congr (holds.clamped_eq member running demoted)).trans demoted
    cases stillDemoted.symm.trans active

/-- Nothing but a reset ends a demotion within its second. -/
theorem OffersApart.demoted_next (holds : manager.OffersApart clock)
    (noReset : op.resetAfter manager.store.manualResetAt =
      manager.store.manualResetAt)
    (demoted : manager.store.demotionVerdict (manager.effectiveInstant op) = .demoted)
    {instant : Int} (same : timestamp instant = timestamp (manager.effectiveInstant op)) :
    (managerMachine.next manager op).store.demotionVerdict instant = .demoted := by
  have stepped := managerMachine_stepped manager op holds.owned.accounted
  have sameStart : (managerMachine.next manager op).store.windowStart (timestamp instant) =
      manager.store.windowStart (timestamp (manager.effectiveInstant op)) := by
    rw [WorkBlockStore.windowStart, stepped.manualResetAt, noReset, same]
    rfl
  rw [WorkBlockStore.demotionVerdict_eq] at demoted ⊢
  rw [sameStart]
  set start := manager.store.windowStart (timestamp (manager.effectiveInstant op))
    with start_def
  cases stepped.evolution with
  | created record idle started added =>
    have rows : (managerMachine.next manager op).store.interventionRows =
        manager.store.interventionRows := by
      simp [WorkBlockStore.interventionRows, added, WorkBlockStore.createdBlock]
    rw [rows]
    exact demoted
  | advanced advances =>
    obtain ⟨update, blocks, each⟩ := advances
    have demotedAt : manager.store.demotionVerdict (manager.effectiveInstant op) =
        .demoted := by
      rw [WorkBlockStore.demotionVerdict_eq]
      exact demoted
    obtain ⟨delivered, wasFocused⟩ := counts_of_kept (fun block member row isRow => by
        obtain ⟨intention, advance⟩ := each block member
        have accounted : (block.withIntention intention).Accounted :=
          holds.owned.accounted block member
        exact WorkBlock.row_of_advance accounted advance isRow)
      (fun block member noRow row isRow => by
        obtain ⟨intention, advance⟩ := each block member
        have accounted : (block.withIntention intention).Accounted :=
          holds.owned.accounted block member
        rcases WorkBlock.row_before accounted advance isRow with
          ⟨old, wasRow, -⟩ | inserted
        · have wasRow : block.interventionRow = some old := wasRow
          rw [noRow] at wasRow
          cases wasRow
        · by_contra counted
          have offered := inserted.delivered (by simpa using counted)
          obtain ⟨old, wasRow, -⟩ :=
            holds.offered_before demotedAt member advance isRow offered
          rw [noRow] at wasRow
          cases wasRow)
      start
    have rows : (managerMachine.next manager op).store.interventionRows =
        (manager.store.blocks.map update.apply).filterMap WorkBlock.interventionRow := by
      rw [WorkBlockStore.interventionRows, blocks]
    rw [rows, delivered]
    exact demotionStateOf_mono wasFocused demoted

end WorkBlockManager

namespace Operation

def lastReset (before : Option Int) (ops : List Operation) : Option Int :=
  ops.foldl (fun reset op => op.resetAfter reset) before

end Operation

namespace SameRecord

variable {first second : WorkBlockManager}

theorem run_filter (same : SameRecord first second) (ops : List Operation) :
    SameRecord (managerMachine.run first ops)
      (managerMachine.run second (ops.filter fun op => !op.isEvaluation)) := by
  induction ops generalizing first second with
  | nil => exact same
  | cons op ops ih =>
    cases evaluates : op.isEvaluation with
    | true =>
      simp only [List.filter_cons, evaluates, Bool.not_true, Bool.false_eq_true,
        if_false, Machine.run_cons]
      exact ih ((next_of_evaluation first evaluates).symm.trans same)
    | false =>
      simp only [List.filter_cons, evaluates, Bool.not_false, if_true, Machine.run_cons]
      exact ih (same.next op)

end SameRecord

theorem WorkBlockManager.Owned.manualResetAt_run {manager : WorkBlockManager}
    (owned : manager.Owned) (ops : List Operation) :
    (managerMachine.run manager ops).store.manualResetAt =
      Operation.lastReset manager.store.manualResetAt ops := by
  induction ops generalizing manager with
  | nil => rfl
  | cons op ops ih =>
    have reset := (managerMachine_stepped manager op owned.accounted).manualResetAt
    rw [Machine.run_cons, ih (owned.next op), reset]
    rfl

/-- An evaluation of the demotion policy reports a state. -/
def EvaluatesTo (manager : WorkBlockManager) (now : Int)
    (state : InterventionDemotionState) : Prop :=
  ∃ evaluation next, evaluateDemotion now manager = (.ok evaluation, next) ∧
    evaluation.state = state

theorem evaluatesTo_iff {manager : WorkBlockManager} {now : Int}
    {state : InterventionDemotionState} :
    EvaluatesTo manager now state ↔ manager.store.demotionVerdict now = state := by
  obtain ⟨evaluation, next, runs, -, verdict⟩ := evaluateDemotion_spec now manager
  constructor
  · rintro ⟨other, otherNext, otherRuns, rfl⟩
    rw [runs] at otherRuns
    cases otherRuns
    exact verdict.symm
  · rintro rfl
    exact ⟨evaluation, next, runs, verdict⟩

/-- In every state that a run under a nondecreasing clock reaches: the policy reports
demoted exactly where, of the rows offered in the last fourteen days and since the last
manual reset, at least ten were delivered and more than fifteen percent of those
answered `was_focused`; runs that differ in their evaluations only reach the same
verdicts; rows that were never delivered do not count; and an operation whose effective
instant finds the policy demoted creates no unanswered row, and shows no offer. -/
theorem demotion_is_a_function_of_the_record (focus : Option (Int → Bool))
    (demotionRow : Option (DemotionStateRecord .seconds)) (rawEvents : List RawEventRow)
    (clock : Int) (ops : List Operation) (clocked : Clocked clock ops) :
    let start := WorkBlockManager.opened focus demotionRow rawEvents
    let reached := managerMachine.run start ops
    (∀ now, lastReading clock ops ≤ now →
      let counted := reached.store.interventionRows.filter fun row =>
        decide (timestamp now - 14 * 24 * 60 * 60 ≤ row.offeredAt) &&
          (Operation.lastReset start.store.manualResetAt ops).all fun reset =>
            decide (reset ≤ row.offeredAt)
      (EvaluatesTo reached now .demoted ↔
        10 ≤ counted.countP (fun row => row.outcome.isDelivered) ∧
          15 * counted.countP (fun row => row.outcome.isDelivered) <
            100 * counted.countP (fun row => row.outcome == .wasFocused))) ∧
    (∀ others : List Operation,
      others.filter (fun op => !op.isEvaluation) = ops.filter (fun op => !op.isEvaluation) →
      ∀ now state, EvaluatesTo (managerMachine.run start others) now state ↔
        EvaluatesTo reached now state) ∧
    (∀ since, wrongInterventionCounts
      (reached.store.interventionRows.filter fun row =>
        decide (row.outcome ≠ .deliverySuppressedDnd ∧ row.outcome ≠ .withheldDemotion))
      since = wrongInterventionCounts reached.store.interventionRows since) ∧
    (∀ op, lastReading clock ops ≤ op.reading → op.Punctual →
      EvaluatesTo reached (reached.effectiveInstant op) .demoted →
      (∀ after ∈ (managerMachine.next reached op).store.blocks, ∀ row,
        after.interventionRow = some row → row.outcome = .offered →
        ∃ block ∈ reached.store.blocks, block.blockId = after.blockId ∧
          ∃ old, block.interventionRow = some old ∧ old.outcome = .offered ∧
            row.offeredAt = old.offeredAt) ∧
      ∀ snapshot, (managerMachine.answer reached op).reported = some snapshot →
        snapshot.activeIntervention = none) := by
  intro start reached
  have opened := WorkBlockManager.owned_opened focus demotionRow rawEvents
  have apart := WorkBlockManager.offersApart_run focus demotionRow rawEvents clocked
  refine ⟨fun now later => ?_, fun others sameOthers now state => ?_, fun since => ?_,
    fun op later punctual demoted => ?_⟩
  · have reset : reached.store.manualResetAt =
        Operation.lastReset start.store.manualResetAt ops := opened.manualResetAt_run ops
    have counted : offeredSince reached.store.interventionRows
        (reached.store.windowStart (timestamp now)) =
        reached.store.interventionRows.filter fun row =>
          decide (timestamp now - 14 * 24 * 60 * 60 ≤ row.offeredAt) &&
            (Operation.lastReset start.store.manualResetAt ops).all fun reset =>
              decide (reset ≤ row.offeredAt) := by
      apply List.filter_congr
      intro row _
      simp only [WorkBlockStore.windowStart, demotionWindowStart, reset,
        demotionWindowSeconds]
      cases Operation.lastReset start.store.manualResetAt ops <;> simp
    rw [evaluatesTo_iff, ← counted]
    exact apart.verdict_iff later
  · have drops := (SameRecord.refl start).run_filter others
    have dropsToo := (SameRecord.refl start).run_filter ops
    rw [sameOthers] at drops
    have same := drops.trans dropsToo.symm
    have verdicts := congrFun (congrArg Surroundings.demotion same.surroundings) now
    rw [evaluatesTo_iff, evaluatesTo_iff]
    exact ⟨verdicts.trans, verdicts.symm.trans⟩
  · rw [← counts_of_delivered reached.store.interventionRows since]
    congr 1
    apply List.filter_congr
    intro row _
    cases outcome : row.outcome <;> simp [WorkBlockInterventionOutcome.isDelivered]
  · rw [evaluatesTo_iff] at demoted
    have stepped := managerMachine_stepped reached op apart.owned.accounted
    refine ⟨fun after member row isRow offered => ?_, fun snapshot reported => ?_⟩
    · rcases block_before op apart.owned.accounted member with
        ⟨block, blockMem, intention, sameId, advance⟩ | ⟨record, -, rfl⟩
      · obtain ⟨old, wasRow, kept⟩ :=
          apart.offered_before demoted blockMem advance isRow offered
        exact ⟨block, blockMem, sameId.symm, old, wasRow, kept.offered offered,
          kept.offeredAt⟩
      · cases isRow
    · by_contra shown
      obtain ⟨instant, acts, active⟩ :=
        (stepped.reports snapshot reported).silent (Option.isSome_iff_ne_none.mpr shown)
      have noReset : op.resetAfter reached.store.manualResetAt =
          reached.store.manualResetAt := by
        cases op with
        | resetDemotion now =>
          have performs : (Operation.resetDemotion now).perform =
              .demotion <$> resetDemotion now := rfl
          obtain ⟨payload, next, runs, -⟩ := resetDemotion_spec now reached
          rw [reported_of_perform performs, runs] at reported
          cases reported
        | _ => rfl
      have still := apart.demoted_next noReset demoted (apart.acts_eq later acts demoted)
      rw [still] at active
      cases active

def reportOn (day : Nat) (category : String) (second : Int) : Operation :=
  .observeSafeCategory category .classified .high (Duration.seconds (day * 86400 + second))
    (Duration.seconds (day * 86400 + second))

/-- A block whose report at its third departure is met with an offer. -/
def untilDeparture (day : Nat) : List Operation :=
  [.start ⟨none, 1800, none, .medium⟩ (day + 1) (Duration.seconds (day * 86400)),
    reportOn day "editor" 10, reportOn day "mail" 100, reportOn day "editor" 110,
    reportOn day "mail" 150, reportOn day "editor" 160]

/-- The first three offers are answered, the others are not. -/
def offerOn (day : Nat) : List Operation :=
  untilDeparture day ++ reportOn day "chat" 200 ::
    (if day < 3 then
      [.reportInterventionOutcome (day + 1) .wasFocused (Duration.seconds (day * 86400 + 210))]
    else []) ++
    [.endBlock (day + 1) (Duration.seconds (day * 86400 + 300))]

/-- After ten offers, three of them answered `was_focused`, the policy is demoted, and the third
departure of the eleventh day passes without an offer. -/
theorem eleventh_departure_is_silent :
    let reached := managerMachine.run (WorkBlockManager.opened none none [])
      ((List.range 10).flatMap offerOn ++ untilDeparture 10)
    let departure := reportOn 10 "chat" 200
    EvaluatesTo reached (reached.effectiveInstant departure) .demoted ∧
      ∀ snapshot, (managerMachine.answer reached departure).reported = some snapshot →
        snapshot.activeIntervention = none := by
  intro reached departure
  have clocked : Clocked 0 ((List.range 10).flatMap offerOn ++ untilDeparture 10) :=
    ⟨by unfold Machine.Nondecreasing; decide +kernel, by decide +kernel⟩
  have demoted : EvaluatesTo reached (reached.effectiveInstant departure) .demoted :=
    evaluatesTo_iff.mpr (by decide +kernel)
  have record := demotion_is_a_function_of_the_record none none [] 0 _ clocked
  exact ⟨demoted, (record.2.2.2 departure (by decide) (by decide) demoted).2⟩

end Velvt
