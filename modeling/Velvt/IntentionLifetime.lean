import Velvt.IntentionText
import Velvt.WorkBlockInversion

/-!
# Intention text lives a day

Beside the table stands the instant at which the user typed the text of each row; a recovery's text
was typed when its source's was.
-/

namespace Velvt

open StepMachine Option

/-- The manager, with the instant at which the text of each row was typed. -/
structure TypedManager where
  manager : WorkBlockManager
  typedAt : Uuid → Int

/-- An operation of the manager, or the sweep of the retention target. -/
inductive IntentionStep
  | operation (op : Operation)
  | expireIntentions (now : Int)

namespace TypedManager

variable (world : TypedManager)

def typed (freshId : Uuid) (instant : Int) : Uuid → Int :=
  if (world.manager.store.block freshId).isNone then
    Function.update world.typedAt freshId instant
  else
    world.typedAt

def typedAfter : Operation → Uuid → Int
  | .start _ freshId now | .startWithOrigin _ _ freshId now => world.typed freshId now
  | .acceptRecovery blockId _ freshId _ => world.typed freshId (world.typedAt blockId)
  | _ => world.typedAt

def opened (focus : Option (Int → Bool)) (demotionRow : Option (DemotionStateRecord .seconds))
    (rawEvents : List RawEventRow) : TypedManager where
  manager := .opened focus demotionRow rawEvents
  typedAt := fun _ => 0

end TypedManager

def typedMachine : Machine TypedManager IntentionStep Unit where
  step world step :=
    match step with
    | .operation op =>
      ((), { manager := managerMachine.next world.manager op, typedAt := world.typedAfter op })
    | .expireIntentions now =>
      ((), { world with manager := (expireIntentions now world.manager).2 })

def WorkBlock.offersRecovery (block : WorkBlock) (actionId : String) : Bool :=
  block.phase.isTerminal && block.resultRow.any fun result => result.nextAction.actionId == actionId

/-- A step that takes no older text along: a recovery is accepted only of a block without text,
or in the very second in which its text was typed. -/
def TypedManager.LeavesText (world : TypedManager) : IntentionStep → Prop
  | .operation (.acceptRecovery blockId actionId _ now) =>
    ∀ source ∈ world.manager.store.block blockId, source.offersRecovery actionId = true →
      world.manager.store.latestBlock.any (·.phase.isLive) = false →
        source.record.intention = none ∨ timestamp now ≤ timestamp (world.typedAt blockId)
  | _ => True

theorem next_operation (manager : WorkBlockManager) (op : Operation) :
    (managerMachine.next manager op).store = (op.perform manager).2.store := by
  simp only [Machine.next, managerMachine]
  split <;> simp_all

theorem map_store {Result Next : Type} (view : Result → Next) (program : ManagerM Result)
    (manager : WorkBlockManager) :
    ((view <$> program) manager).2.store = (program manager).2.store := by
  rw [ManagerM.map_apply]
  split <;> simp_all

variable {manager : WorkBlockManager}

theorem create_blocks {record : WorkBlockRecord .nanoseconds}
    {next : WorkBlock} (member : next ∈ (create record manager).2.store.blocks) :
    next ∈ manager.store.blocks ∨ next = WorkBlockStore.createdBlock record ∧
      manager.store.block record.blockId = none := by
  unfold create WorkBlockStore.create at member
  split at member
  · rename_i store created
    split at created
    · cases created
    · rename_i free
      cases created
      rcases List.mem_append.mp member with before | isNew
      · exact .inl before
      · refine .inr ⟨List.mem_singleton.mp isNew, ?_⟩
        cases found : manager.store.block record.blockId with
        | none => rfl
        | some taken =>
          have same := WorkBlockStore.blockId_of_block found
          have isTaken := List.mem_map_of_mem (f := WorkBlock.blockId)
            (WorkBlockStore.mem_of_block found)
          rw [same] at isTaken
          exact absurd isTaken free
  · exact .inl member

theorem created_then {record : WorkBlockRecord .nanoseconds}
    {Result : Type} {rest : Unit → ManagerM Result} (forgets : ∀ done, Forgets (rest done))
    {next : WorkBlock} (member : next ∈ ((create record >>= rest) manager).2.store.blocks) :
    (∃ block ∈ manager.store.blocks, block.ForgetsTo next) ∨
      (WorkBlockStore.createdBlock record).ForgetsTo next ∧
        manager.store.block record.blockId = none := by
  have stems : ∃ block ∈ (create record manager).2.store.blocks, block.ForgetsTo next := by
    rw [ManagerM.bind_apply] at member
    split at member
    · rename_i result between isBetween
      rw [isBetween]
      exact forgets result between next member
    · rename_i error between isBetween
      rw [isBetween]
      exact ⟨next, member, .refl next⟩
  obtain ⟨block, isBlock, forgot⟩ := stems
  rcases create_blocks isBlock with before | ⟨rfl, fresh⟩
  · exact .inl ⟨block, before, forgot⟩
  · exact .inr ⟨forgot, fresh⟩

theorem start_rows {request : StartWorkBlock} {origin : WorkBlockOrigin} {freshId : Uuid}
    {now : Int} {next : WorkBlock}
    (member : next ∈ (startWithOrigin request origin freshId now manager).2.store.blocks) :
    (∃ block ∈ manager.store.blocks, block.ForgetsTo next) ∨
      next.blockId = freshId ∧ manager.store.block freshId = none ∧
        (next.record.intention ≠ none → next.record.intentionExpiresAt ≤
          timestamp (now + Duration.hours intentionRetentionHours)) := by
  have stays : next ∈ manager.store.blocks → ∃ block ∈ manager.store.blocks, block.ForgetsTo next :=
    fun before => ⟨next, before, .refl next⟩
  unfold startWithOrigin at member
  rw [ManagerM.bind_apply, ManagerM.query_apply] at member
  dsimp only at member
  rw [ManagerM.ite_apply] at member
  split at member
  · exact .inl (stays member)
  · cases normalized : normalizeIntention request.intention with
    | error error =>
      rw [normalized] at member
      exact .inl (stays member)
    | ok intention =>
      rw [normalized] at member
      dsimp only at member
      rw [ManagerM.ite_apply] at member
      split at member
      · exact .inl (stays member)
      · rcases created_then (fun _ => (forgets_publishDeadline _).bind fun _ =>
          forgetsRules.snapshotFor _ _) member with before | ⟨forgot, fresh⟩
        · exact .inl before
        · refine .inr ⟨forgot.blockId, fresh, ?_⟩
          intro hasText
          rcases forgot.text with cleared | ⟨-, deadline⟩
          · exact absurd cleared hasText
          · exact deadline

def WorkBlock.recoveryRecord (source : WorkBlock) (freshId : Uuid) (now : Int) :
    WorkBlockRecord .nanoseconds where
  blockId := freshId
  phase := .active
  intention := source.record.intention
  purpose := source.record.purpose
  intensity := source.record.intensity
  plannedDurationSeconds := recoveryDurationSeconds
  startedAt := now
  pausedAt := none
  totalPausedSeconds := 0
  endedAt := none
  recoveredAfterRestart := false
  recoveryOf := some source.blockId
  origin := .manual
  intentionExpiresAt := now + Duration.hours intentionRetentionHours
  updatedAt := now

/-- A recovery adds one row, whose text comes from its source. -/
theorem recovery_rows {blockId freshId : Uuid} {actionId : String} {now : Int} {next : WorkBlock}
    (member : next ∈ (acceptRecovery blockId actionId freshId now manager).2.store.blocks) :
    (∃ block ∈ manager.store.blocks, block.ForgetsTo next) ∨
      next.blockId = freshId ∧ manager.store.block freshId = none ∧
        ∃ source, manager.store.block blockId = some source ∧
          source.offersRecovery actionId = true ∧
          manager.store.latestBlock.any (·.phase.isLive) = false ∧
          (next.record.intention ≠ none → source.record.intention ≠ none ∧
            next.record.intentionExpiresAt ≤
              timestamp (now + Duration.hours intentionRetentionHours)) := by
  have fails : (acceptRecovery blockId actionId freshId now manager).2 = manager →
      ∃ block ∈ manager.store.blocks, block.ForgetsTo next := by
    intro same
    rw [same] at member
    exact ⟨next, member, .refl next⟩
  by_cases unregistered : actionId ≠ driftActionId ∧ actionId ≠ softRestartActionId
  · exact .inl (fails (by simp [acceptRecovery, unregistered]))
  cases found : manager.store.block blockId with
  | none => exact .inl (fails (by simp [acceptRecovery, unregistered, getBlock, found]))
  | some source =>
    have sameId := WorkBlockStore.blockId_of_block found
    have reads := getBlock_spec found
    have result := result_of_block found
    rw [← sameId] at reads result
    cases row : source.resultRow with
    | none =>
      exact .inl (fails (by simp [acceptRecovery, unregistered, ← sameId, reads, result, row]))
    | some payload =>
      by_cases terminal : source.phase.isTerminal = true
      · by_cases offered : payload.nextAction.actionId = actionId
        · by_cases live : manager.store.latest.any (·.phase.isLive) = true
          · exact .inl (fails (by
              simp [acceptRecovery, unregistered, ← sameId, reads, result, row, terminal,
                offered, live]))
          · have created : acceptRecovery source.blockId actionId freshId now manager =
                (create (source.recoveryRecord freshId now) >>= fun _ => do
                  publishDeadline (some (plannedDeadline (source.recoveryRecord freshId now)))
                  snapshotFor (source.recoveryRecord freshId now) now) manager := by
              simp [acceptRecovery, unregistered, reads, result, row, terminal, offered, live]
              rfl
            rw [← sameId, created] at member
            rcases created_then (fun _ => (forgets_publishDeadline _).bind fun _ =>
              forgetsRules.snapshotFor _ _) member with before | ⟨forgot, fresh⟩
            · exact .inl before
            · have offers : source.offersRecovery actionId = true := by
                simp [WorkBlock.offersRecovery, terminal, row, offered]
              have idle : manager.store.latestBlock.any (·.phase.isLive) = false := by
                simpa [WorkBlockStore.latest, any_map, Function.comp_def] using live
              refine .inr ⟨forgot.blockId, fresh, source, rfl, offers, idle, ?_⟩
              intro hasText
              rcases forgot.text with cleared | ⟨same, deadline⟩
              · exact absurd cleared hasText
              · exact ⟨same ▸ hasText, deadline⟩
        · exact .inl (fails (by
            simp [acceptRecovery, unregistered, ← sameId, reads, result, row, terminal, offered]))
      · exact .inl (fails (by
          simp [acceptRecovery, unregistered, ← sameId, reads, result, row, terminal]))

section Runs

/-- Every text has a deadline within a day of the instant at which it was typed. -/
def TextWithinDay (world : TypedManager) : Prop :=
  ∀ block ∈ world.manager.store.blocks, block.record.intention ≠ none →
    block.record.intentionExpiresAt ≤
      timestamp (world.typedAt block.blockId + Duration.hours intentionRetentionHours)

variable {world : TypedManager}

theorem TypedManager.typed_of_mem {block : WorkBlock}
    (member : block ∈ world.manager.store.blocks) (freshId : Uuid) (instant : Int) :
    world.typed freshId instant block.blockId = world.typedAt block.blockId := by
  unfold TypedManager.typed
  split
  · rename_i fresh
    refine Function.update_of_ne ?_ _ _
    intro same
    rw [← same, WorkBlockStore.block_of_mem member] at fresh
    cases fresh
  · rfl

theorem TextWithinDay.of_forgets (within : TextWithinDay world) {block next : WorkBlock}
    (member : block ∈ world.manager.store.blocks) (forgot : block.ForgetsTo next)
    (hasText : next.record.intention ≠ none) :
    next.record.intentionExpiresAt ≤
      timestamp (world.typedAt next.blockId + Duration.hours intentionRetentionHours) := by
  rcases forgot.text with cleared | ⟨same, deadline⟩
  · exact absurd cleared hasText
  · rw [forgot.blockId]
    exact deadline.trans (within block member (same ▸ hasText))

variable {manager : WorkBlockManager}

theorem TextWithinDay.of_program (within : TextWithinDay world) {Result : Type}
    {program : ManagerM Result} (forgets : Forgets program)
    (store : manager.store = (program world.manager).2.store) :
    TextWithinDay { manager := manager, typedAt := world.typedAt } := by
  intro next member hasText
  rw [show next ∈ manager.store.blocks ↔ next ∈ (program world.manager).2.store.blocks by
    rw [store]] at member
  obtain ⟨block, isBlock, forgot⟩ := forgets world.manager next member
  exact within.of_forgets isBlock forgot hasText

theorem timestamp_day_mono {first second : Int} (le : timestamp first ≤ timestamp second) :
    timestamp (first + Duration.hours intentionRetentionHours) ≤
      timestamp (second + Duration.hours intentionRetentionHours) := by
  simp only [timestamp, Duration.hours, Duration.seconds, intentionRetentionHours] at le ⊢
  omega

theorem TextWithinDay.starts (within : TextWithinDay world) {request : StartWorkBlock}
    {origin : WorkBlockOrigin} {freshId : Uuid} {now : Int}
    (store : manager.store = (startWithOrigin request origin freshId now world.manager).2.store) :
    TextWithinDay { manager := manager, typedAt := world.typed freshId now } := by
  intro next member hasText
  have created : next ∈
      (startWithOrigin request origin freshId now world.manager).2.store.blocks := store ▸ member
  rcases start_rows created with ⟨block, isBlock, forgot⟩ | ⟨isFresh, fresh, deadline⟩
  · have old := within.of_forgets isBlock forgot hasText
    rw [forgot.blockId] at old ⊢
    dsimp only
    rwa [TypedManager.typed_of_mem isBlock]
  · rw [isFresh]
    simp only [TypedManager.typed, fresh, isNone_none, if_true, Function.update_self]
    exact deadline hasText

theorem TextWithinDay.recovers (within : TextWithinDay world) {blockId freshId : Uuid}
    {actionId : String} {now : Int} (store : manager.store =
      (acceptRecovery blockId actionId freshId now world.manager).2.store)
    (leaves : world.LeavesText (.operation (.acceptRecovery blockId actionId freshId now))) :
    TextWithinDay {
      manager := manager
      typedAt := world.typed freshId (world.typedAt blockId) } := by
  intro next member hasText
  have created : next ∈
      (acceptRecovery blockId actionId freshId now world.manager).2.store.blocks := store ▸ member
  rcases recovery_rows created with
    ⟨block, isBlock, forgot⟩ | ⟨isFresh, fresh, source, found, offers, idle, copied⟩
  · have old := within.of_forgets isBlock forgot hasText
    rw [forgot.blockId] at old ⊢
    dsimp only
    rwa [TypedManager.typed_of_mem isBlock]
  · obtain ⟨sourceText, deadline⟩ := copied hasText
    rw [isFresh]
    simp only [TypedManager.typed, fresh, isNone_none, if_true, Function.update_self]
    rcases leaves source found offers idle with cleared | sameSecond
    · exact absurd cleared sourceText
    · exact deadline.trans (timestamp_day_mono sameSecond)

theorem forgets_replaceRawEvents (rows : List RawEventRow) : Forgets (replaceRawEvents rows) := by
  refine forgets_of_blocks ?_
  exact fun _ => rfl

theorem forgets_attachFocusSource (focus : Option (Int → Bool)) :
    Forgets (attachFocusSource focus) :=
  fun _ => .refl _

/-- Each step keeps the text within its day. -/
theorem TextWithinDay.next (within : TextWithinDay world) {step : IntentionStep}
    (leaves : world.LeavesText step) : TextWithinDay (typedMachine.next world step) := by
  cases step with
  | expireIntentions now => exact within.of_program (forgets_expireIntentions now) rfl
  | operation op =>
    have store := next_operation world.manager op
    cases op with
    | start request freshId now => exact within.starts (store.trans (map_store _ _ _))
    | startWithOrigin request origin freshId now =>
      exact within.starts (store.trans (map_store _ _ _))
    | acceptRecovery blockId actionId freshId now =>
      exact within.recovers (store.trans (map_store _ _ _)) leaves
    | pause blockId now =>
      exact within.of_program (forgetsRules.map (forgetsRules.pause _ _) _) store
    | resume blockId now =>
      exact within.of_program (forgetsRules.map (forgetsRules.resume _ _) _) store
    | endBlock blockId now =>
      exact within.of_program (forgetsRules.map (forgetsRules.endBlock _ _) _) store
    | requestState now =>
      exact within.of_program (forgetsRules.map (forgetsRules.requestState _) _) store
    | lifecycle event now =>
      exact within.of_program (forgetsRules.map (forgetsRules.lifecycle _ _) _) store
    | observeSafeCategory category status confidence occurredAt receivedAt =>
      exact within.of_program (forgetsRules.map (forgetsRules.observeSafeCategory _ _ _ _) _) store
    | recoverAfterRestart now =>
      exact within.of_program (forgetsRules.map (forgetsRules.recoverAfterRestart _) _) store
    | recordInterventionCardSeen blockId now =>
      exact within.of_program
        (forgetsRules.map (forgetsRules.recordInterventionCardSeen _ _) _) store
    | reportInterventionOutcome blockId response now =>
      exact within.of_program
        (forgetsRules.map (forgetsRules.reportInterventionOutcome _ _ _) _) store
    | evaluateDemotion now =>
      exact within.of_program (forgetsRules.map (forgets_evaluateDemotion _) _) store
    | demotionStatePayload now =>
      exact within.of_program (forgetsRules.map (forgets_demotionStatePayload _) _) store
    | resetDemotion now =>
      exact within.of_program (forgetsRules.map (forgets_resetDemotion _) _) store
    | replaceRawEvents rows now =>
      exact within.of_program (forgetsRules.map (forgets_replaceRawEvents _) _) store
    | attachFocusSource focus now =>
      exact within.of_program (forgetsRules.map (forgets_attachFocusSource _) _) store

/-- As long as no recovery takes older text along, no row holds text that was typed a day or more
before a sweep, once the sweep is over. -/
theorem intention_text_lives_a_day (focus : Option (Int → Bool))
    (demotionRow : Option (DemotionStateRecord .seconds)) (rawEvents : List RawEventRow)
    (steps : List IntentionStep)
    (leaves : typedMachine.Meets TypedManager.LeavesText (.opened focus demotionRow rawEvents)
      steps) (now : Int) :
    let world := typedMachine.run (.opened focus demotionRow rawEvents) steps
    ∀ block ∈ (typedMachine.next world (.expireIntentions now)).manager.store.blocks,
      block.record.intention ≠ none →
        now < world.typedAt block.blockId + Duration.hours 24 := by
  intro world next member hasText
  have keeps : ∀ (world : TypedManager) step, TextWithinDay world → world.LeavesText step →
      TextWithinDay (typedMachine.next world step) := by
    intro world step within leaves
    exact within.next leaves
  have start : TextWithinDay (.opened focus demotionRow rawEvents) := by
    intro block isBlock
    cases isBlock
  have within : TextWithinDay world := typedMachine.invariant_run keeps start leaves
  obtain ⟨block, isBlock, rfl⟩ := List.mem_map.mp member
  simp only [BlockUpdate.expireIntention] at hasText ⊢
  split at hasText
  · exact absurd rfl hasText
  · rename_i notDue
    rw [if_neg notDue]
    have deadline := within block isBlock hasText
    have later : timestamp now < block.record.intentionExpiresAt := by
      rcases not_and_or.mp notDue with noText | notYet
      · exact absurd (not_isSome_iff_eq_none.mp noText) hasText
      · exact Int.not_le.mp notYet
    have seconds := later.trans_le deadline
    simp only [timestamp, Duration.hours, Duration.seconds, intentionRetentionHours,
      WorkBlock.blockId] at seconds ⊢
    omega

def startMemo : Operation :=
  .start ⟨some "Draft the memo", 1800, none, .medium⟩ 1 0

def memoRecord : WorkBlockRecord .nanoseconds where
  blockId := 1
  phase := .active
  intention := some "Draft the memo"
  purpose := none
  intensity := .medium
  plannedDurationSeconds := 1800
  startedAt := 0
  pausedAt := none
  totalPausedSeconds := 0
  endedAt := none
  recoveredAfterRestart := false
  recoveryOf := none
  origin := .manual
  intentionExpiresAt := 0 + Duration.hours intentionRetentionHours
  updatedAt := 0

def memoStarted : TypedManager where
  manager := ((create memoRecord >>= fun _ => do
    publishDeadline (some (plannedDeadline memoRecord))
    snapshotFor memoRecord 0) (.opened none none [])).2
  typedAt := Function.update (fun _ => 0) 1 0

theorem next_startMemo :
    typedMachine.next (.opened none none []) (.operation startMemo) = memoStarted := by
  have trimmed : trimText "Draft the memo" = "Draft the memo" := by decide +kernel
  have normalized : normalizeIntention (some "Draft the memo") = .ok (some "Draft the memo") := by
    have short : "Draft the memo".length ≤ 120 := by decide +kernel
    simp [normalizeIntention, trimmed, short]
  have created : managerMachine.next (TypedManager.opened none none []).manager startMemo =
      memoStarted.manager := by
    have performs : startMemo.perform =
        Answer.snapshot <$> start ⟨some "Draft the memo", 1800, none, .medium⟩ 1 0 := rfl
    rw [next_of_perform performs]
    simp [start, startWithOrigin, normalized, TypedManager.opened, WorkBlockManager.opened, WorkBlockStore.latest,
      WorkBlockStore.latestBlock, minDurationSeconds, maxDurationSeconds]
    rfl
  change TypedManager.mk _ _ = _
  rw [created]
  rfl

/-- A block that ends with its text, whose recovery is accepted once the sweep has cleared it. -/
def sweptThenRecovered : List IntentionStep :=
  [.operation startMemo,
    .operation (.endBlock 1 (Duration.seconds 120)),
    .expireIntentions (Duration.hours 24),
    .operation (.acceptRecovery 1 driftActionId 2 (Duration.hours 25))]

/-- The recovery copies no text, as the sweep has taken it. -/
theorem swept_text_lives_a_day :
    let world := typedMachine.run (.opened none none []) sweptThenRecovered
    ∀ block ∈
      (typedMachine.next world (.expireIntentions (Duration.hours 26))).manager.store.blocks,
      block.record.intention ≠ none →
        Duration.hours 26 < world.typedAt block.blockId + Duration.hours 24 := by
  refine intention_text_lives_a_day none none [] sweptThenRecovered ?_ (Duration.hours 26)
  refine ⟨trivial, trivial, trivial, ?_, trivial⟩
  intro source found _ _
  rw [next_startMemo] at found
  have cleared : ((typedMachine.next (typedMachine.next memoStarted
      (.operation (.endBlock 1 (Duration.seconds 120))))
        (.expireIntentions (Duration.hours 24))).manager.store.block 1).all
          (·.record.intention.isNone) = true := by
    decide +kernel
  rw [show _ = some source from found, all_some] at cleared
  exact .inl (isNone_iff_eq_none.mp cleared)

/-- A block that ends with its text, whose recovery is accepted an hour before the text is due. -/
def recoveredWithText : List IntentionStep :=
  [.operation startMemo,
    .operation (.endBlock 1 (Duration.seconds 120)),
    .operation (.acceptRecovery 1 driftActionId 2 (Duration.hours 23))]

/-- The recovery still holds the text that was typed 46 hours ago. -/
theorem recovered_text_outlives_a_day :
    let world := typedMachine.run (.opened none none []) recoveredWithText
    (typedMachine.next world (.expireIntentions (Duration.hours 46))).manager.store.blocks.map
        (fun block => (block.blockId, block.record.intention, world.typedAt block.blockId)) =
      [(1, none, 0), (2, some "Draft the memo", 0)] := by
  simp only [recoveredWithText, Machine.run_cons, Machine.run_nil, next_startMemo]
  decide +kernel

end Runs

end Velvt
