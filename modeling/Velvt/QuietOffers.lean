import Velvt.DriftAgreement
import Velvt.FocusEvidence
import Velvt.InProgressRefinement

/-!
# Offers during quiet hours

The router answers the operations of the work-block manager, and pushes what an observation leads
to.
-/

namespace Velvt

open StepMachine ManagerM BlockUpdate WorkBlockStore

/-- What the router holds for its work-block messages. -/
structure WorkBlockService where
  workBlocks : WorkBlockManager
  focus : FocusTables

/-- A request of the client or of a timer. -/
inductive ServiceRequest
  | workBlock (operation : Operation)
  | clearWorkBlockData (now : Int)
  | focusStateChanged (report : FocusReport)
  | respondQuietHoursOffer (accepted : Bool) (now : Int)
  /-- `push_pending_quiet_hours_offer`. -/
  | pendingQuietHoursOffer (now : Int)

def ServiceRequest.reading : ServiceRequest → Int
  | workBlock operation => operation.reading
  | clearWorkBlockData now | respondQuietHoursOffer _ now | pendingQuietHoursOffer now => now
  | focusStateChanged report => report.now

namespace WorkBlockService

variable (service : WorkBlockService)

/-- `observe_for_work_block`, on the snapshot it pushes. -/
def pushed (occurredAt : Int) (snapshot : WorkBlockSnapshot) : WorkBlockSnapshot :=
  if snapshot.activeIntervention.isSome && service.focus.inVelvtQuietHours occurredAt then
    { snapshot with
      activeIntervention := snapshot.activeIntervention.map fun active =>
        { active with salience := .quiet } }
  else
    snapshot

def clearData : WorkBlockService where
  workBlocks :=
    { service.workBlocks with
      store :=
        { service.workBlocks.store with
          blocks := []
          primaryKey := List.nodup_nil
          demotionRow := none }
      deadline := none }
  focus := service.focus.clearFocusEvidence

/-- One request, with the `WorkBlockState` message it leads to. -/
def handle : ServiceRequest → Option WorkBlockSnapshot × WorkBlockService
  | .workBlock operation =>
    let (answer, workBlocks) := managerMachine.step service.workBlocks operation
    let message :=
      match operation with
      | .observeSafeCategory _ _ _ occurredAt _ =>
        answer.reported.map (service.pushed occurredAt)
      | _ => answer.reported
    (message, { service with workBlocks := workBlocks })
  | .clearWorkBlockData _ => (some idleSnapshot, service.clearData)
  | .focusStateChanged report =>
    (none, { service with focus := service.focus.recordTransition report })
  | .respondQuietHoursOffer accepted now =>
    (none, { service with focus := service.focus.respondToOffer accepted now })
  | .pendingQuietHoursOffer now =>
    (none, { service with focus := (service.focus.pendingMorningOffer now).2 })

end WorkBlockService

def serviceMachine : Machine WorkBlockService ServiceRequest (Option WorkBlockSnapshot) where
  step service request := service.handle request

section Stored

/-- The block has an unanswered offer of normal salience. -/
def WorkBlock.LoudOffer (block : WorkBlock) : Prop :=
  ∃ row, block.interventionRow = some row ∧ row.outcome = .offered ∧ row.salience = .normal

/-- An offer that a snapshot shows is an unanswered one of the table. -/
def WorkBlockStore.Stores (store : WorkBlockStore) (active : ActiveIntervention) : Prop :=
  ∃ block ∈ store.blocks, ∃ row, block.interventionRow = some row ∧ row.outcome = .offered ∧
    row.salience = active.salience

variable {manager next : WorkBlockManager}

theorem activeIntervention_shows {blockId : Uuid} {now : Int} {shown : Option ActiveIntervention}
    (runs : activeIntervention blockId now manager = (.ok shown, next)) :
    next.store.blocks = manager.store.blocks ∧ ∀ active ∈ shown,
      ∃ offer, manager.store.intervention blockId = some offer ∧ offer.outcome = .offered ∧
        offer.salience = active.salience := by
  simp only [activeIntervention, bind_apply, query_apply] at runs
  cases offered : manager.store.intervention blockId with
  | none =>
    rw [offered] at runs
    cases runs
    exact ⟨rfl, fun active isShown => by cases isShown⟩
  | some offer =>
    rw [offered] at runs
    by_cases answered : offer.outcome.isTerminal = true
    · simp only [answered, if_true, pure_apply] at runs
      cases runs
      exact ⟨rfl, fun active isShown => by cases isShown⟩
    · obtain ⟨evaluation, evaluated, isEvaluation, same, -⟩ := evaluateDemotion_spec now manager
      simp only [answered, Bool.false_eq_true, if_false, bind_apply, isEvaluation] at runs
      by_cases demoted : evaluation.state = .demoted
      · simp only [demoted, if_true, pure_apply] at runs
        cases runs
        exact ⟨same.blocks, fun active isShown => by cases isShown⟩
      · simp only [demoted, if_false, pure_apply] at runs
        cases runs
        refine ⟨same.blocks, ?_⟩
        intro active isShown
        obtain rfl := Option.some.inj isShown
        refine ⟨offer, rfl, ?_, rfl⟩
        cases outcome : offer.outcome <;>
          simp_all [WorkBlockInterventionOutcome.isTerminal]

/-- Whatever snapshot the program answers with is shown right. -/
def Answers (Shows : WorkBlockManager → WorkBlockSnapshot → Prop)
    (program : ManagerM WorkBlockSnapshot) : Prop :=
  ∀ manager snapshot next, program manager = (.ok snapshot, next) → Shows next snapshot

section Rules

variable {Shows : WorkBlockManager → WorkBlockSnapshot → Prop}

theorem answers_bind {Result : Type} {first : ManagerM Result}
    {rest : Result → ManagerM WorkBlockSnapshot} (ends : ∀ result, Answers Shows (rest result)) :
    Answers Shows (first >>= rest) := by
  intro manager snapshot next runs
  rw [bind_apply] at runs
  rcases firstRun : first manager with ⟨answer, middle⟩
  rw [firstRun] at runs
  cases answer with
  | error error => cases runs
  | ok result => exact ends result middle snapshot next runs

theorem answers_ite {condition : Prop} [Decidable condition]
    {first second : ManagerM WorkBlockSnapshot} (yes : Answers Shows first)
    (no : Answers Shows second) : Answers Shows (if condition then first else second) := by
  split
  · exact yes
  · exact no

theorem answers_fail (error : WorkBlockError) : Answers Shows (fail error) := by
  intro manager snapshot next runs
  cases runs

end Rules

/-- The program answers with a snapshot whose offer is stored. -/
def ShowsStored (program : ManagerM WorkBlockSnapshot) : Prop :=
  Answers (fun next snapshot => ∀ active ∈ snapshot.activeIntervention, next.store.Stores active)
    program

/-- The program answers with a snapshot without an offer. -/
def ShowsNone (program : ManagerM WorkBlockSnapshot) : Prop :=
  Answers (fun _ snapshot => snapshot.activeIntervention = none) program

theorem showsStored_idle : ShowsStored (pure idleSnapshot) := by
  intro manager snapshot next runs
  cases runs
  intro active isShown
  cases isShown

theorem showsStored_snapshotWithResult (record : WorkBlockRecord .nanoseconds) (now : Int)
    (result : Option WorkBlockResult) : ShowsStored (snapshotWithResult record now result) := by
  refine answers_bind fun latest => answers_bind fun observations => ?_
  intro manager snapshot next runs
  rw [bind_apply] at runs
  rcases shows : activeIntervention record.blockId now manager with ⟨answer, middle⟩
  rw [shows] at runs
  cases answer with
  | error error => cases runs
  | ok shown =>
    cases runs
    obtain ⟨blocks, stored⟩ := activeIntervention_shows shows
    intro active isShown
    obtain ⟨offer, isOffer, offered, salience⟩ := stored active isShown
    obtain ⟨row, isRow, rfl⟩ := Option.map_eq_some_iff.mp isOffer
    obtain ⟨block, found, isRow⟩ := Option.bind_eq_some_iff.mp isRow
    refine ⟨block, ?_, row, isRow, offered, salience⟩
    rw [blocks]
    exact mem_of_block found

theorem showsStored_snapshotFor (record : WorkBlockRecord .nanoseconds) (now : Int) :
    ShowsStored (snapshotFor record now) :=
  answers_bind fun _ => showsStored_snapshotWithResult record now _

theorem showsStored_finish (record : WorkBlockRecord .nanoseconds) (phase : WorkBlockPhase)
    (endedAt : Int) : ShowsStored (finish record phase endedAt) := by
  refine answers_bind fun found => ?_
  cases found with
  | some result =>
    refine answers_bind fun _ => answers_bind fun block => ?_
    exact showsStored_snapshotWithResult block endedAt _
  | none =>
    refine answers_bind fun _ => answers_bind fun _ => answers_bind fun _ => ?_
    refine answers_bind fun _ => answers_bind fun _ => answers_bind fun _ => ?_
    refine answers_bind fun _ => answers_bind fun _ => answers_bind fun block => ?_
    exact showsStored_snapshotWithResult block endedAt _

theorem showsStored_pause (blockId : Uuid) (now : Int) : ShowsStored (pause blockId now) := by
  refine answers_bind fun record => answers_ite (showsStored_finish _ _ _) ?_
  refine answers_bind fun _ => answers_bind fun _ => answers_bind fun _ => ?_
  exact answers_bind fun block => showsStored_snapshotFor block _

theorem showsStored_resume (blockId : Uuid) (now : Int) : ShowsStored (resume blockId now) := by
  refine answers_bind fun record => ?_
  dsimp only
  split
  · exact answers_fail _
  · refine answers_bind fun _ => answers_bind fun active => ?_
    exact answers_bind fun _ => showsStored_snapshotFor active _

theorem showsStored_endBlock (blockId : Uuid) (now : Int) :
    ShowsStored (endBlock blockId now) := by
  refine answers_bind fun record => answers_ite (answers_bind ?_) ?_
  · intro found
    cases found with
    | some result => exact showsStored_snapshotWithResult record now _
    | none => exact answers_fail _
  · exact answers_ite (showsStored_finish _ _ _) (showsStored_finish _ _ _)

theorem showsStored_requestState (now : Int) : ShowsStored (requestState now) := by
  refine answers_bind fun _ => answers_bind fun latest => ?_
  cases latest with
  | none => exact showsStored_idle
  | some record =>
    exact answers_ite (showsStored_finish _ _ _) (showsStored_snapshotFor record now)

theorem showsStored_lifecycle (event : WorkBlockLifecycleEvent) (now : Int) :
    ShowsStored (lifecycle event now) := by
  cases event with
  | sleep =>
    refine answers_bind fun latest => ?_
    cases latest with
    | none => exact showsStored_requestState now
    | some record => exact answers_ite (showsStored_pause _ now) (showsStored_requestState now)
  | clockChanged =>
    refine answers_bind fun latest => ?_
    cases latest with
    | none => exact showsStored_requestState now
    | some record =>
      exact answers_ite (showsStored_finish _ _ _) (showsStored_requestState now)
  | wake | timeZoneChanged => exact showsStored_requestState now

theorem showsStored_recoverAfterRestart (now : Int) : ShowsStored (recoverAfterRestart now) := by
  refine answers_bind fun _ => answers_bind fun latest => ?_
  cases latest with
  | none => exact showsStored_idle
  | some record =>
    dsimp only
    split
    · refine answers_ite (showsStored_finish _ _ _) ?_
      refine answers_bind fun _ => answers_bind fun _ => ?_
      refine answers_bind fun recovered => answers_bind fun _ => ?_
      exact showsStored_snapshotFor recovered now
    · refine answers_bind fun _ => answers_bind fun _ => ?_
      exact answers_bind fun block => showsStored_snapshotFor block now
    · exact showsStored_snapshotFor record now

theorem showsStored_recordInterventionCardSeen (blockId : Uuid) (now : Int) :
    ShowsStored (recordInterventionCardSeen blockId now) := by
  refine answers_bind fun record => answers_bind fun found => ?_
  refine answers_ite ?_ (showsStored_snapshotFor record now)
  exact answers_bind fun _ => showsStored_snapshotFor record now

end Stored

section Unstored

variable {manager next : WorkBlockManager}

theorem snapshotFor_shows_none {record : WorkBlockRecord .nanoseconds} {now : Int}
    {snapshot : WorkBlockSnapshot}
    (answered : ∀ offer ∈ manager.store.intervention record.blockId, offer.outcome ≠ .offered)
    (runs : snapshotFor record now manager = (.ok snapshot, next)) :
    snapshot.activeIntervention = none := by
  obtain ⟨shown, later, runsToo, -, -, silent⟩ := snapshotFor_spec record now manager
  rw [runs] at runsToo
  cases runsToo
  by_contra isShown
  obtain ⟨-, offer, isOffer, offered⟩ := silent (Option.isSome_iff_ne_none.mpr isShown)
  exact answered offer isOffer offered

theorem showsNone_reportInterventionOutcome (blockId : Uuid) (response : InterventionResponse)
    (now : Int) : ShowsNone (reportInterventionOutcome blockId response now) := by
  intro manager snapshot next runs
  unfold reportInterventionOutcome at runs
  cases found : manager.store.block blockId with
  | none =>
    simp only [getBlock, bind_apply, query_apply, found, fail_apply] at runs
    cases runs
  | some block =>
    have sameId : block.record.loaded.blockId = blockId := blockId_of_block found
    simp only [bind_apply, getBlock_spec found, query_apply, sameId] at runs
    cases isOffer : manager.store.intervention blockId with
    | none =>
      rw [isOffer] at runs
      cases runs
    | some existing =>
      rw [isOffer] at runs
      by_cases terminal : existing.outcome.isTerminal = true
      · simp only [terminal, if_true] at runs
        refine snapshotFor_shows_none ?_ runs
        intro offer stored offered
        rw [sameId, isOffer] at stored
        obtain rfl := Option.some.inj stored
        rw [offered] at terminal
        cases terminal
      · simp only [terminal, Bool.false_eq_true, if_false, bind_apply,
          resolveIntervention_spec] at runs
        refine snapshotFor_shows_none ?_ runs
        intro offer stored
        have after := WorkBlockManager.block_updated
          (.resolveIntervention (outcomeFor response) now) found
        rw [sameId, intervention_of_block after] at stored
        obtain ⟨row, isRow, rfl⟩ := Option.map_eq_some_iff.mp stored
        obtain ⟨old, -, rfl⟩ := Option.map_eq_some_iff.mp isRow
        refine resolveRow_answered _ ?_ _ old
        cases response <;> exact WorkBlockInterventionOutcome.noConfusion

theorem showsNone_created (record : WorkBlockRecord .nanoseconds) (deadline : Option Int)
    (now : Int) : ShowsNone (do
      create record
      publishDeadline deadline
      snapshotFor record now) := by
  intro manager snapshot next runs
  rw [bind_apply] at runs
  unfold create at runs
  cases created : manager.store.create record with
  | error error =>
    rw [created] at runs
    cases runs
  | ok store =>
    rw [created] at runs
    simp only [bind_apply, publishDeadline_spec] at runs
    refine snapshotFor_shows_none ?_ runs
    have member : WorkBlockStore.createdBlock record ∈ store.blocks := by
      unfold WorkBlockStore.create at created
      split at created
      · cases created
      · cases created
        exact List.mem_append_right _ (List.mem_singleton_self _)
    have found : store.block record.blockId = some (WorkBlockStore.createdBlock record) :=
      block_of_mem member
    intro offer isOffer
    change store.intervention record.blockId = some offer at isOffer
    simp only [WorkBlockStore.intervention, found, Option.bind_some] at isOffer
    cases isOffer

theorem showsNone_startWithOrigin (request : StartWorkBlock) (origin : WorkBlockOrigin)
    (blockId : Uuid) (now : Int) : ShowsNone (startWithOrigin request origin blockId now) := by
  refine answers_bind fun current => answers_ite (answers_fail _) ?_
  cases normalizeIntention request.intention with
  | error error => exact answers_fail _
  | ok intention => exact answers_ite (answers_fail _) (showsNone_created _ _ _)

theorem showsNone_acceptRecovery (blockId : Uuid) (actionId : String) (freshId : Uuid)
    (now : Int) : ShowsNone (acceptRecovery blockId actionId freshId now) := by
  refine answers_ite (answers_fail _) (answers_bind fun source => answers_bind fun found => ?_)
  cases found with
  | none => exact answers_fail _
  | some result =>
    refine answers_ite (answers_fail _) (answers_ite (answers_fail _) ?_)
    exact answers_bind fun latest => answers_ite (answers_fail _) (showsNone_created _ _ _)

end Unstored

section Loud

variable {surroundings : Surroundings} {op : Operation} {block after : WorkBlock}

theorem WorkBlock.LoudOffer.of_map {change : WorkBlockIntervention .seconds → WorkBlockIntervention .seconds}
    (keeps : ∀ row, (change row).outcome = .offered →
      row.outcome = .offered ∧ (change row).salience = row.salience)
    (isRow : after.interventionRow = block.interventionRow.map change)
    (loud : after.LoudOffer) : block.LoudOffer := by
  obtain ⟨changed, isChanged, offered, normal⟩ := loud
  rw [isRow] at isChanged
  obtain ⟨row, found, rfl⟩ := Option.map_eq_some_iff.mp isChanged
  obtain ⟨wasOffered, sameSalience⟩ := keeps row offered
  exact ⟨row, found, wasOffered, sameSalience.symm.trans normal⟩

theorem WorkBlock.LoudOffer.of_same (isRow : after.interventionRow = block.interventionRow)
    (loud : after.LoudOffer) : block.LoudOffer := by
  obtain ⟨row, found, offered, normal⟩ := loud
  exact ⟨row, isRow ▸ found, offered, normal⟩

theorem WorkBlock.LoudOffer.of_resolveRow {outcome : WorkBlockInterventionOutcome} {stored : Int}
    (answers : outcome ≠ .offered) (isRow : after.interventionRow =
      block.interventionRow.map (BlockUpdate.resolveRow outcome stored))
    (loud : after.LoudOffer) : block.LoudOffer := by
  refine WorkBlock.LoudOffer.of_map ?_ isRow loud
  intro row offered
  exact absurd offered (resolveRow_answered outcome answers stored row)

theorem WorkBlock.LoudOffer.of_seeCard {stored : Int}
    (isRow : after.interventionRow = block.interventionRow.map (BlockUpdate.seeCard stored))
    (loud : after.LoudOffer) : block.LoudOffer := by
  refine WorkBlock.LoudOffer.of_map ?_ isRow loud
  intro row offered
  unfold BlockUpdate.seeCard at offered ⊢
  split at offered <;> simp_all

theorem loud_before (accounted : block.Accounted) (advance : Advance surroundings op block after)
    (noReport : op.isReport = false) (loud : after.LoudOffer) : block.LoudOffer := by
  cases advance with
  | unchanged => exact loud
  | cardSeen now => exact loud.of_seeCard rfl
  | replied response now =>
    refine loud.of_resolveRow ?_ rfl
    cases response <;> exact WorkBlockInterventionOutcome.noConfusion
  | paused running =>
    rw [pausing_apply _ _ running.active] at loud
    exact loud.of_same (by simp)
  | resumed now pausedAt isResume paused =>
    rw [setActive_apply _ _ paused] at loud
    exact loud.of_same rfl
  | recovered now isRestart running =>
    rw [recovering_apply _ _ running.live] at loud
    exact loud.of_same (by simp)
  | recoveredPaused now isRestart paused =>
    rw [markRecovered_apply _ (by simp_all [WorkBlockPhase.isLive])] at loud
    exact loud.of_same rfl
  | continued category status confidence occurredAt receivedAt isReport =>
    rw [isReport] at noReport
    cases noReport
  | judged category status confidence occurredAt receivedAt isReport =>
    rw [isReport] at noReport
    cases noReport
  | finished phase endedAt live =>
    rw [finishing_apply _ _ _ live (accounted.noResult live)] at loud
    refine loud.of_resolveRow ?_ (settling_interventionRow surroundings block endedAt)
    exact WorkBlockInterventionOutcome.noConfusion

end Loud

section Quiet

/-- The condition on one request of a run.  Inside the quiet hours, a report is about a dwell that
began inside them, and no offer of normal salience is unanswered when a message that shows the
stored one is asked for. -/
def QuietStep (service : WorkBlockService) (request : ServiceRequest) : Prop :=
  service.focus.inVelvtQuietHours request.reading = true →
    match request with
    | .workBlock (.observeSafeCategory _ _ _ occurredAt _) =>
      service.focus.inVelvtQuietHours occurredAt = true
    | .workBlock (.pause ..) | .workBlock (.resume ..) | .workBlock (.endBlock ..)
    | .workBlock (.requestState ..) | .workBlock (.lifecycle ..)
    | .workBlock (.recoverAfterRestart ..) | .workBlock (.recordInterventionCardSeen ..) =>
      ∀ block ∈ service.workBlocks.store.blocks, ¬ block.LoudOffer
    | _ => True

/-- The message that answers a request during quiet hours shows no offer that rings. -/
def Hushed (service : WorkBlockService) (request : ServiceRequest) : Prop :=
  service.focus.inVelvtQuietHours request.reading = true →
    ∀ snapshot ∈ serviceMachine.answer service request,
      ∀ active ∈ snapshot.activeIntervention, active.salience = .quiet

variable {service : WorkBlockService} {manager : WorkBlockManager}

theorem service_owned_next (owned : service.workBlocks.Owned) (request : ServiceRequest) :
    (serviceMachine.next service request).workBlocks.Owned := by
  cases request with
  | workBlock operation => exact owned.next operation
  | clearWorkBlockData now =>
    refine ⟨?_, ?_⟩
    · intro block member
      cases member
    · intro block member
      cases member
  | focusStateChanged report => exact owned
  | respondQuietHoursOffer accepted now => exact owned
  | pendingQuietHoursOffer now => exact owned

variable {operation : Operation}

variable {active : ActiveIntervention}

theorem stored_before (owned : manager.Owned) (noReport : operation.isReport = false)
    (stores : (managerMachine.next manager operation).store.Stores active)
    (normal : active.salience = .normal) :
    ∃ block ∈ manager.store.blocks, block.LoudOffer := by
  obtain ⟨after, member, row, isRow, offered, salience⟩ := stores
  rcases block_before operation owned.accounted member with
    ⟨block, blockMem, intention, -, advance⟩ | ⟨record, -, rfl⟩
  · have accounted : (block.withIntention intention).Accounted :=
      owned.accounted block blockMem
    have loud : (block.withIntention intention).LoudOffer :=
      loud_before accounted advance noReport ⟨row, isRow, offered, salience.trans normal⟩
    exact ⟨block, blockMem, loud⟩
  · cases isRow

variable {program : ManagerM WorkBlockSnapshot} {snapshot : WorkBlockSnapshot}

theorem runs_of_reported (performs : operation.perform = .snapshot <$> program)
    (reported : snapshot ∈ (managerMachine.answer manager operation).reported) :
    program manager = (.ok snapshot, managerMachine.next manager operation) := by
  rw [reported_of_perform performs] at reported
  rw [next_of_perform performs]
  rcases runs : program manager with ⟨answer, next⟩
  rw [runs] at reported
  cases answer with
  | error error => cases reported
  | ok result =>
    cases reported
    rfl

theorem hushed_of_stored
    (performs : operation.perform = .snapshot <$> program) (shows : ShowsStored program)
    (noReport : operation.isReport = false) (owned : manager.Owned)
    (quiet : ∀ block ∈ manager.store.blocks, ¬ block.LoudOffer)
    (reported : snapshot ∈ (managerMachine.answer manager operation).reported)
    (isShown : active ∈ snapshot.activeIntervention) :
    active.salience = .quiet := by
  have stores := shows manager snapshot _ (runs_of_reported performs reported) active isShown
  cases salience : active.salience with
  | quiet => rfl
  | normal =>
    obtain ⟨block, member, loud⟩ := stored_before owned noReport stores salience
    exact absurd loud (quiet block member)

theorem hushed_of_none
    (performs : operation.perform = .snapshot <$> program) (shows : ShowsNone program)
    (reported : snapshot ∈ (managerMachine.answer manager operation).reported)
    (isShown : active ∈ snapshot.activeIntervention) :
    active.salience = .quiet := by
  rw [shows manager snapshot _ (runs_of_reported performs reported)] at isShown
  cases isShown

theorem not_reported {Result : Type} {program : ManagerM Result}
    {view : Result → Answer} (performs : operation.perform = view <$> program)
    (silent : ∀ result, (view result).reported = none) (snapshot : WorkBlockSnapshot) :
    snapshot ∉ (managerMachine.answer manager operation).reported := by
  rw [reported_of_perform performs]
  simp [silent]

theorem pushed_quiet {occurredAt : Int} (inside : service.focus.inVelvtQuietHours occurredAt = true)
    (snapshot : WorkBlockSnapshot)
    (isShown : active ∈ (service.pushed occurredAt snapshot).activeIntervention) :
    active.salience = .quiet := by
  unfold WorkBlockService.pushed at isShown
  cases shown : snapshot.activeIntervention with
  | none =>
    simp only [shown, Option.isSome_none, Bool.false_and, Bool.false_eq_true, if_false] at isShown
    cases isShown
  | some offer =>
    simp only [shown, inside, Option.isSome_some, Bool.and_self, if_true, Option.map_some]
      at isShown
    cases isShown
    rfl

/-- In quiet hours, no answer to a request that meets the condition shows an offer that rings. -/
theorem hushed_of_quietStep (owned : service.workBlocks.Owned) {request : ServiceRequest}
    (condition : QuietStep service request) : Hushed service request := by
  intro inside snapshot reported active isShown
  have holds := condition inside
  cases request with
  | clearWorkBlockData now =>
    cases reported
    cases isShown
  | focusStateChanged report => cases reported
  | respondQuietHoursOffer accepted now => cases reported
  | pendingQuietHoursOffer now => cases reported
  | workBlock operation =>
    cases operation with
    | observeSafeCategory category status confidence occurredAt receivedAt =>
      obtain ⟨observed, -, rfl⟩ := Option.map_eq_some_iff.mp reported
      exact pushed_quiet holds observed isShown
    | start request freshId now =>
      exact hushed_of_none rfl (showsNone_startWithOrigin _ _ _ _) reported isShown
    | startWithOrigin request origin freshId now =>
      exact hushed_of_none rfl (showsNone_startWithOrigin _ _ _ _) reported isShown
    | acceptRecovery blockId actionId freshId now =>
      exact hushed_of_none rfl (showsNone_acceptRecovery _ _ _ _) reported isShown
    | reportInterventionOutcome blockId response now =>
      exact hushed_of_none rfl (showsNone_reportInterventionOutcome _ _ _) reported isShown
    | pause blockId now =>
      exact hushed_of_stored rfl (showsStored_pause _ _) rfl owned holds reported isShown
    | resume blockId now =>
      exact hushed_of_stored rfl (showsStored_resume _ _) rfl owned holds reported isShown
    | endBlock blockId now =>
      exact hushed_of_stored rfl (showsStored_endBlock _ _) rfl owned holds reported isShown
    | requestState now =>
      exact hushed_of_stored rfl (showsStored_requestState _) rfl owned holds reported isShown
    | lifecycle event now =>
      exact hushed_of_stored rfl (showsStored_lifecycle _ _) rfl owned holds reported isShown
    | recoverAfterRestart now =>
      exact hushed_of_stored rfl (showsStored_recoverAfterRestart _) rfl owned holds reported
        isShown
    | recordInterventionCardSeen blockId now =>
      exact hushed_of_stored rfl (showsStored_recordInterventionCardSeen _ _) rfl owned holds
        reported isShown
    | evaluateDemotion now =>
      have performs : (Operation.evaluateDemotion now).perform =
          .evaluated <$> evaluateDemotion now := rfl
      exact absurd reported (not_reported performs (fun _ => rfl) snapshot)
    | demotionStatePayload now =>
      have performs : (Operation.demotionStatePayload now).perform =
          .demotion <$> demotionStatePayload now := rfl
      exact absurd reported (not_reported performs (fun _ => rfl) snapshot)
    | resetDemotion now =>
      have performs : (Operation.resetDemotion now).perform =
          .demotion <$> resetDemotion now := rfl
      exact absurd reported (not_reported performs (fun _ => rfl) snapshot)
    | replaceRawEvents rows now | attachFocusSource focus now => cases reported

theorem activeIntervention_offered {blockId : Uuid} {now : Int}
    {offer : WorkBlockIntervention .nanoseconds}
    (isOffer : manager.store.intervention blockId = some offer) (offered : offer.outcome = .offered)
    (active : manager.store.demotionVerdict now = .active) :
    ∃ shown next, activeIntervention blockId now manager = (.ok (some shown), next) ∧
      shown.salience = offer.salience := by
  obtain ⟨evaluation, next, runs, -, verdict⟩ := evaluateDemotion_spec now manager
  have unanswered : ¬ offer.outcome.isTerminal = true := by simp [offered]; decide
  have notDemoted : ¬ evaluation.state = .demoted := by simp [verdict, active]
  simp only [activeIntervention, bind_apply, query_apply, isOffer, unanswered, if_false,
    runs, notDemoted, pure_apply, Bool.false_eq_true]
  exact ⟨_, _, rfl, rfl⟩

theorem snapshotFor_shows (record : WorkBlockRecord .nanoseconds) {now : Int}
    {next : WorkBlockManager} {shown : Option ActiveIntervention}
    (shows : activeIntervention record.blockId now manager = (.ok shown, next)) :
    ∃ snapshot, snapshotFor record now manager = (.ok snapshot, next) ∧
      snapshot.activeIntervention = shown := by
  simp only [snapshotFor, snapshotWithResult, bind_apply, query_apply, shows, pure_apply]
  exact ⟨_, rfl, rfl⟩

theorem requestState_rings {block : WorkBlock} {now : Int}
    (isLatest : service.workBlocks.store.latestBlock = some block) (loud : block.LoudOffer)
    (undue : ¬ block.Due now) (active : service.workBlocks.store.demotionVerdict now = .active)
    (inside : service.focus.inVelvtQuietHours now = true) :
    ¬ Hushed service (.workBlock (.requestState now)) := by
  obtain ⟨row, isRow, offered, normal⟩ := loud
  obtain ⟨intention, expiredLatest⟩ := latestBlock_expired isLatest now
  have found := block_of_latestBlock expiredLatest
  have isOffer : (service.workBlocks.expired now).store.intervention
      (block.withIntention intention).blockId = some row.loaded := by
    rw [intervention_of_block found]
    exact congrArg (Option.map WorkBlockIntervention.loaded) isRow
  have stillActive : (service.workBlocks.expired now).store.demotionVerdict now = .active := by
    rw [← active]
    exact congrFun (congrArg Surroundings.demotion (surroundings_expired now)) now
  obtain ⟨shown, next, shows, salience⟩ := activeIntervention_offered isOffer offered stillActive
  have notDue : ¬ ((block.withIntention intention).record.phase = .active ∧
      (block.withIntention intention).record.plannedDurationSeconds ≤
        (block.withIntention intention).record.elapsedAt (timestamp now)) := undue
  obtain ⟨snapshot, runs, isShown⟩ :=
    snapshotFor_shows (block.withIntention intention).record.loaded shows
  have answered : requestState now service.workBlocks = (.ok snapshot, next) := by
    simp [requestState, expireIntentions_spec, latest_eq expiredLatest, notDue, runs]
  have performs : (Operation.requestState now).perform =
      .snapshot <$> requestState now := rfl
  have reported : snapshot ∈ serviceMachine.answer service (.workBlock (.requestState now)) := by
    change snapshot ∈ (managerMachine.answer service.workBlocks (.requestState now)).reported
    rw [reported_of_perform performs, answered]
    rfl
  intro hushed
  have quiet := hushed inside snapshot reported shown isShown
  rw [salience] at quiet
  cases normal.symm.trans quiet

end Quiet

/-- Velvt's quiet hours lower the salience of an offer on the push of an observation, at the
instant its dwell began. -/
theorem offers_stay_quiet (focus : Option (Int → Bool))
    (demotionRow : Option (DemotionStateRecord .seconds)) (rawEvents : List RawEventRow)
    (tables : FocusTables) (requests : List ServiceRequest) :
    let opened : WorkBlockService :=
      { workBlocks := .opened focus demotionRow rawEvents, focus := tables }
    (serviceMachine.Meets QuietStep opened requests →
      ∀ earlier request later, requests = earlier ++ request :: later →
        Hushed (serviceMachine.run opened earlier) request) ∧
    (∀ block now, let reached := serviceMachine.run opened requests
      reached.workBlocks.store.latestBlock = some block → block.LoudOffer → ¬ block.Due now →
      reached.workBlocks.store.demotionVerdict now = .active →
      reached.focus.inVelvtQuietHours now = true →
      ¬ QuietStep reached (.workBlock (.requestState now)) ∧
        ¬ Hushed reached (.workBlock (.requestState now))) := by
  intro opened
  have owned : opened.workBlocks.Owned :=
    WorkBlockManager.owned_opened focus demotionRow rawEvents
  refine ⟨?_, ?_⟩
  · rintro meets earlier request later rfl
    rw [Machine.meets_append, Machine.meets_cons] at meets
    have keeps : ∀ (service : WorkBlockService) (request : ServiceRequest),
        service.workBlocks.Owned → (serviceMachine.next service request).workBlocks.Owned := by
      intro service request holds
      exact service_owned_next holds request
    have reached := serviceMachine.invariant_run_of_forall keeps earlier owned
    exact hushed_of_quietStep reached meets.2.1
  · intro block now reached isLatest loud undue active inside
    refine ⟨?_, requestState_rings isLatest loud undue active inside⟩
    intro condition
    exact condition inside block (List.mem_of_getLast? isLatest) loud

/-- Quiet hours from 22:00 to 07:00, accepted, on a client at UTC, and a block with two
departures just after midnight. -/
def acceptedNight : List ServiceRequest :=
  .respondQuietHoursOffer true 0 :: .focusStateChanged ⟨false, 0, 0, 0⟩ ::
    twoDepartures.map .workBlock

/-- The offer of the third departure is pushed quiet. -/
theorem offer_is_pushed_quiet :
    let opened : WorkBlockService :=
      { workBlocks := .opened none none [], focus := .empty }
    let reached := serviceMachine.run opened acceptedNight
    (serviceMachine.answer reached (.workBlock (reportAt "chat" 200))).any (fun snapshot =>
        snapshot.activeIntervention.any fun active => active.salience == .quiet) = true ∧
      Hushed reached (.workBlock (reportAt "chat" 200)) := by
  intro opened reached
  refine ⟨by decide +kernel, ?_⟩
  have meets : serviceMachine.Meets QuietStep opened
      (acceptedNight ++ [.workBlock (reportAt "chat" 200)]) :=
    ⟨fun _ => trivial, fun _ => trivial, fun _ => trivial, id, id, id, id, id, id, trivial⟩
  exact (offers_stay_quiet none none [] .empty _).1 meets acceptedNight _ [] rfl

/-- The same offer rings when the client asks for the state seconds later. -/
theorem pushed_offer_rings_on_request :
    ¬ ∀ (focus : Option (Int → Bool)) (demotionRow : Option (DemotionStateRecord .seconds))
      (rawEvents : List RawEventRow) (tables : FocusTables) (requests : List ServiceRequest)
      (request : ServiceRequest),
      Hushed (serviceMachine.run
        { workBlocks := .opened focus demotionRow rawEvents, focus := tables } requests)
        request := by
  intro hushed
  have rings := hushed none none [] .empty
    (acceptedNight ++ [.workBlock (reportAt "chat" 200)])
    (.workBlock (.requestState (Duration.seconds 210)))
  have shown : (serviceMachine.answer (serviceMachine.run
      { workBlocks := .opened none none [], focus := .empty }
      (acceptedNight ++ [.workBlock (reportAt "chat" 200)]))
      (.workBlock (.requestState (Duration.seconds 210)))).any (fun snapshot =>
        snapshot.activeIntervention.any fun active => active.salience == .normal) = true := by
    decide +kernel
  obtain ⟨snapshot, isMessage, offers⟩ := (Option.any_eq_true _ _).mp shown
  obtain ⟨active, isShown, normal⟩ := (Option.any_eq_true _ _).mp offers
  have quiet := rings (by decide +kernel) snapshot isMessage active isShown
  rw [quiet] at normal
  cases normal

end Velvt
