import Velvt.WorkBlockManager

/-!
# Properties of the programs of the manager

An operation of the manager is put together from reads of the store, a few statements, and choices
between them.
-/

namespace Velvt

open ManagerM

/-- The statements that run under a block's identifier. -/
inductive BlockUpdate.IsStatement : BlockUpdate → Prop
  | setPaused (instant : Int) : IsStatement (.setPaused instant)
  | setActive (instant : Int) (totalPausedSeconds : Nat) :
      IsStatement (.setActive instant totalPausedSeconds)
  | markRecovered (instant : Int) : IsStatement (.markRecovered instant)
  | finalize (completion : WorkBlockCompletion) : IsStatement (.finalize completion)
  | closeOpenObservation (instant : Int) : IsStatement (.closeOpenObservation instant)
  | appendObservation (observation : WorkBlockObservation .nanoseconds) :
      IsStatement (.appendObservation observation)
  | recordIntervention (intervention : WorkBlockIntervention .nanoseconds) :
      IsStatement (.recordIntervention intervention)
  | markInterventionCardSeen (instant : Int) : IsStatement (.markInterventionCardSeen instant)
  | resolveIntervention (outcome : WorkBlockInterventionOutcome) (instant : Int) :
      IsStatement (.resolveIntervention outcome instant)
  /-- A decision is logged before its outcome is known. -/
  | recordDecision (decision : InterventionDecision .nanoseconds)
      (unseen : decision.anchorSeenWithin600s = none) (pending : decision.outcomeAt = none) :
      IsStatement (.recordDecision decision)

/-- The parts of the operations have a property of programs, and putting them together keeps
it. -/
structure ProgramRules (Holds : (Result : Type) → ManagerM Result → Prop) : Prop where
  pure : ∀ {Result : Type} (result : Result), Holds Result (pure result)
  fail : ∀ {Result : Type} (error : WorkBlockError), Holds Result (ManagerM.fail error)
  bind : ∀ {Result Next : Type} {first : ManagerM Result} {rest : Result → ManagerM Next},
    Holds Result first → (∀ result, Holds Next (rest result)) → Holds Next (first >>= rest)
  latest : Holds _ (query (·.latest))
  latestObservation : ∀ blockId, Holds _ (query (·.latestObservation blockId))
  observations : ∀ blockId, Holds _ (query (·.observations blockId))
  result : ∀ blockId, Holds _ (query (·.result blockId))
  intervention : ∀ blockId, Holds _ (query (·.intervention blockId))
  reportedDwells : ∀ fromInstant untilInstant,
    Holds _ (query (·.reportedDwells fromInstant untilInstant))
  recentInterventions : ∀ limit,
    Holds _ (query fun store => recentInterventions store.interventionRows limit)
  focusActive : ∀ instant, Holds _ (focusActive instant)
  getBlock : ∀ blockId, Holds _ (getBlock blockId)
  publishDeadline : ∀ deadline, Holds _ (publishDeadline deadline)
  expireIntentions : ∀ now, Holds _ (expireIntentions now)
  updateBlock : ∀ (blockId : Uuid) {update : BlockUpdate}, update.IsStatement →
    Holds _ (command (·.updateBlock blockId update))
  updateWorkBlock : ∀ (blockId : Uuid) (phases : WorkBlockPhase → Bool) {update : BlockUpdate},
    update.IsStatement →
    Holds _ (updateWorkBlock blockId (fun block => phases block.phase) update)
  /-- The operations ask the demotion policy for its verdict only. -/
  verdict : ∀ now, Holds _ (DemotionEvaluation.state <$> evaluateDemotion now)

namespace ProgramRules

variable {Holds : (Result : Type) → ManagerM Result → Prop} (rules : ProgramRules Holds)
  {Result Next : Type}

theorem ite (_ : ProgramRules Holds) {condition : Prop} [Decidable condition] {first second : ManagerM Result}
    (yes : Holds _ first) (no : Holds _ second) :
    Holds _ (if condition then first else second) := by
  split
  · exact yes
  · exact no

include rules

theorem map {program : ManagerM Result} (holds : Holds _ program) (view : Result → Next) :
    Holds _ (view <$> program) :=
  rules.bind holds fun _ => rules.pure _

theorem bindVerdict (now : Int) {rest : DemotionEvaluation → ManagerM Next}
    (onVerdict : ∀ first second, first.state = second.state → rest first = rest second)
    (holds : ∀ evaluation, Holds _ (rest evaluation)) :
    Holds _ (evaluateDemotion now >>= rest) := by
  let after (state : InterventionDemotionState) : ManagerM Next :=
    rest { state := state, counts := ⟨0, 0⟩, demotedAt := none }
  have same : evaluateDemotion now >>= rest =
      DemotionEvaluation.state <$> evaluateDemotion now >>= after := by
    funext manager
    simp only [bind_apply, map_apply]
    cases evaluateDemotion now manager with
    | mk answer next =>
      cases answer with
      | ok evaluation =>
        have sameRest : rest evaluation = after evaluation.state := onVerdict _ _ rfl
        exact congrFun sameRest next
      | error error => rfl
  rw [same]
  exact rules.bind (rules.verdict now) fun _ => holds _

theorem activeIntervention (blockId : Uuid) (now : Int) :
    Holds _ (Velvt.activeIntervention blockId now) := by
  refine rules.bind (rules.intervention blockId) ?_
  intro found
  cases found with
  | none => exact rules.pure _
  | some intervention =>
    refine rules.ite (rules.pure _) ?_
    refine rules.bindVerdict now ?_ fun _ => rules.ite (rules.pure _) (rules.pure _)
    intro first second same
    simp only [same]

theorem snapshotWithResult (record : WorkBlockRecord .nanoseconds) (now : Int)
    (result : Option WorkBlockResult) : Holds _ (Velvt.snapshotWithResult record now result) := by
  refine rules.bind (rules.latestObservation _) fun _ => ?_
  refine rules.bind (rules.observations _) fun _ => ?_
  exact rules.bind (rules.activeIntervention _ now) fun _ => rules.pure _

theorem snapshotFor (record : WorkBlockRecord .nanoseconds) (now : Int) :
    Holds _ (Velvt.snapshotFor record now) :=
  rules.bind (rules.result _) fun _ => rules.snapshotWithResult record now _

theorem closeOpenObservationAtReportedEnd (blockId : Uuid) (boundary : Int) :
    Holds _ (Velvt.closeOpenObservationAtReportedEnd blockId boundary) := by
  refine rules.bind (rules.latestObservation blockId) ?_
  intro latest
  split
  · exact rules.pure _
  · refine rules.bind (rules.reportedDwells _ _) fun _ => ?_
    exact rules.updateBlock blockId (.closeOpenObservation _)

theorem finalize (blockId : Uuid) (completion : WorkBlockCompletion) :
    Holds _ (Velvt.finalize blockId completion) := by
  refine rules.bind (rules.result blockId) ?_
  intro found
  cases found with
  | some payload => exact rules.pure _
  | none =>
    refine rules.bind ?_ fun _ => rules.pure _
    exact rules.updateWorkBlock blockId (·.isLive) (.finalize completion)

theorem finish (record : WorkBlockRecord .nanoseconds) (phase : WorkBlockPhase)
    (endedAt : Int) : Holds _ (Velvt.finish record phase endedAt) := by
  refine rules.bind (rules.result _) ?_
  intro found
  cases found with
  | some result =>
    refine rules.bind (rules.publishDeadline _) fun _ => ?_
    exact rules.bind (rules.getBlock _) fun block => rules.snapshotWithResult block endedAt _
  | none =>
    refine rules.bind (rules.closeOpenObservationAtReportedEnd _ _) fun _ => ?_
    refine rules.bind (rules.updateBlock _ (.resolveIntervention _ _)) fun _ => ?_
    refine rules.bind (rules.observations _) fun _ => ?_
    refine rules.bind (rules.reportedDwells _ _) fun _ => ?_
    refine rules.bind (rules.intervention _) fun _ => ?_
    refine rules.bind (rules.focusActive _) fun _ => ?_
    refine rules.bind (rules.finalize _ _) fun _ => ?_
    refine rules.bind (rules.publishDeadline _) fun _ => ?_
    exact rules.bind (rules.getBlock _) fun block => rules.snapshotWithResult block endedAt _

theorem require (blockId : Uuid) (phase : WorkBlockPhase) :
    Holds _ (Velvt.require blockId phase) :=
  rules.bind (rules.getBlock blockId) fun _ => rules.ite (rules.fail _) (rules.pure _)

theorem recoverAfterRestart (now : Int) : Holds _ (Velvt.recoverAfterRestart now) := by
  refine rules.bind (rules.expireIntentions now) fun _ => rules.bind rules.latest ?_
  intro latest
  cases latest with
  | none => exact rules.pure _
  | some record =>
    have marks : Holds _ (markRecovered record.blockId now) :=
      rules.updateWorkBlock _ (·.isLive) (.markRecovered now)
    dsimp only
    split
    · refine rules.ite (rules.finish _ _ _) ?_
      refine rules.bind (rules.closeOpenObservationAtReportedEnd _ _) fun _ => ?_
      refine rules.bind marks fun _ => rules.bind (rules.getBlock _) fun recovered => ?_
      exact rules.bind (rules.publishDeadline _) fun _ => rules.snapshotFor recovered now
    · refine rules.bind marks fun _ => rules.bind (rules.publishDeadline _) fun _ => ?_
      exact rules.bind (rules.getBlock _) fun block => rules.snapshotFor block now
    · exact rules.snapshotFor record now

theorem pause (blockId : Uuid) (now : Int) : Holds _ (Velvt.pause blockId now) := by
  refine rules.bind (rules.require _ _) fun record => rules.ite (rules.finish _ _ _) ?_
  refine rules.bind (rules.closeOpenObservationAtReportedEnd _ _) fun _ => ?_
  refine rules.bind (rules.updateWorkBlock _ (· == .active) (.setPaused _)) fun _ => ?_
  refine rules.bind (rules.publishDeadline _) fun _ => ?_
  exact rules.bind (rules.getBlock _) fun block => rules.snapshotFor block _

theorem resume (blockId : Uuid) (now : Int) : Holds _ (Velvt.resume blockId now) := by
  refine rules.bind (rules.require _ _) fun record => ?_
  dsimp only
  split
  · exact rules.fail _
  · refine rules.bind (rules.updateWorkBlock _ (· == .paused) (.setActive _ _)) fun _ => ?_
    refine rules.bind (rules.getBlock _) fun active => ?_
    exact rules.bind (rules.publishDeadline _) fun _ => rules.snapshotFor active _

theorem endBlock (blockId : Uuid) (now : Int) : Holds _ (Velvt.endBlock blockId now) := by
  refine rules.bind (rules.getBlock blockId) fun record => rules.ite ?_ ?_
  · refine rules.bind (rules.result _) ?_
    intro found
    cases found with
    | some result => exact rules.snapshotWithResult record now _
    | none => exact rules.fail _
  · exact rules.ite (rules.finish _ _ _) (rules.finish _ _ _)

theorem requestState (now : Int) : Holds _ (Velvt.requestState now) := by
  refine rules.bind (rules.expireIntentions now) fun _ => rules.bind rules.latest ?_
  intro latest
  cases latest with
  | none => exact rules.pure _
  | some record => exact rules.ite (rules.finish _ _ _) (rules.snapshotFor record now)

theorem lifecycle (event : WorkBlockLifecycleEvent) (now : Int) :
    Holds _ (Velvt.lifecycle event now) := by
  cases event with
  | sleep =>
    refine rules.bind rules.latest ?_
    intro latest
    cases latest with
    | none => exact rules.requestState now
    | some record => exact rules.ite (rules.pause _ now) (rules.requestState now)
  | clockChanged =>
    refine rules.bind rules.latest ?_
    intro latest
    cases latest with
    | none => exact rules.requestState now
    | some record => exact rules.ite (rules.finish _ _ _) (rules.requestState now)
  | wake | timeZoneChanged => exact rules.requestState now

theorem recordReturnIfPending (record : WorkBlockRecord .nanoseconds)
    (observation : WorkBlockObservation .nanoseconds) (instant : Int) :
    Holds _ (Velvt.recordReturnIfPending record observation instant) := by
  refine rules.ite (rules.pure _) (rules.bind (rules.intervention _) ?_)
  intro found
  cases found with
  | none => exact rules.pure _
  | some pending =>
    refine rules.ite (rules.pure _) (rules.ite (rules.pure _) ?_)
    exact rules.updateBlock _ (.resolveIntervention _ _)

theorem logDecision (record : WorkBlockRecord .nanoseconds) (now : Int)
    (verdict : GateVerdict) (anchorCategory : Option String) (switchCount : Nat) :
    Holds _ (Velvt.logDecision record now verdict anchorCategory switchCount) :=
  rules.updateBlock _ (.recordDecision _ rfl rfl)

theorem evaluateDrift (record : WorkBlockRecord .nanoseconds) (now : Int) :
    Holds _ (Velvt.evaluateDrift record now) := by
  have abstains : ∀ verdict anchorCategory switchCount, Holds _ (do
      Velvt.logDecision record now verdict anchorCategory switchCount
      return (none : Option DriftIntervention)) :=
    fun _ _ _ => rules.bind (rules.logDecision _ _ _ _ _) fun _ => rules.pure _
  refine rules.ite (abstains _ _ _) (rules.ite (abstains _ _ _) ?_)
  refine rules.bind (rules.intervention _) fun _ => rules.ite (abstains _ _ _) ?_
  have backs : Holds _ (backoffState now) :=
    rules.bind (rules.recentInterventions _) fun _ => rules.pure _
  refine rules.bind backs fun backoff => rules.ite (abstains _ _ _) ?_
  refine rules.bind (rules.observations _) fun observations => ?_
  dsimp only
  split
  · exact abstains _ _ _
  · have inserts : ∀ (verdict : GateVerdict) (anchorCategory : Option String) (switchCount : Nat)
        (intervention : WorkBlockIntervention .nanoseconds) (answer : Option DriftIntervention),
        Holds _ (do
          Velvt.logDecision record now verdict anchorCategory switchCount
          command (·.updateBlock record.blockId (.recordIntervention intervention))
          return answer) := by
      intro verdict anchorCategory switchCount intervention answer
      refine rules.bind (rules.logDecision _ _ _ _ _) fun _ => ?_
      exact rules.bind (rules.updateBlock _ (.recordIntervention _)) fun _ => rules.pure _
    refine rules.ite (abstains _ _ _) (rules.ite (abstains _ _ _) ?_)
    refine rules.bindVerdict now ?_ fun _ => rules.ite (inserts _ _ _ _ _) ?_
    · intro first second same
      simp only [same]
    · refine rules.bind (rules.focusActive now) fun _ => ?_
      exact rules.ite (inserts _ _ _ _ _) (inserts _ _ _ _ _)

theorem observeSafeCategory (category : String) (status : ClassificationStatus)
    (confidence : ClassificationConfidence) (occurredAt : Int) :
    Holds _ (Velvt.observeSafeCategory category status confidence occurredAt) := by
  refine rules.bind rules.latest ?_
  intro latest
  cases latest with
  | none => exact rules.pure _
  | some record =>
    refine rules.ite (rules.pure _) (rules.ite ?_ ?_)
    · exact rules.bind (rules.finish _ _ _) fun _ => rules.pure _
    · refine rules.bind (rules.latestObservation _) fun row => rules.ite (rules.pure _) ?_
      refine rules.bind (rules.updateBlock _ (.closeOpenObservation _)) fun _ => ?_
      refine rules.bind (rules.updateBlock _ (.appendObservation _)) fun _ => rules.ite ?_ ?_
      · exact rules.bind (rules.snapshotFor _ _) fun _ => rules.pure _
      · refine rules.bind (rules.recordReturnIfPending _ _ _) fun _ => ?_
        refine rules.bind (rules.evaluateDrift _ _) fun _ => ?_
        exact rules.bind (rules.snapshotFor _ _) fun _ => rules.pure _

theorem recordInterventionCardSeen (blockId : Uuid) (now : Int) :
    Holds _ (Velvt.recordInterventionCardSeen blockId now) := by
  refine rules.bind (rules.getBlock blockId) fun record => ?_
  refine rules.bind (rules.intervention _) fun found => ?_
  refine rules.ite ?_ (rules.snapshotFor record now)
  refine rules.bind (rules.updateBlock _ (.markInterventionCardSeen now)) fun _ => ?_
  exact rules.snapshotFor record now

theorem reportInterventionOutcome (blockId : Uuid) (response : InterventionResponse)
    (now : Int) : Holds _ (Velvt.reportInterventionOutcome blockId response now) := by
  refine rules.bind (rules.getBlock blockId) fun record => rules.bind (rules.intervention _) ?_
  intro found
  cases found with
  | none => exact rules.fail _
  | some existing =>
    refine rules.ite (rules.snapshotFor record now) ?_
    refine rules.bind (rules.updateBlock _ (.resolveIntervention _ _)) fun _ => ?_
    exact rules.snapshotFor record now

theorem startWithOrigin (creates : ∀ record, Holds _ (create record)) (request : StartWorkBlock)
    (origin : WorkBlockOrigin) (blockId : Uuid) (now : Int) :
    Holds _ (Velvt.startWithOrigin request origin blockId now) := by
  refine rules.bind rules.latest fun current => rules.ite (rules.fail _) ?_
  cases normalizeIntention request.intention with
  | error error => exact rules.fail _
  | ok intention =>
    refine rules.ite (rules.fail _) (rules.bind (creates _) fun _ => ?_)
    exact rules.bind (rules.publishDeadline _) fun _ => rules.snapshotFor _ _

theorem acceptRecovery (creates : ∀ record, Holds _ (create record)) (blockId : Uuid)
    (actionId : String) (freshId : Uuid) (now : Int) :
    Holds _ (Velvt.acceptRecovery blockId actionId freshId now) := by
  refine rules.ite (rules.fail _) (rules.bind (rules.getBlock blockId) fun source => ?_)
  refine rules.bind (rules.result _) ?_
  intro found
  cases found with
  | none => exact rules.fail _
  | some result =>
    refine rules.ite (rules.fail _) (rules.ite (rules.fail _) ?_)
    refine rules.bind rules.latest fun latest => rules.ite (rules.fail _) ?_
    refine rules.bind (creates _) fun _ => ?_
    exact rules.bind (rules.publishDeadline _) fun _ => rules.snapshotFor _ _

end ProgramRules

end Velvt
