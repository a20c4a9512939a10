import Velvt.WorkBlockInversion
import Velvt.WorkBlockPrograms

/-!
# What the manager remembers beside the record

The manager keeps two things the record does not determine: the deadline it last published, and what
the demotion singleton remembers of earlier evaluations.
-/

namespace Velvt

open StepMachine

namespace ManagerM

variable {Result Next : Type}

/-- From states with one record, the two programs answer alike and leave states with
one record. -/
def Agree (left right : ManagerM Result) : Prop :=
  ∀ first second, SameRecord first second →
    (left first).1 = (right second).1 ∧ SameRecord (left first).2 (right second).2

/-- The program shows nothing but the record. -/
def ShowsRecord (program : ManagerM Result) : Prop := Agree program program

theorem agree_bind {left right : ManagerM Result} {leftRest rightRest : Result → ManagerM Next}
    (first : Agree left right) (rest : ∀ result, Agree (leftRest result) (rightRest result)) :
    Agree (left >>= leftRest) (right >>= rightRest) := by
  intro one other same
  obtain ⟨answers, sameAfter⟩ := first one other same
  simp only [bind_apply]
  rcases leftRun : left one with ⟨leftAnswer, leftNext⟩
  rcases rightRun : right other with ⟨rightAnswer, rightNext⟩
  simp only [leftRun, rightRun] at answers sameAfter
  subst answers
  cases leftAnswer with
  | error error => exact ⟨rfl, sameAfter⟩
  | ok result => exact rest result _ _ sameAfter

theorem shows_bind {program : ManagerM Result} {rest : Result → ManagerM Next}
    (first : ShowsRecord program) (each : ∀ result, ShowsRecord (rest result)) :
    ShowsRecord (program >>= rest) :=
  agree_bind first each

theorem shows_pure (result : Result) : ShowsRecord (pure result) :=
  fun _ _ same => ⟨rfl, same⟩

theorem shows_fail (error : WorkBlockError) : ShowsRecord (fail error : ManagerM Result) :=
  fun _ _ same => ⟨rfl, same⟩

theorem shows_ite {condition : Prop} [Decidable condition] {first second : ManagerM Result}
    (whenTrue : ShowsRecord first) (whenFalse : ShowsRecord second) :
    ShowsRecord (if condition then first else second) := by
  split
  · exact whenTrue
  · exact whenFalse

theorem shows_query {read : WorkBlockStore → Result}
    (reads : ∀ first second : WorkBlockStore, second.blocks = first.blocks →
      second.rawEventBuffer = first.rawEventBuffer → read first = read second) :
    ShowsRecord (query read) :=
  fun _ _ same => ⟨congrArg Except.ok (reads _ _ same.blocks same.rawEventBuffer), same⟩

theorem shows_updateBlock (blockId : Uuid) (update : BlockUpdate) :
    ShowsRecord (command (·.updateBlock blockId update)) :=
  fun _ _ same => ⟨rfl, same.updated blockId update⟩

theorem shows_updateBlocks (update : BlockUpdate) :
    ShowsRecord (command (·.updateBlocks update)) :=
  fun _ _ same =>
    ⟨rfl, by simp [same.blocks], same.rawEventBuffer, same.focus, same.manualResetAt⟩

theorem shows_evaluateDemotion {now : Int} {rest : DemotionEvaluation → ManagerM Next}
    (each : ∀ first second, first.state = second.state → Agree (rest first) (rest second)) :
    ShowsRecord (evaluateDemotion now >>= rest) := by
  intro one other same
  obtain ⟨evaluation, next, runs, sameNext, verdict⟩ := evaluateDemotion_spec now one
  obtain ⟨otherEvaluation, otherNext, otherRuns, otherSameNext, otherVerdict⟩ :=
    evaluateDemotion_spec now other
  have states : evaluation.state = otherEvaluation.state := by
    have demotion := congrFun (congrArg Surroundings.demotion same.surroundings) now
    exact verdict.trans (demotion.symm.trans otherVerdict.symm)
  simp only [bind_apply, runs, otherRuns]
  refine each _ _ states _ _ ⟨?_, ?_, ?_, ?_⟩
  · rw [otherSameNext.blocks, same.blocks, sameNext.blocks]
  · rw [otherSameNext.rawEventBuffer, same.rawEventBuffer, sameNext.rawEventBuffer]
  · rw [otherSameNext.focus, same.focus, sameNext.focus]
  · rw [otherSameNext.manualResetAt, same.manualResetAt, sameNext.manualResetAt]

theorem shows_verdict (now : Int) :
    ShowsRecord (DemotionEvaluation.state <$> evaluateDemotion now) := by
  have agrees : ShowsRecord (evaluateDemotion now >>= fun evaluation =>
      (pure evaluation.state : ManagerM InterventionDemotionState)) := by
    refine shows_evaluateDemotion fun first second states => ?_
    rw [states]
    exact shows_pure _
  exact agrees

theorem shows_latest : ShowsRecord (query (·.latest)) :=
  shows_query fun _ _ blocks _ => by
    simp only [WorkBlockStore.latest, WorkBlockStore.latestBlock, blocks]

theorem shows_block (blockId : Uuid) : ShowsRecord (query (·.block blockId)) :=
  shows_query fun _ _ blocks _ => by simp only [WorkBlockStore.block, blocks]

theorem shows_observations (blockId : Uuid) : ShowsRecord (query (·.observations blockId)) :=
  shows_query fun _ _ blocks _ => by
    simp only [WorkBlockStore.observations, WorkBlockStore.block, blocks]

theorem shows_latestObservation (blockId : Uuid) :
    ShowsRecord (query (·.latestObservation blockId)) :=
  shows_query fun _ _ blocks _ => by
    simp only [WorkBlockStore.latestObservation, WorkBlockStore.block, blocks]

theorem shows_result (blockId : Uuid) : ShowsRecord (query (·.result blockId)) :=
  shows_query fun _ _ blocks _ => by
    simp only [WorkBlockStore.result, WorkBlockStore.block, blocks]

theorem shows_intervention (blockId : Uuid) : ShowsRecord (query (·.intervention blockId)) :=
  shows_query fun _ _ blocks _ => by
    simp only [WorkBlockStore.intervention, WorkBlockStore.block, blocks]

theorem shows_reportedDwells (fromInstant untilInstant : Int) :
    ShowsRecord (query (·.reportedDwells fromInstant untilInstant)) :=
  shows_query fun _ _ _ rawEvents => by
    simp only [WorkBlockStore.reportedDwells, rawEvents]

theorem shows_focusActive (instant : Int) : ShowsRecord (focusActive instant) :=
  fun _ _ same => ⟨by simp only [focusActive, same.focus], same⟩

theorem shows_publishDeadline (deadline : Option Int) :
    ShowsRecord (publishDeadline deadline) :=
  fun _ _ same => ⟨rfl, same.blocks, same.rawEventBuffer, same.focus, same.manualResetAt⟩

theorem shows_getBlock (blockId : Uuid) : ShowsRecord (getBlock blockId) := by
  refine shows_bind (shows_block blockId) fun found => ?_
  cases found with
  | none => exact shows_fail _
  | some block => exact shows_pure _

theorem shows_updateWorkBlock (blockId : Uuid) (matching : WorkBlock → Bool)
    (update : BlockUpdate) : ShowsRecord (updateWorkBlock blockId matching update) := by
  refine shows_bind (shows_block blockId) fun found => ?_
  cases found with
  | none => exact shows_fail _
  | some block => exact shows_ite (shows_updateBlock blockId update) (shows_fail _)

theorem shows_create (record : WorkBlockRecord .nanoseconds) :
    ShowsRecord (create record) := by
  intro first second same
  by_cases taken : record.blockId ∈ first.store.blocks.map WorkBlock.blockId
  · have takenToo := taken
    rw [← same.blocks] at takenToo
    simp only [create, WorkBlockStore.create, dif_pos taken, dif_pos takenToo]
    exact ⟨trivial, same⟩
  · have freeToo := taken
    rw [← same.blocks] at freeToo
    simp only [create, WorkBlockStore.create, dif_neg taken, dif_neg freeToo]
    exact ⟨trivial, by simp only [same.blocks], same.rawEventBuffer, same.focus, same.manualResetAt⟩

theorem showsRules : ProgramRules fun _ program => ShowsRecord program where
  pure := shows_pure
  fail := shows_fail
  bind := shows_bind
  latest := shows_latest
  latestObservation := shows_latestObservation
  observations := shows_observations
  result := shows_result
  intervention := shows_intervention
  reportedDwells := shows_reportedDwells
  recentInterventions limit := shows_query fun _ _ blocks _ => by
    simp only [WorkBlockStore.interventionRows, blocks]
  focusActive := shows_focusActive
  getBlock := shows_getBlock
  publishDeadline := shows_publishDeadline
  expireIntentions _ := shows_updateBlocks _
  updateBlock blockId update _ := shows_updateBlock blockId update
  updateWorkBlock blockId phases update _ :=
    shows_updateWorkBlock blockId (fun block => phases block.phase) update
  verdict := shows_verdict

end ManagerM

namespace Operation

def isEvaluation : Operation → Bool
  | evaluateDemotion _ | demotionStatePayload _ => true
  | _ => false

/-- The answer is about the demotion. -/
def isDemotion : Operation → Bool
  | resetDemotion _ => true
  | op => op.isEvaluation

end Operation

namespace SameRecord

variable {first second : WorkBlockManager}

theorem symm (same : SameRecord first second) : SameRecord second first :=
  ⟨same.blocks.symm, same.rawEventBuffer.symm, same.focus.symm, same.manualResetAt.symm⟩

theorem step_of_shows {Result : Type} {program : ManagerM Result} {view : Result → Answer}
    {op : Operation} (same : SameRecord first second)
    (performs : op.perform = view <$> program) (shows : program.ShowsRecord) :
    (¬op.isDemotion → managerMachine.answer first op = managerMachine.answer second op) ∧
      SameRecord (managerMachine.next first op) (managerMachine.next second op) := by
  obtain ⟨answers, sameNext⟩ := shows first second same
  rw [next_of_perform performs, next_of_perform performs]
  refine ⟨fun _ => ?_, sameNext⟩
  simp only [Machine.answer, managerMachine, performs, ManagerM.map_apply]
  revert answers
  rcases program first with ⟨_ | _, _⟩ <;> rcases program second with ⟨_ | _, _⟩ <;>
    rintro ⟨⟩ <;> rfl

theorem next_of_evaluation (manager : WorkBlockManager) {op : Operation}
    (evaluates : op.isEvaluation = true) :
    SameRecord manager (managerMachine.next manager op) := by
  cases op with
  | evaluateDemotion now =>
    have performs : (Operation.evaluateDemotion now).perform =
        .evaluated <$> evaluateDemotion now := rfl
    obtain ⟨evaluation, next, runs, same, -⟩ := evaluateDemotion_spec now manager
    rw [next_of_perform performs, runs]
    exact same
  | demotionStatePayload now =>
    have performs : (Operation.demotionStatePayload now).perform =
        .demotion <$> demotionStatePayload now := rfl
    obtain ⟨payload, next, runs, same, -⟩ := demotionStatePayload_spec now manager
    rw [next_of_perform performs, runs]
    exact same
  | _ => cases evaluates

/-- Two managers with one record answer alike. -/
theorem step (same : SameRecord first second) (op : Operation) :
    (¬op.isDemotion → managerMachine.answer first op = managerMachine.answer second op) ∧
      SameRecord (managerMachine.next first op) (managerMachine.next second op) := by
  cases op with
  | start => exact same.step_of_shows rfl (ManagerM.showsRules.startWithOrigin ManagerM.shows_create _ _ _ _)
  | startWithOrigin => exact same.step_of_shows rfl (ManagerM.showsRules.startWithOrigin ManagerM.shows_create _ _ _ _)
  | pause => exact same.step_of_shows rfl (ManagerM.showsRules.pause _ _)
  | resume => exact same.step_of_shows rfl (ManagerM.showsRules.resume _ _)
  | endBlock => exact same.step_of_shows rfl (ManagerM.showsRules.endBlock _ _)
  | requestState => exact same.step_of_shows rfl (ManagerM.showsRules.requestState _)
  | lifecycle => exact same.step_of_shows rfl (ManagerM.showsRules.lifecycle _ _)
  | observeSafeCategory =>
    exact same.step_of_shows rfl (ManagerM.showsRules.observeSafeCategory _ _ _ _)
  | recoverAfterRestart =>
    exact same.step_of_shows rfl (ManagerM.showsRules.recoverAfterRestart _)
  | acceptRecovery => exact same.step_of_shows rfl (ManagerM.showsRules.acceptRecovery ManagerM.shows_create _ _ _ _)
  | recordInterventionCardSeen =>
    exact same.step_of_shows rfl (ManagerM.showsRules.recordInterventionCardSeen _ _)
  | reportInterventionOutcome =>
    exact same.step_of_shows rfl (ManagerM.showsRules.reportInterventionOutcome _ _ _)
  | evaluateDemotion now =>
    exact ⟨fun shows => absurd rfl shows, (next_of_evaluation first rfl).symm.trans
      (same.trans (next_of_evaluation second rfl))⟩
  | demotionStatePayload now =>
    exact ⟨fun shows => absurd rfl shows, (next_of_evaluation first rfl).symm.trans
      (same.trans (next_of_evaluation second rfl))⟩
  | resetDemotion now =>
    have performs : (Operation.resetDemotion now).perform =
        .demotion <$> resetDemotion now := rfl
    obtain ⟨_, firstNext, firstRuns, firstBlocks, firstRaw, firstFocus, firstReset⟩ :=
      resetDemotion_spec now first
    obtain ⟨_, secondNext, secondRuns, secondBlocks, secondRaw, secondFocus,
      secondReset⟩ := resetDemotion_spec now second
    rw [next_of_perform performs, next_of_perform performs, firstRuns, secondRuns]
    refine ⟨fun shows => absurd rfl shows, ?_⟩
    exact ⟨by rw [secondBlocks, same.blocks, firstBlocks],
      by rw [secondRaw, same.rawEventBuffer, firstRaw],
      by rw [secondFocus, same.focus, firstFocus], by rw [secondReset, firstReset]⟩
  | replaceRawEvents rows now =>
    exact ⟨fun _ => rfl, same.blocks, rfl, same.focus, same.manualResetAt⟩
  | attachFocusSource focus now =>
    exact ⟨fun _ => rfl, same.blocks, same.rawEventBuffer, rfl, same.manualResetAt⟩

theorem next (same : SameRecord first second) (op : Operation) :
    SameRecord (managerMachine.next first op) (managerMachine.next second op) :=
  (same.step op).2

theorem run (same : SameRecord first second) (ops : List Operation) :
    SameRecord (managerMachine.run first ops) (managerMachine.run second ops) := by
  induction ops generalizing first second with
  | nil => exact same
  | cons op ops ih => exact ih (same.next op)

end SameRecord

/-- An operation of the manager, or a new start of the service. -/
inductive RestartStep
  | operation (op : Operation)
  /-- The service comes up with a Focus source and recovers. -/
  | restarts (focus : Int → Bool) (now : Int)

/-- The same step for a manager that lives on. -/
def RestartStep.operations : RestartStep → List Operation
  | operation op => [op]
  | restarts focus now => [.attachFocusSource (some focus) now, .recoverAfterRestart now]

/-- A new manager has the store and the Focus source, and has published no deadline. -/
def restartMachine : Machine WorkBlockManager RestartStep Answer where
  step manager
    | .operation op => managerMachine.step manager op
    | .restarts focus now =>
      managerMachine.step ⟨manager.store, some focus, none⟩ (.recoverAfterRestart now)

/-- The answer of an operation that has one, and is not about the demotion. -/
def shownAnswer (manager : WorkBlockManager) : Operation → List Answer
  | .attachFocusSource _ _ => []
  | op => if op.isDemotion then [] else [managerMachine.answer manager op]

/-- The answer of a restart is that of its recovery. -/
def shownAt (manager : WorkBlockManager) : RestartStep → List Answer
  | .operation op => shownAnswer manager op
  | .restarts focus now => [restartMachine.answer manager (.restarts focus now)]

end Velvt
