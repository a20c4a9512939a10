import Velvt.DwellTiling

/-!
# The order in which the sink is called

A thread makes its calls after it has released the lock.
-/

namespace Velvt.Collection

open StepMachine AXCollectionAgent List

section Order

def CollectionThread.other : CollectionThread → CollectionThread
  | .main => .callbackQueue
  | .callbackQueue => .main

def LockSection.mayReport : LockSection → Bool
  | .observe _ | .registrationFailed _ | .accessibilityObserverFailed _ => false
  | _ => true

/-- A step by which no thread overtakes the other: a section that can report something runs once
the other thread has made its calls. -/
def WaitsForDelivery (world : CollectionWorld) : CollectionStep → Prop
  | .locked thread lockSection =>
    lockSection.mayReport = true → world.delivering thread.other = []
  | .deliver _ => True

instance (world : CollectionWorld) (step : CollectionStep) :
    Decidable (WaitsForDelivery world step) := by
  unfold WaitsForDelivery
  split <;> infer_instance

/-- What the sink has had and what one thread has still to deliver is what was decided. -/
structure DeliversInOrder (world : CollectionWorld) : Prop where
  alone : ∃ thread, world.delivering (CollectionThread.other thread) = []
  decided : ∀ thread, world.delivering (CollectionThread.other thread) = [] →
    world.received ++ world.delivering thread = world.decided

variable {world : CollectionWorld}

theorem other_other (thread : CollectionThread) : thread.other.other = thread := by
  cases thread <;> rfl

theorem other_ne (thread : CollectionThread) : thread.other ≠ thread := by
  cases thread <;> decide

theorem locked_silent {lockSection : LockSection} (silent : lockSection.mayReport = false)
    (agent : AXCollectionAgent) : (agent.locked lockSection).2 = [] := by
  cases lockSection with
  | observe | registrationFailed | accessibilityObserverFailed => rfl
  | emit | beginApplicationDwell | flushPendingDwell | stop => cases silent

theorem DeliversInOrder.locks (inOrder : DeliversInOrder world) {thread : CollectionThread}
    {lockSection : LockSection} (waits : WaitsForDelivery world (.locked thread lockSection)) :
    DeliversInOrder (world.lock thread lockSection) := by
  unfold CollectionWorld.lock
  split
  · rename_i free
    have same : ∀ calls, Function.update world.delivering thread calls thread.other =
          world.delivering thread.other :=
      fun calls => Function.update_of_ne (other_ne thread) _ _
    cases reports : lockSection.mayReport with
    | true =>
      have otherFree := waits reports
      have all := inOrder.decided thread otherFree
      rw [free, append_nil] at all
      refine ⟨⟨thread, (same _).trans otherFree⟩, ?_⟩
      intro source fromFree
      dsimp only at fromFree ⊢
      by_cases isThread : source = thread
      · rw [isThread, Function.update_self, all]
      · have isOther : source = thread.other := by
          cases source <;> cases thread <;> first | rfl | exact absurd rfl isThread
        rw [isOther, other_other, Function.update_self] at fromFree
        rw [isOther, same, otherFree, fromFree, all]
    | false =>
      have silent := locked_silent reports world.agent
      have unchanged : Function.update world.delivering thread
          (world.agent.locked lockSection).2 = world.delivering := by
        rw [silent, ← free, Function.update_eq_self]
      refine ⟨?_, ?_⟩
      · dsimp only
        rw [unchanged]
        exact inOrder.alone
      · dsimp only
        rw [unchanged, silent, append_nil]
        exact inOrder.decided
  · exact inOrder

theorem DeliversInOrder.delivers (inOrder : DeliversInOrder world) (thread : CollectionThread) :
    DeliversInOrder (world.deliver thread) := by
  unfold CollectionWorld.deliver
  split
  · exact inOrder
  · rename_i call calls pending
    have otherFree : world.delivering thread.other = [] := by
      obtain ⟨source, fromFree⟩ := inOrder.alone
      by_cases isThread : source = thread
      · rwa [isThread] at fromFree
      · have isOther : source.other = thread := by
          cases source <;> cases thread <;> first | rfl | exact absurd rfl isThread
        rw [isOther, pending] at fromFree
        cases fromFree
    have same : Function.update world.delivering thread calls thread.other = [] :=
      (Function.update_of_ne (other_ne thread) _ _).trans otherFree
    have all := inOrder.decided thread otherFree
    rw [pending] at all
    refine ⟨⟨thread, same⟩, ?_⟩
    intro source fromFree
    dsimp only at fromFree ⊢
    by_cases isThread : source = thread
    · rw [isThread, Function.update_self, ← all]
      simp
    · have isOther : source = thread.other := by
        cases source <;> cases thread <;> first | rfl | exact absurd rfl isThread
      rw [isOther, other_other, Function.update_self] at fromFree
      rw [isOther, same, ← all, fromFree]
      simp

end Order

/-- A dwell begins first, or right after the one before it was closed. -/
theorem began_after_closed {log : List DwellStep} (chain : log.IsChain DwellStep.Abuts)
    {before after : List SinkCall} {event : RawEvent}
    (split : log.filterMap DwellStep.call = before ++ .activityBegan event :: after) :
    before = [] ∨ ∃ earlier closed, before = earlier ++ [.receive closed] := by
  obtain ⟨front, back, rfl, isBefore, isRest⟩ := filterMap_eq_append_iff.mp split
  obtain ⟨skipped, step, rest, rfl, isSkipped, isCall, -⟩ := filterMap_eq_cons_iff.mp isRest
  have began : step = .began event := by
    cases step with
    | began opened =>
      cases isCall
      rfl
    | reopened opened => cases isCall
    | closed closed closedAt => cases isCall
  subst began
  rcases eq_nil_or_concat (front ++ skipped) with none_before | ⟨init, last, isLast⟩
  · left
    rw [← isBefore, (append_eq_nil_iff.mp none_before).1]
    rfl
  · right
    have chained : ((init ++ [last]) ++ .began event :: rest).IsChain DwellStep.Abuts := by
      rw [← concat_eq_append, ← isLast, append_assoc]
      exact chain
    have abuts : last.Abuts (.began event) := by
      refine (isChain_append.mp chained).2.2 last ?_ _ rfl
      simp
    cases last with
    | began opened => cases abuts
    | reopened opened => cases abuts
    | closed closed closedAt =>
      have whole : before = (init ++ [DwellStep.closed closed closedAt]).filterMap DwellStep.call := by
        rw [← concat_eq_append, ← isLast, filterMap_append, isBefore]
        have silent : skipped.filterMap DwellStep.call = [] := filterMap_eq_nil_iff.mpr isSkipped
        rw [silent, append_nil]
      refine ⟨init.filterMap DwellStep.call, closed, ?_⟩
      rw [whole, filterMap_append]
      rfl

def SinkCall.event : SinkCall → RawEvent
  | .receive event | .activityBegan event => event

theorem calls_sorted {log : List DwellStep} (chain : log.IsChain DwellStep.Abuts) :
    (log.filterMap DwellStep.call).Pairwise
      (fun earlier later => earlier.event.occurredAt ≤ later.event.occurredAt) := by
  have started : ∀ (step : DwellStep) (call : SinkCall), step.call = some call →
      call.event.occurredAt = step.start := by
    intro step call isCall
    cases step with
    | began event =>
      cases isCall
      rfl
    | reopened event => cases isCall
    | closed event closedAt =>
      cases isCall
      rfl
  refine pairwise_filterMap.mpr ((starts_sorted chain).imp ?_)
  intro earlier later le first isFirst second isSecond
  rw [started earlier first isFirst, started later second isSecond]
  exact le

/-- As long as no section that can report something runs while the other thread has still calls to
make, the calls of the sink are the first ones of those decided under the lock.  So a dwell is
reported to begin only right after the close of the one it replaced, and the reports arrive in the
order in which their dwells started. -/
theorem sink_sees_replacement_order (steps : List CollectionStep)
    (waits : collectionMachine.Meets WaitsForDelivery .started steps) :
    let world := collectionMachine.run .started steps
    world.received <+: world.decided ∧
      (∀ before event after, world.received = before ++ .activityBegan event :: after →
        before = [] ∨ ∃ earlier closed, before = earlier ++ [.receive closed]) ∧
      world.received.Pairwise
        (fun earlier later => earlier.event.occurredAt ≤ later.event.occurredAt) := by
  intro world
  have keeps : ∀ (world : CollectionWorld) step, DeliversInOrder world →
      WaitsForDelivery world step → DeliversInOrder (collectionMachine.next world step) := by
    intro world step inOrder waits
    cases step with
    | locked thread lockSection => exact inOrder.locks waits
    | deliver thread => exact inOrder.delivers thread
  have start : DeliversInOrder .started := ⟨⟨.main, rfl⟩, fun _ _ => rfl⟩
  have inOrder : DeliversInOrder world := collectionMachine.invariant_run keeps start waits
  obtain ⟨tiled, decided⟩ := tiledWorld_run steps
  obtain ⟨thread, free⟩ := inOrder.alone
  have initial : world.received <+: world.decided := ⟨_, inOrder.decided thread free⟩
  refine ⟨initial, ?_, ?_⟩
  · intro before event after split
    obtain ⟨rest, whole⟩ := initial
    rw [split, append_assoc, cons_append, decided] at whole
    exact began_after_closed tiled.chain whole.symm
  · rw [decided] at initial
    exact (calls_sorted tiled.chain).sublist initial.sublist

def editor : RunningApplication where
  processIdentifier := 1
  appName := "Editor"
  bundleIdentifier := none

/-- A window of the application, found by the registration or by a later notification. -/
def windowAt (title : String) (instant : ℚ) : LockSection :=
  .emit editor { declaredAppCategory := none, documentTypeIDs := [] }
    { windowTitle := some title, focusedDocumentURL := none } instant

/-- The window that the registration finds is delivered before the next one is reported. -/
def deliveredInTurn : List CollectionStep :=
  [.locked .main (.observe editor), .locked .main (windowAt "Draft" 10), .deliver .main,
    .locked .callbackQueue (windowAt "Notes" 15), .deliver .callbackQueue,
    .deliver .callbackQueue]

/-- The threads deliver in the order in which they held the lock. -/
theorem delivered_in_turn_keeps_order :
    let world := collectionMachine.run .started deliveredInTurn
    world.received <+: world.decided ∧
      (∀ before event after, world.received = before ++ .activityBegan event :: after →
        before = [] ∨ ∃ earlier closed, before = earlier ++ [.receive closed]) ∧
      world.received.Pairwise
        (fun earlier later => earlier.event.occurredAt ≤ later.event.occurredAt) :=
  sink_sees_replacement_order deliveredInTurn (by decide +kernel)

/-- The callback queue reports a later window before the main thread delivers the one that the
registration found. -/
def overtaken : List CollectionStep :=
  [.locked .main (.observe editor), .locked .main (windowAt "Draft" 10),
    .locked .callbackQueue (windowAt "Notes" 15), .deliver .callbackQueue,
    .deliver .callbackQueue, .deliver .main]

/-- The sink sees the draft close before it begins. -/
theorem overtaken_report_arrives_late :
    let world := collectionMachine.run .started overtaken
    world.received.map (fun call => (call.event.windowTitle, call.event.durationSeconds)) =
        [("Draft", 5), ("Notes", 0), ("Draft", 0)] ∧
      ¬ world.received <+: world.decided := by
  decide +kernel

end Velvt.Collection
