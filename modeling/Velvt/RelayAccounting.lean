import Mathlib.Data.List.Nodup
import Mathlib.Data.List.Perm.Basic
import Velvt.EventRelay

/-!
# The relay accounts for every closed dwell

Every event stands in one place: with a call of `receive` or with `start`, in a buffer or the
stream, with the loop or a flush that has not delivered it, among the sent ones or among the
dropped ones.
-/

namespace Velvt.Relay

open StepMachine List EventRelay

def RelayItem.closedEvents : RelayItem → List Nat
  | .closed event => [event]
  | .began _ => []

/-- What `start` has drained and not yet put into the stream. -/
def Starting.holds : Starting → List Nat
  | .enqueueing events => events
  | _ => []

def SendLoop.holds : SendLoop → List Nat
  | .took item | .sending item | .answered item false => item.closedEvents
  | _ => []

def Flush.holds (flush : Flush) : List Nat :=
  if flush.answer = some true then [] else [flush.event]

def EventRelay.places (relay : EventRelay) : List Nat :=
  relay.receiving ++ relay.startupBuffer ++ relay.starting.holds ++
    relay.stream.flatMap RelayItem.closedEvents ++ relay.sendLoop.holds ++ relay.ringBuffer ++
    relay.flushes.flatMap Flush.holds ++ relay.sent ++ relay.dropped

theorem EventRelay.count_places (relay : EventRelay) (event : Nat) : relay.places.count event =
      relay.receiving.count event + relay.startupBuffer.count event +
        relay.starting.holds.count event +
        (relay.stream.flatMap RelayItem.closedEvents).count event +
        relay.sendLoop.holds.count event + relay.ringBuffer.count event +
        (relay.flushes.flatMap Flush.holds).count event + relay.sent.count event +
        relay.dropped.count event := by
  simp only [places, count_append]

theorem count_flatMap_eraseIdx {Item : Type*} (holds : Item → List Nat) {items : List Item}
    {index : Nat} {item : Item} (held : items[index]? = some item) (event : Nat) :
    ((items.eraseIdx index).flatMap holds).count event + (holds item).count event =
      (items.flatMap holds).count event := by
  obtain ⟨inside, rfl⟩ := List.getElem?_eq_some_iff.mp held
  have permuted := (getElem_cons_eraseIdx_perm inside).flatMap_right holds
  rw [← permuted.count_eq, flatMap_cons, count_append, Nat.add_comm]

theorem count_flatMap_set {Item : Type*} (holds : Item → List Nat) {items : List Item}
    {index : Nat} {item : Item} (held : items[index]? = some item) (changed : Item) (event : Nat) :
    ((items.set index changed).flatMap holds).count event + (holds item).count event =
      (items.flatMap holds).count event + (holds changed).count event := by
  have inside := (List.getElem?_eq_some_iff.mp held).1
  have permuted := (set_perm_cons_eraseIdx inside changed).flatMap_right holds
  rw [permuted.count_eq, flatMap_cons, count_append, ← count_flatMap_eraseIdx holds held event]
  omega

theorem count_eraseIdx {events : List Nat} {index held : Nat} (isHeld : events[index]? = some held)
    (event : Nat) :
    (events.eraseIdx index).count event + [held].count event = events.count event := by
  obtain ⟨inside, rfl⟩ := List.getElem?_eq_some_iff.mp isHeld
  rw [← (getElem_cons_eraseIdx_perm inside).count_eq,
    ← singleton_append (l := events.eraseIdx index), count_append, Nat.add_comm]

section Invariant

/-- Every event that was handed over is in one place, and the dropped ones have been counted. -/
structure Accounted (relay : EventRelay) : Prop where
  each : ∀ event, relay.places.count event = relay.handed.count event
  once : relay.handed.Nodup
  earlier : ∀ event ∈ relay.handed, event < relay.calls
  counted : relay.startupDroppedEventCount + relay.droppedEventCount + relay.forgotten =
    relay.dropped.length
  positive : 0 < relay.capacity

/-- The locks follow `start`, and a call that finds the startup buffer closed is none. -/
structure InPhase (relay : EventRelay) : Prop where
  hasContinuation : relay.hasContinuation = true ↔ relay.starting ≠ .notStarted
  accepts : relay.acceptsStartupEvents = true ↔
    relay.starting = .notStarted ∨ relay.starting = .installed
  closed : relay.acceptsStartupEvents = false → relay.receiving = []

/-- No call of `receive` is between its lock sections when the startup buffer closes. -/
def NoStraddling (relay : EventRelay) (step : RelayStep) : Prop :=
  step = .start → relay.starting = .installed → relay.receiving = []
  deriving Decidable

variable {relay : EventRelay}

theorem count_take_tail (events : List Nat) (event : Nat) :
    events.tail.count event + (events.take 1).count event = events.count event := by
  cases events with
  | nil => rfl
  | cons first events =>
    rw [tail_cons, take_succ_cons, take_zero, ← singleton_append (l := events),
      count_append, Nat.add_comm]

theorem count_dropLast_getLast (events : List Nat) (event : Nat) :
    events.dropLast.count event + events.getLast?.toList.count event = events.count event := by
  rcases eq_nil_or_concat events with rfl | ⟨front, last, rfl⟩
  · rfl
  · simp [count_append]

theorem bufferEvent_eq (positive : 0 < relay.capacity) (event : Nat) :
    ∃ ring lost, relay.bufferEvent event = { relay with
        ringBuffer := ring
        droppedEventCount := relay.droppedEventCount + lost.length
        dropped := relay.dropped ++ lost } ∧
      (∀ other, ring.count other + lost.count other =
        relay.ringBuffer.count other + [event].count other) ∧
      ring.Sublist (relay.ringBuffer ++ [event]) := by
  rw [EventRelay.bufferEvent]
  split
  · rename_i full
    refine ⟨relay.ringBuffer.tail ++ [event], relay.ringBuffer.take 1, ?_, fun other => ?_,
      (tail_sublist _).append_right _⟩
    · have one : (relay.ringBuffer.take 1).length = 1 := by
        rw [length_take]
        omega
      rw [one]
    · rw [count_append]
      have moved := count_take_tail relay.ringBuffer other
      omega
  · refine ⟨relay.ringBuffer ++ [event], [], by simp, fun other => ?_, .refl _⟩
    rw [count_append, count_nil, Nat.add_zero]

theorem requeueFront_eq (positive : 0 < relay.capacity) (event : Nat) :
    ∃ ring lost, relay.requeueFront event = { relay with
        ringBuffer := ring
        droppedEventCount := relay.droppedEventCount + lost.length
        dropped := relay.dropped ++ lost } ∧
      (∀ other, ring.count other + lost.count other =
        relay.ringBuffer.count other + [event].count other) ∧
      ring.Sublist (event :: relay.ringBuffer) := by
  rw [EventRelay.requeueFront]
  split
  · rename_i full
    refine ⟨event :: relay.ringBuffer.dropLast, relay.ringBuffer.getLast?.toList, ?_,
      fun other => ?_, (dropLast_sublist _).cons_cons _⟩
    · have one : relay.ringBuffer.getLast?.toList.length = 1 := by
        rcases eq_nil_or_concat relay.ringBuffer with empty | ⟨front, last, isRing⟩
        · rw [empty, length_nil] at full
          omega
        · simp [isRing]
      rw [one]
    · rw [← singleton_append, count_append]
      have moved := count_dropLast_getLast relay.ringBuffer other
      omega
  · refine ⟨event :: relay.ringBuffer, [], by simp, fun other => ?_, .refl _⟩
    rw [← singleton_append, count_append, count_nil]
    omega

end Invariant

section Steps

variable {relay : EventRelay}

/-- What the lock sections of `receive` and `start` work on. -/
structure Entrance where
  hasContinuation : Bool
  acceptsStartupEvents : Bool
  starting : Starting
  receiving : List Nat
  startupBuffer : List Nat
  startupDroppedEventCount : Nat
  calls : Nat
  handed : List Nat

def EventRelay.entrance (relay : EventRelay) : Entrance where
  hasContinuation := relay.hasContinuation
  acceptsStartupEvents := relay.acceptsStartupEvents
  starting := relay.starting
  receiving := relay.receiving
  startupBuffer := relay.startupBuffer
  startupDroppedEventCount := relay.startupDroppedEventCount
  calls := relay.calls
  handed := relay.handed

def RelayStep.isOfEntrance : RelayStep → Bool
  | .receive | .buffer _ | .activityBegan | .start => true
  | _ => false

theorem bufferEvent_entrance (event : Nat) :
    (relay.bufferEvent event).entrance = relay.entrance := by
  rw [EventRelay.bufferEvent]
  split <;> rfl

theorem requeueFront_entrance (event : Nat) :
    (relay.requeueFront event).entrance = relay.entrance := by
  rw [EventRelay.requeueFront]
  split <;> rfl

/-- What is not done at the entrance does not change it. -/
theorem next_entrance {step : RelayStep} (inside : step.isOfEntrance = false) :
    (relay.next step).entrance = relay.entrance := by
  have onActor {stretch : EventRelay} (same : stretch.entrance = relay.entrance) :
      (relay.onActor stretch).entrance = relay.entrance := by
    rw [EventRelay.onActor]
    split
    · exact same
    · rfl
  cases step with
  | receive | buffer | activityBegan | start => cases inside
  | connectionDidChange connected =>
    refine onActor ?_
    rw [EventRelay.connectionDidChange]
    split
    · dsimp only
      split <;> rfl
    · rfl
  | loopTakes =>
    simp only [EventRelay.next, EventRelay.loopTakes]
    split <;> rfl
  | loopHandles =>
    refine onActor ?_
    rw [EventRelay.loopHandles]
    split
    · split
      · rfl
      · exact bufferEvent_entrance _
    · split <;> rfl
    · rfl
  | loopAnswered delivered =>
    simp only [EventRelay.next, EventRelay.loopAnswered]
    split <;> rfl
  | loopResumes =>
    refine onActor ?_
    rw [EventRelay.loopResumes]
    split
    · rfl
    · exact bufferEvent_entrance _
    · rfl
    · rfl
  | flushAnswered flush delivered =>
    simp only [EventRelay.next, EventRelay.flushAnswered]
    split <;> rfl
  | flushResumes flush =>
    refine onActor ?_
    rw [EventRelay.flushResumes]
    split
    · split <;> rfl
    · exact requeueFront_entrance _
    · rfl

variable {after : EventRelay}

theorem InPhase.of_entrance (phase : InPhase relay)
    (same : after.entrance = relay.entrance) : InPhase after := by
  simp only [EventRelay.entrance, Entrance.mk.injEq] at same
  obtain ⟨hasContinuation, accepts, starting, receiving, -⟩ := same
  constructor
  · rw [hasContinuation, starting]
    exact phase.hasContinuation
  · rw [accepts, starting]
    exact phase.accepts
  · rw [accepts, receiving]
    exact phase.closed

/-- Without straddling calls the locks follow `start`. -/
theorem InPhase.next (phase : InPhase relay) {step : RelayStep} (admitted : NoStraddling relay step) :
    InPhase (relay.next step) := by
  have ⟨hasContinuation, accepts, closed⟩ := phase
  cases step with
  | receive =>
    simp only [EventRelay.next, EventRelay.receive]
    split
    · exact ⟨hasContinuation, accepts, closed⟩
    · rename_i none
      refine ⟨hasContinuation, accepts, fun isClosed => ?_⟩
      have notStarted : relay.starting = .notStarted := by
        by_contra started
        exact none (hasContinuation.mpr started)
      rw [accepts.mpr (.inl notStarted)] at isClosed
      cases isClosed
  | buffer call =>
    simp only [EventRelay.next, EventRelay.buffer]
    split
    · exact ⟨hasContinuation, accepts, closed⟩
    · have erased (isClosed : relay.acceptsStartupEvents = false) :
          relay.receiving.eraseIdx call = [] := by
        rw [closed isClosed, eraseIdx_nil]
      split
      · exact ⟨hasContinuation, accepts, erased⟩
      · split
        · exact ⟨hasContinuation, accepts, erased⟩
        · exact ⟨hasContinuation, accepts, erased⟩
  | activityBegan =>
    simp only [EventRelay.next, EventRelay.activityBegan]
    split <;> exact ⟨hasContinuation, accepts, closed⟩
  | start =>
    simp only [EventRelay.next, EventRelay.start]
    split
    · rename_i phase
      exact ⟨by simp, by simpa [phase] using accepts, closed⟩
    · rename_i phase
      exact ⟨by simpa [phase] using hasContinuation, by simp, fun _ => admitted rfl phase⟩
    · rename_i phase
      exact ⟨by simpa [phase] using hasContinuation, by simpa [phase] using accepts, closed⟩
    · rename_i phase
      exact ⟨by simpa [phase] using hasContinuation, by simpa [phase] using accepts, closed⟩
    · rename_i phase
      exact ⟨by simpa [phase] using hasContinuation, by simpa [phase] using accepts, closed⟩
    · exact ⟨hasContinuation, accepts, closed⟩
  | _ => exact phase.of_entrance (next_entrance rfl)

section

variable (accounted : Accounted relay)

include accounted

theorem Accounted.moved (handed : after.handed = relay.handed) (calls : after.calls = relay.calls)
    (capacity : after.capacity = relay.capacity)
    (counts : ∀ event, after.places.count event = relay.places.count event)
    (counted : after.startupDroppedEventCount + after.droppedEventCount + after.forgotten +
        relay.dropped.length =
      relay.startupDroppedEventCount + relay.droppedEventCount + relay.forgotten +
        after.dropped.length) : Accounted after where
  each event := by rw [counts, handed, accounted.each]
  once := handed ▸ accounted.once
  earlier := by
    rw [handed, calls]
    exact accounted.earlier
  counted := by
    have before := accounted.counted
    omega
  positive := capacity ▸ accounted.positive

theorem Accounted.handsOver
    (handed : after.handed = relay.handed ++ [relay.calls]) (calls : after.calls = relay.calls + 1)
    (capacity : after.capacity = relay.capacity) (counts : ∀ event, after.places.count event =
      relay.places.count event + [relay.calls].count event)
    (dropped : after.dropped = relay.dropped)
    (counted : after.startupDroppedEventCount + after.droppedEventCount + after.forgotten =
      relay.startupDroppedEventCount + relay.droppedEventCount + relay.forgotten) :
    Accounted after where
  each event := by rw [counts, handed, count_append, accounted.each]
  once := by
    rw [handed, nodup_append]
    refine ⟨accounted.once, nodup_singleton _, fun event isHanded other isNew same => ?_⟩
    rw [mem_singleton.mp isNew] at same
    exact Nat.lt_irrefl _ (same ▸ accounted.earlier event isHanded)
  earlier event isHanded := by
    rw [handed, mem_append, mem_singleton] at isHanded
    rw [calls]
    rcases isHanded with before | rfl
    · exact Nat.lt_succ_of_lt (accounted.earlier event before)
    · exact Nat.lt_succ_self _
  counted := by rw [counted, dropped, accounted.counted]
  positive := capacity ▸ accounted.positive

theorem Accounted.receive : Accounted relay.receive := by
  rw [EventRelay.receive]
  dsimp only
  split
  · refine accounted.handsOver rfl rfl rfl (fun event => ?_) rfl rfl
    simp only [count_places, flatMap_append, flatMap_singleton,
      count_append, RelayItem.closedEvents]
    omega
  · refine accounted.handsOver rfl rfl rfl (fun event => ?_) rfl rfl
    simp only [count_places, count_append]
    omega

theorem Accounted.buffer (phase : InPhase relay) (call : Nat) :
    Accounted (relay.buffer call) := by
  rw [EventRelay.buffer]
  split
  · exact accounted
  · rename_i event isCall
    have returned := count_eraseIdx isCall
    split
    · rename_i isClosed
      rw [phase.closed (by simpa using isClosed), List.getElem?_nil] at isCall
      cases isCall
    · split
      · rename_i full
        refine accounted.moved rfl rfl rfl (fun other => ?_) ?_
        · have one := returned other
          have moved := count_take_tail relay.startupBuffer other
          simp only [count_places, count_append]
          omega
        · have positive := accounted.positive
          simp only [length_append, length_take]
          omega
      · refine accounted.moved rfl rfl rfl (fun other => ?_) rfl
        have one := returned other
        simp only [count_places, count_append]
        omega

theorem Accounted.activityBegan : Accounted relay.activityBegan := by
  have later : ∀ event ∈ relay.handed, event < relay.calls + 1 := fun event isHanded =>
    Nat.lt_succ_of_lt (accounted.earlier event isHanded)
  rw [EventRelay.activityBegan]
  dsimp only
  split
  · refine ⟨fun event => ?_, accounted.once, later, accounted.counted, accounted.positive⟩
    rw [← accounted.each]
    simp [count_places, RelayItem.closedEvents]
  · exact ⟨accounted.each, accounted.once, later, accounted.counted, accounted.positive⟩

theorem Accounted.start : Accounted relay.start := by
  rw [EventRelay.start]
  split
  · rename_i phase
    refine accounted.moved rfl rfl rfl (fun event => ?_) rfl
    simp [count_places, phase, Starting.holds]
  · rename_i phase
    refine accounted.moved rfl rfl rfl (fun event => ?_) rfl
    simp [count_places, phase, Starting.holds]
  · rename_i phase
    refine accounted.moved rfl rfl rfl (fun event => ?_) ?_
    · simp only [count_places, phase, Starting.holds, count_nil]
      omega
    · dsimp only
      omega
  · rename_i phase
    refine accounted.moved rfl rfl rfl (fun event => ?_) rfl
    simp [count_places, phase, Starting.holds]
  · rename_i event events phase
    refine accounted.moved rfl rfl rfl (fun other => ?_) rfl
    simp only [count_places, phase, Starting.holds, flatMap_append,
      flatMap_singleton, RelayItem.closedEvents, count_append,
      ← singleton_append (x := event) (l := events)]
    omega
  · exact accounted

theorem Accounted.connectionDidChange (connected : Bool) :
    Accounted (relay.connectionDidChange connected) := by
  rw [EventRelay.connectionDidChange]
  split
  · dsimp only
    split
    · refine accounted.moved rfl rfl rfl (fun event => ?_) ?_
      · rfl
      · dsimp only
        omega
    · rename_i event events isRing
      refine accounted.moved rfl rfl rfl (fun other => ?_) ?_
      · simp only [count_places, isRing, flatMap_append, flatMap_singleton,
          Flush.holds, count_append, ← singleton_append (x := event) (l := events)]
        simp only [reduceCtorEq, if_false]
        omega
      · dsimp only
        omega
  · exact accounted.moved rfl rfl rfl (fun _ => rfl) rfl

theorem Accounted.loopTakes : Accounted relay.loopTakes := by
  rw [EventRelay.loopTakes]
  split
  · rename_i item items _ waits isStream
    refine accounted.moved rfl rfl rfl (fun event => ?_) rfl
    simp only [count_places, waits, isStream, SendLoop.holds, flatMap_cons, count_append, count_nil]
    omega
  · exact accounted

theorem Accounted.loopHandles : Accounted relay.loopHandles := by
  rw [EventRelay.loopHandles]
  split
  · rename_i event took
    split
    · refine accounted.moved rfl rfl rfl (fun other => ?_) rfl
      simp only [count_places, took, SendLoop.holds]
    · obtain ⟨ring, lost, same, counts, -⟩ := bufferEvent_eq accounted.positive event
      rw [same]
      refine accounted.moved rfl rfl rfl (fun other => ?_) ?_
      · have one := counts other
        simp only [count_places, took, SendLoop.holds, RelayItem.closedEvents,
          count_append, count_nil]
        omega
      · simp only [length_append]
        omega
  · rename_i event took
    split
    · refine accounted.moved rfl rfl rfl (fun other => ?_) rfl
      simp only [count_places, took, SendLoop.holds]
    · refine accounted.moved rfl rfl rfl (fun other => ?_) rfl
      simp only [count_places, took, SendLoop.holds, RelayItem.closedEvents, count_nil]
  · exact accounted

theorem Accounted.loopAnswered (delivered : Bool) :
    Accounted (relay.loopAnswered delivered) := by
  rw [EventRelay.loopAnswered]
  split
  · rename_i event sends
    refine accounted.moved rfl rfl rfl (fun other => ?_) rfl
    cases delivered
    · simp [count_places, sends, SendLoop.holds]
    · simp only [count_places, sends, SendLoop.holds, RelayItem.closedEvents,
        if_true, count_append, count_nil]
      omega
  · rename_i event sends
    refine accounted.moved rfl rfl rfl (fun other => ?_) rfl
    cases delivered <;>
      simp [count_places, sends, SendLoop.holds, RelayItem.closedEvents]
  · exact accounted

theorem Accounted.loopResumes : Accounted relay.loopResumes := by
  rw [EventRelay.loopResumes]
  split
  · rename_i item answered
    refine accounted.moved rfl rfl rfl (fun other => ?_) rfl
    simp only [count_places, answered, SendLoop.holds]
  · rename_i event answered
    obtain ⟨ring, lost, same, counts, -⟩ := bufferEvent_eq accounted.positive event
    rw [same]
    refine accounted.moved rfl rfl rfl (fun other => ?_) ?_
    · have one := counts other
      simp only [count_places, answered, SendLoop.holds, RelayItem.closedEvents,
        count_append, count_nil]
      omega
    · simp only [length_append]
      omega
  · rename_i event answered
    refine accounted.moved rfl rfl rfl (fun other => ?_) rfl
    simp only [count_places, answered, SendLoop.holds, RelayItem.closedEvents, count_nil]
  · exact accounted

theorem Accounted.flushAnswered (flush : Nat) (delivered : Bool) :
    Accounted (relay.flushAnswered flush delivered) := by
  rw [EventRelay.flushAnswered]
  split
  · rename_i event isFlush
    refine accounted.moved rfl rfl rfl (fun other => ?_) rfl
    have moved := count_flatMap_set Flush.holds isFlush
      { event := event, answer := some delivered } other
    cases delivered
    · simp only [Flush.holds, reduceCtorEq, if_false, Option.some.injEq, Bool.false_eq_true] at moved
      simp only [count_places, Bool.false_eq_true, if_false]
      omega
    · simp only [Flush.holds, reduceCtorEq, if_false, if_true, count_nil] at moved
      simp only [count_places, if_true, count_append]
      omega
  · exact accounted

theorem Accounted.flushResumes (flush : Nat) :
    Accounted (relay.flushResumes flush) := by
  rw [EventRelay.flushResumes]
  split
  · rename_i event isFlush
    split
    · rename_i next events _ isRing
      refine accounted.moved rfl rfl rfl (fun other => ?_) rfl
      have moved := count_flatMap_set Flush.holds isFlush { event := next, answer := none } other
      simp only [Flush.holds, reduceCtorEq, if_false, if_true, count_nil] at moved
      simp only [count_places, isRing, ← singleton_append (x := next) (l := events), count_append]
      omega
    · refine accounted.moved rfl rfl rfl (fun other => ?_) rfl
      have moved := count_flatMap_eraseIdx Flush.holds isFlush other
      simp only [Flush.holds, if_true, count_nil] at moved
      simp only [count_places]
      omega
  · rename_i event isFlush
    obtain ⟨ring, lost, same, counts, -⟩ := requeueFront_eq accounted.positive event
    rw [same]
    refine accounted.moved rfl rfl rfl (fun other => ?_) ?_
    · have one := counts other
      have moved := count_flatMap_eraseIdx Flush.holds isFlush other
      simp only [Flush.holds, Option.some.injEq, Bool.false_eq_true, if_false] at moved
      simp only [count_places, count_append]
      omega
    · simp only [length_append]
      omega
  · exact accounted

theorem Accounted.next (phase : InPhase relay) (step : RelayStep) :
    Accounted (relay.next step) := by
  have onActor {stretch : EventRelay} (kept : Accounted stretch) :
      Accounted (relay.onActor stretch) := by
    rw [EventRelay.onActor]
    split
    · exact kept
    · exact accounted
  cases step with
  | receive => exact accounted.receive
  | buffer call => exact accounted.buffer phase call
  | activityBegan => exact accounted.activityBegan
  | start => exact accounted.start
  | connectionDidChange connected => exact onActor (accounted.connectionDidChange connected)
  | loopTakes => exact accounted.loopTakes
  | loopHandles => exact onActor accounted.loopHandles
  | loopAnswered delivered => exact accounted.loopAnswered delivered
  | loopResumes => exact onActor accounted.loopResumes
  | flushAnswered flush delivered => exact accounted.flushAnswered flush delivered
  | flushResumes flush => exact onActor (accounted.flushResumes flush)

end

end Steps

theorem accounted_initial {capacity : Nat} (positive : 0 < capacity) :
    Accounted (.initial capacity) :=
  ⟨fun _ => rfl, nodup_nil, fun _ isHanded => absurd isHanded not_mem_nil, rfl, positive⟩

theorem inPhase_initial (capacity : Nat) : InPhase (.initial capacity) := by
  constructor <;> simp [EventRelay.initial]

theorem accounted_run {capacity : Nat} (positive : 0 < capacity) {steps : List RelayStep}
    (orderly : relayMachine.Meets NoStraddling (.initial capacity) steps) :
    Accounted (relayMachine.run (.initial capacity) steps) ∧
      InPhase (relayMachine.run (.initial capacity) steps) := by
  have keeps : ∀ relay step, (Accounted relay ∧ InPhase relay) → NoStraddling relay step →
      (Accounted (relayMachine.next relay step) ∧ InPhase (relayMachine.next relay step)) := by
    intro relay step holds admitted
    exact ⟨holds.1.next holds.2 step, holds.2.next admitted⟩
  exact relayMachine.invariant_run keeps ⟨accounted_initial positive, inPhase_initial capacity⟩
    orderly

/-- Where no call of `receive` straddles the closing of the startup buffer, every closed dwell is
in one place at every step, and the dropped ones have been counted once each. -/
theorem dwells_are_accounted_unless_straddling (capacity : Nat) (positive : 0 < capacity)
    (steps : List RelayStep) (orderly : relayMachine.Meets NoStraddling (.initial capacity) steps) :
    let relay := relayMachine.run (.initial capacity) steps
    relay.places.Perm relay.handed ∧ relay.handed.Nodup ∧
      relay.startupDroppedEventCount + relay.droppedEventCount + relay.forgotten =
        relay.dropped.length := by
  obtain ⟨accounted, -⟩ := accounted_run positive orderly
  exact ⟨perm_iff_count.mpr accounted.each, accounted.once, accounted.counted⟩

/-- A dwell before the relay has started and one after it, both sent on connection. -/
def startedSteps : List RelayStep :=
  [.receive, .buffer 0, .start, .start, .start, .start, .start, .receive, .loopTakes, .loopHandles,
    .connectionDidChange true, .flushAnswered 0 true, .flushResumes 0, .loopTakes, .loopHandles,
    .loopAnswered true]

/-- One dwell waits in the startup buffer, and one comes after the start. -/
theorem started_dwells_are_accounted :
    let relay := relayMachine.run (.initial 500) startedSteps
    relay.places.Perm relay.handed ∧ relay.handed.Nodup ∧
      relay.startupDroppedEventCount + relay.droppedEventCount + relay.forgotten =
        relay.dropped.length :=
  dwells_are_accounted_unless_straddling 500 (by decide) startedSteps (by decide)

/-- A call finds no continuation, `start` runs, and the call comes to a closed buffer: the event
is in no place and is not counted. -/
theorem straddling_dwell_is_lost :
    let relay := relayMachine.run (.initial 500)
      [.receive, .start, .start, .start, .start, .buffer 0]
    relay.handed = [0] ∧ relay.places = [] ∧
      relay.startupDroppedEventCount + relay.droppedEventCount + relay.forgotten = 0 := by
  decide

end Velvt.Relay
