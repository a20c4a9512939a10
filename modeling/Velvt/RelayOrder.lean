import Velvt.RelayAccounting

/-!
# The relay keeps the order

While no flush is under way when a connection comes up, and no call comes between the sections of
`start`, the numbers of the events form one ascending line: the sent ones, the one that a flush or
the loop is sending, the ring, the stream, the startup buffer.
-/

namespace Velvt.Relay

open StepMachine List

section Line

def SendLoop.sends : SendLoop → List Nat
  | .sending item | .answered item false => [item.number]
  | _ => []

def SendLoop.tookItem : SendLoop → List Nat
  | .took item => [item.number]
  | _ => []

def SendLoop.inSend : SendLoop → Bool
  | .sending _ | .answered _ _ => true
  | _ => false

def EventRelay.line (relay : EventRelay) : List Nat :=
  relay.sent ++ relay.flushes.flatMap Flush.holds ++ relay.sendLoop.sends ++ relay.ringBuffer ++
    relay.sendLoop.tookItem ++ relay.stream.map RelayItem.number ++ relay.starting.holds ++
    relay.startupBuffer ++ relay.receiving

/-- A step by which no event overtakes another: no call comes between the sections of `start`
or is under way when it begins, calls come to the startup buffer one after the other, and a
connection comes up while no flush is under way. -/
def InTurn (relay : EventRelay) : RelayStep → Prop
  | .receive | .activityBegan => relay.starting = .notStarted ∨ relay.starting = .running
  | .buffer call => call = 0
  | .start => relay.starting = .notStarted → relay.receiving = []
  | .connectionDidChange true => relay.flushes = []
  | _ => True

instance (relay : EventRelay) (step : RelayStep) : Decidable (InTurn relay step) := by
  unfold InTurn
  split <;> infer_instance

/-- The events stand in line, and at most one of them is being sent. -/
structure Orderly (relay : EventRelay) : Prop where
  ascending : relay.line.Pairwise (· < ·)
  earlier : ∀ event ∈ relay.line, event < relay.calls
  received : relay.starting ≠ .notStarted → relay.receiving = []
  drained : relay.acceptsStartupEvents = false → relay.starting ≠ .closedBuffer →
    relay.startupBuffer = []
  oneFlush : relay.flushes.length ≤ 1
  flushing : relay.isFlushing = true ↔ relay.flushes ≠ []
  idle : relay.isConnected = true → relay.isFlushing = false → relay.ringBuffer = []
  alone : relay.sendLoop.inSend = true → relay.flushes = [] ∧ relay.ringBuffer = []

variable {relay : EventRelay}

theorem Orderly.flush_alone (orderly : Orderly relay) {index : Nat} {flush : Flush}
    (isFlush : relay.flushes[index]? = some flush) :
    index = 0 ∧ relay.flushes = [flush] ∧ relay.sendLoop.inSend = false := by
  have inside := (List.getElem?_eq_some_iff.mp isFlush).1
  have one := orderly.oneFlush
  obtain rfl : index = 0 := by omega
  have only : relay.flushes = [flush] := by
    obtain ⟨other, isOther⟩ := length_eq_one_iff.mp (by omega : relay.flushes.length = 1)
    rw [isOther] at isFlush ⊢
    cases isFlush
    rfl
  refine ⟨rfl, only, ?_⟩
  by_contra sending
  rw [(orderly.alone (by simpa using sending)).1] at only
  cases only

theorem sends_of_not_inSend {loop : SendLoop} (rests : loop.inSend = false) : loop.sends = [] := by
  cases loop with
  | waiting | took => rfl
  | sending | answered => cases rests

end Line

section Steps

variable {relay : EventRelay}

section

variable (orderly : Orderly relay)

include orderly

theorem Orderly.shortened {after : EventRelay}
    (line : after.line.Sublist relay.line) (calls : after.calls = relay.calls)
    (received : after.starting ≠ .notStarted → after.receiving = [])
    (drained : after.acceptsStartupEvents = false → after.starting ≠ .closedBuffer →
      after.startupBuffer = [])
    (oneFlush : after.flushes.length ≤ 1) (flushing : after.isFlushing = true ↔ after.flushes ≠ [])
    (idle : after.isConnected = true → after.isFlushing = false → after.ringBuffer = [])
    (alone : after.sendLoop.inSend = true → after.flushes = [] ∧ after.ringBuffer = []) :
    Orderly after :=
  ⟨orderly.ascending.sublist line,
    fun event member => calls ▸ orderly.earlier event (line.subset member),
    received, drained, oneFlush, flushing, idle, alone⟩

theorem Orderly.lengthened {a : EventRelay}
    (line : a.line = relay.line ++ [relay.calls]) (calls : a.calls = relay.calls + 1) :
    a.line.Pairwise (· < ·) ∧ ∀ event ∈ a.line, event < a.calls := by
  rw [line, calls]
  constructor
  · refine pairwise_append.mpr ⟨orderly.ascending, pairwise_singleton _ _, ?_⟩
    intro event member other isNew
    rw [mem_singleton.mp isNew]
    exact orderly.earlier event member
  · intro event member
    rcases mem_append.mp member with before | isNew
    · exact Nat.lt_succ_of_lt (orderly.earlier event before)
    · rw [mem_singleton.mp isNew]
      exact Nat.lt_succ_self _

theorem Orderly.receive (phase : InPhase relay)
    (inTurn : InTurn relay .receive) : Orderly relay.receive := by
  rw [EventRelay.receive]
  dsimp only
  split
  · rename_i continues
    have running : relay.starting = .running :=
      inTurn.resolve_left (phase.hasContinuation.mp continues)
    have received := orderly.received (by simp [running])
    have buffered := orderly.drained (by
      have accepts := phase.accepts
      simpa [running] using accepts) (by simp [running])
    obtain ⟨ascending, earlier⟩ := orderly.lengthened (a := { relay with
        calls := relay.calls + 1
        handed := relay.handed ++ [relay.calls]
        stream := relay.stream ++ [.closed relay.calls] })
      (by simp [EventRelay.line, running, received, buffered, Starting.holds, RelayItem.number]) rfl
    exact ⟨ascending, earlier, orderly.received, orderly.drained, orderly.oneFlush,
      orderly.flushing, orderly.idle, orderly.alone⟩
  · rename_i stands
    have notStarted : relay.starting = .notStarted := by
      by_contra started
      exact stands (phase.hasContinuation.mpr started)
    obtain ⟨ascending, earlier⟩ := orderly.lengthened (a := { relay with
        calls := relay.calls + 1
        handed := relay.handed ++ [relay.calls]
        receiving := relay.receiving ++ [relay.calls] })
      (by simp [EventRelay.line]) rfl
    exact ⟨ascending, earlier, fun started => absurd notStarted started, orderly.drained,
      orderly.oneFlush, orderly.flushing, orderly.idle, orderly.alone⟩

theorem Orderly.activityBegan (phase : InPhase relay)
    (inTurn : InTurn relay .activityBegan) : Orderly relay.activityBegan := by
  rw [EventRelay.activityBegan]
  dsimp only
  split
  · rename_i continues
    have running : relay.starting = .running :=
      inTurn.resolve_left (phase.hasContinuation.mp continues)
    have received := orderly.received (by simp [running])
    have buffered := orderly.drained (by
      have accepts := phase.accepts
      simpa [running] using accepts) (by simp [running])
    obtain ⟨ascending, earlier⟩ := orderly.lengthened (a := { relay with
        calls := relay.calls + 1
        stream := relay.stream ++ [.began relay.calls] })
      (by simp [EventRelay.line, running, received, buffered, Starting.holds, RelayItem.number]) rfl
    exact ⟨ascending, earlier, orderly.received, orderly.drained, orderly.oneFlush,
      orderly.flushing, orderly.idle, orderly.alone⟩
  · exact ⟨orderly.ascending, fun event member => Nat.lt_succ_of_lt (orderly.earlier event member),
      orderly.received, orderly.drained, orderly.oneFlush, orderly.flushing, orderly.idle,
      orderly.alone⟩

theorem Orderly.buffer (phase : InPhase relay) {call : Nat}
    (inTurn : InTurn relay (.buffer call)) : Orderly (relay.buffer call) := by
  obtain rfl : call = 0 := inTurn
  rw [EventRelay.buffer]
  split
  · exact orderly
  · rename_i event isCall
    obtain ⟨calls, isReceiving⟩ : ∃ calls, relay.receiving = event :: calls := by
      cases receiving : relay.receiving with
      | nil =>
        rw [receiving, List.getElem?_nil] at isCall
        cases isCall
      | cons first calls =>
        rw [receiving] at isCall
        cases isCall
        exact ⟨calls, rfl⟩
    have notStarted : relay.starting = .notStarted := by
      by_contra started
      rw [orderly.received started] at isReceiving
      cases isReceiving
    have isOpen : relay.acceptsStartupEvents = true := phase.accepts.mpr (.inl notStarted)
    rw [if_neg (by simp [isOpen])]
    split
    · refine orderly.shortened ?_ rfl (fun started => absurd notStarted started)
        (fun isClosed => ?_) orderly.oneFlush orderly.flushing orderly.idle orderly.alone
      · simp only [EventRelay.line, isReceiving, eraseIdx_cons_zero, append_assoc, singleton_append]
        simp [tail_sublist]
      · rw [isOpen] at isClosed
        cases isClosed
    · refine orderly.shortened ?_ rfl (fun started => absurd notStarted started)
        (fun isClosed => ?_) orderly.oneFlush orderly.flushing orderly.idle orderly.alone
      · simp [EventRelay.line, isReceiving]
      · rw [isOpen] at isClosed
        cases isClosed

theorem Orderly.start (phase : InPhase relay)
    (inTurn : InTurn relay .start) : Orderly relay.start := by
  rw [EventRelay.start]
  split
  · rename_i here
    refine orderly.shortened ?_ rfl (fun _ => inTurn here) (fun isClosed => ?_) orderly.oneFlush
      orderly.flushing orderly.idle orderly.alone
    · simp [EventRelay.line, here, Starting.holds]
    · rw [phase.accepts.mpr (.inl here)] at isClosed
      cases isClosed
  · rename_i here
    refine orderly.shortened ?_ rfl (fun _ => orderly.received (by simp [here]))
      (fun _ other => absurd rfl other) orderly.oneFlush orderly.flushing orderly.idle orderly.alone
    simp [EventRelay.line, here, Starting.holds]
  · rename_i here
    refine orderly.shortened ?_ rfl (fun _ => orderly.received (by simp [here])) (fun _ _ => rfl)
      orderly.oneFlush orderly.flushing orderly.idle orderly.alone
    simp [EventRelay.line, here, Starting.holds]
  · rename_i here
    have drained := orderly.drained (by
      have accepts := phase.accepts
      simpa [here] using accepts) (by simp [here])
    refine orderly.shortened ?_ rfl (fun _ => orderly.received (by simp [here])) (fun _ _ => drained)
      orderly.oneFlush orderly.flushing orderly.idle orderly.alone
    simp [EventRelay.line, here, Starting.holds]
  · rename_i event events here
    have drained := orderly.drained (by
      have accepts := phase.accepts
      simpa [here] using accepts) (by simp [here])
    refine orderly.shortened ?_ rfl (fun _ => orderly.received (by simp [here])) (fun _ _ => drained)
      orderly.oneFlush orderly.flushing orderly.idle orderly.alone
    simp [EventRelay.line, here, Starting.holds, RelayItem.number]
  · exact orderly

theorem Orderly.connectionDidChange {connected : Bool}
    (inTurn : InTurn relay (.connectionDidChange connected)) :
    Orderly (relay.connectionDidChange connected) := by
  rw [EventRelay.connectionDidChange]
  split
  · rename_i isConnected
    subst isConnected
    have noFlush : relay.flushes = [] := inTurn
    dsimp only
    split
    · rename_i empty
      exact orderly.shortened (.refl _) rfl orderly.received orderly.drained orderly.oneFlush
        (by simp [noFlush]) (fun _ _ => empty) orderly.alone
    · rename_i event events isRing
      have rests : relay.sendLoop.inSend = false := by
        by_contra sending
        rw [(orderly.alone (by simpa using sending)).2] at isRing
        cases isRing
      refine orderly.shortened ?_ rfl orderly.received orderly.drained (by simp [noFlush])
        (by simp [noFlush]) (fun _ flushing => by cases flushing) fun sending => ?_
      · simp [EventRelay.line, noFlush, isRing, sends_of_not_inSend rests, Flush.holds]
      · rw [rests] at sending
        cases sending
  · exact orderly.shortened (.refl _) rfl orderly.received orderly.drained orderly.oneFlush
      orderly.flushing (fun isConnected => by cases isConnected) orderly.alone

theorem Orderly.loopTakes : Orderly relay.loopTakes := by
  rw [EventRelay.loopTakes]
  split
  · rename_i item items _ waits isStream
    refine orderly.shortened ?_ rfl orderly.received orderly.drained orderly.oneFlush
      orderly.flushing orderly.idle (fun sending => by cases sending)
    simp [EventRelay.line, waits, isStream, SendLoop.sends, SendLoop.tookItem]
  · exact orderly

theorem Orderly.loopHandles (positive : 0 < relay.capacity) :
    Orderly relay.loopHandles := by
  have ready (free : (relay.isConnected && !relay.isFlushing) = true) :
      relay.flushes = [] ∧ relay.ringBuffer = [] := by
    simp only [Bool.and_eq_true, Bool.not_eq_true'] at free
    refine ⟨?_, orderly.idle free.1 free.2⟩
    by_contra flushes
    rw [orderly.flushing.mpr flushes] at free
    cases free.2
  rw [EventRelay.loopHandles]
  split
  · rename_i event took
    split
    · rename_i free
      obtain ⟨noFlush, noRing⟩ := ready free
      refine orderly.shortened ?_ rfl orderly.received orderly.drained orderly.oneFlush
        orderly.flushing orderly.idle (fun _ => ⟨noFlush, noRing⟩)
      simp [EventRelay.line, took, noFlush, noRing, SendLoop.sends, SendLoop.tookItem]
    · rename_i busy
      obtain ⟨ring, lost, same, -, shorter⟩ := bufferEvent_eq positive event
      rw [same]
      refine orderly.shortened ?_ rfl orderly.received orderly.drained orderly.oneFlush
        orderly.flushing (fun isConnected isFlushing => ?_) (fun sending => by cases sending)
      · simpa [EventRelay.line, took, SendLoop.sends, SendLoop.tookItem, RelayItem.number]
          using shorter.append_right _
      · exact absurd (by simp [show relay.isConnected = true from isConnected,
          show relay.isFlushing = false from isFlushing]) busy
  · rename_i event took
    split
    · rename_i free
      obtain ⟨free, -⟩ := (Bool.and_eq_true _ _).mp free
      obtain ⟨noFlush, noRing⟩ := ready free
      refine orderly.shortened ?_ rfl orderly.received orderly.drained orderly.oneFlush
        orderly.flushing orderly.idle (fun _ => ⟨noFlush, noRing⟩)
      simp [EventRelay.line, took, noFlush, noRing, SendLoop.sends, SendLoop.tookItem]
    · refine orderly.shortened ?_ rfl orderly.received orderly.drained orderly.oneFlush
        orderly.flushing orderly.idle (fun sending => by cases sending)
      simp [EventRelay.line, took, SendLoop.sends, SendLoop.tookItem]
  · exact orderly

theorem Orderly.loopAnswered (delivered : Bool) :
    Orderly (relay.loopAnswered delivered) := by
  rw [EventRelay.loopAnswered]
  split
  · rename_i event sending
    have alone := orderly.alone (by rw [sending]; rfl)
    refine orderly.shortened ?_ rfl orderly.received orderly.drained orderly.oneFlush
      orderly.flushing orderly.idle (fun _ => alone)
    cases delivered <;>
      simp [EventRelay.line, sending, alone.1, SendLoop.sends, SendLoop.tookItem, RelayItem.number]
  · rename_i event sending
    have alone := orderly.alone (by rw [sending]; rfl)
    refine orderly.shortened ?_ rfl orderly.received orderly.drained orderly.oneFlush
      orderly.flushing orderly.idle (fun _ => alone)
    cases delivered <;>
      simp [EventRelay.line, sending, SendLoop.sends, SendLoop.tookItem]
  · exact orderly

theorem Orderly.loopResumes (positive : 0 < relay.capacity) :
    Orderly relay.loopResumes := by
  rw [EventRelay.loopResumes]
  split
  · rename_i item answered
    refine orderly.shortened ?_ rfl orderly.received orderly.drained orderly.oneFlush
      orderly.flushing orderly.idle (fun sending => by cases sending)
    simp [EventRelay.line, answered, SendLoop.sends, SendLoop.tookItem]
  · rename_i event answered
    obtain ⟨noFlush, noRing⟩ := orderly.alone (by rw [answered]; rfl)
    obtain ⟨ring, lost, same, -, shorter⟩ := bufferEvent_eq positive event
    rw [same]
    refine orderly.shortened ?_ rfl orderly.received orderly.drained orderly.oneFlush
      orderly.flushing (fun isConnected => by cases isConnected) (fun sending => by cases sending)
    rw [noRing, nil_append] at shorter
    simpa [EventRelay.line, answered, noRing, SendLoop.sends, SendLoop.tookItem, RelayItem.number]
      using shorter.append_right _
  · rename_i event answered
    refine orderly.shortened ?_ rfl orderly.received orderly.drained orderly.oneFlush
      orderly.flushing (fun isConnected => by cases isConnected) (fun sending => by cases sending)
    simp [EventRelay.line, answered, SendLoop.sends, SendLoop.tookItem]
  · exact orderly

theorem Orderly.flushAnswered (flush : Nat) (delivered : Bool) :
    Orderly (relay.flushAnswered flush delivered) := by
  rw [EventRelay.flushAnswered]
  split
  · rename_i event isFlush
    obtain ⟨rfl, only, rests⟩ := orderly.flush_alone isFlush
    refine orderly.shortened ?_ rfl orderly.received orderly.drained (by simp [only])
      (by simpa [only] using orderly.flushing) orderly.idle fun sending => ?_
    · cases delivered <;>
        simp [EventRelay.line, only, sends_of_not_inSend rests, Flush.holds]
    · rw [rests] at sending
      cases sending
  · exact orderly

theorem Orderly.flushResumes (positive : 0 < relay.capacity)
    (flush : Nat) : Orderly (relay.flushResumes flush) := by
  rw [EventRelay.flushResumes]
  split
  · rename_i event isFlush
    obtain ⟨rfl, only, rests⟩ := orderly.flush_alone isFlush
    have resting {p : Prop} (sending : relay.sendLoop.inSend = true) : p := by
      rw [rests] at sending
      cases sending
    split
    · rename_i next events _ isRing
      refine orderly.shortened ?_ rfl orderly.received orderly.drained (by simp [only])
        (by simpa [only] using orderly.flushing) (fun isConnected isFlushing => ?_) resting
      · simp [EventRelay.line, only, isRing, sends_of_not_inSend rests, Flush.holds]
      · have flushes := orderly.flushing.mpr (by simp [only])
        rw [show relay.isFlushing = false from isFlushing] at flushes
        cases flushes
    · rename_i ended
      refine orderly.shortened ?_ rfl orderly.received orderly.drained (by simp [only])
        (by simp [only]) (fun isConnected _ => ?_) resting
      · simp [EventRelay.line, only, Flush.holds]
      · cases ring : relay.ringBuffer with
        | nil => rfl
        | cons next events => exact absurd ring (ended next events isConnected)
  · rename_i event isFlush
    obtain ⟨rfl, only, rests⟩ := orderly.flush_alone isFlush
    obtain ⟨ring, lost, same, -, shorter⟩ := requeueFront_eq positive event
    rw [same]
    refine orderly.shortened ?_ rfl orderly.received orderly.drained (by simp [only])
      (by simp [only]) (fun isConnected => by cases isConnected) fun sending => ?_
    · simpa [EventRelay.line, only, sends_of_not_inSend rests, Flush.holds]
        using shorter.append_right _
    · rw [show relay.sendLoop.inSend = true from sending] at rests
      cases rests
  · exact orderly

theorem Orderly.next (phase : InPhase relay)
    (positive : 0 < relay.capacity) {step : RelayStep} (inTurn : InTurn relay step) :
    Orderly (relay.next step) := by
  have onActor {stretch : EventRelay} (kept : Orderly stretch) :
      Orderly (relay.onActor stretch) := by
    rw [EventRelay.onActor]
    split
    · exact kept
    · exact orderly
  cases step with
  | receive => exact orderly.receive phase inTurn
  | buffer call => exact orderly.buffer phase inTurn
  | activityBegan => exact orderly.activityBegan phase inTurn
  | start => exact orderly.start phase inTurn
  | connectionDidChange connected => exact onActor (orderly.connectionDidChange inTurn)
  | loopTakes => exact orderly.loopTakes
  | loopHandles => exact onActor (orderly.loopHandles positive)
  | loopAnswered delivered => exact orderly.loopAnswered delivered
  | loopResumes => exact onActor (orderly.loopResumes positive)
  | flushAnswered flush delivered => exact orderly.flushAnswered flush delivered
  | flushResumes flush => exact onActor (orderly.flushResumes positive flush)

theorem InTurn.noStraddling (step : RelayStep) :
    NoStraddling relay step :=
  fun _ installed => orderly.received (by simp [installed])

end

end Steps

theorem orderly_initial (capacity : Nat) : Orderly (.initial capacity) := by
  constructor <;> simp [EventRelay.initial, EventRelay.line, SendLoop.sends, SendLoop.tookItem,
    SendLoop.inSend, Starting.holds]

/-- The sent dwells are in order, and while an in-progress report is being sent every dwell handed
over before it has been sent or dropped. -/
structure InOrder (relay : EventRelay) : Prop where
  sent : relay.sent.Pairwise (· < ·)
  reported : ∀ report, relay.sendLoop = .sending (.began report) →
    ∀ event ∈ relay.handed, event < report → event ∈ relay.sent ∨ event ∈ relay.dropped

theorem Orderly.inOrder {relay : EventRelay} (orderly : Orderly relay)
    (accounted : Accounted relay) : InOrder relay := by
  constructor
  · refine orderly.ascending.sublist ?_
    simp only [EventRelay.line, append_assoc]
    exact sublist_append_left _ _
  · intro report sending event isHanded before
    obtain ⟨noFlush, noRing⟩ := orderly.alone (by rw [sending]; rfl)
    have inPlace : event ∈ relay.places := by
      rw [← count_pos_iff, accounted.each, count_pos_iff]
      exact isHanded
    have ascending := orderly.ascending
    simp only [EventRelay.line, noFlush, noRing, sending, SendLoop.sends, SendLoop.tookItem,
      RelayItem.number, flatMap_nil, append_nil, append_assoc,
      singleton_append] at ascending
    have later := (pairwise_cons.mp (pairwise_append.mp ascending).2.1).1
    have notLater {events : List Nat} (isEvent : event ∈ events)
        (behind : ∀ other ∈ events, report < other) {p : Prop} : p :=
      absurd (behind event isEvent) (by omega)
    simp only [EventRelay.places, noFlush, noRing, sending, SendLoop.holds,
      RelayItem.closedEvents, flatMap_nil, append_nil, mem_append] at inPlace
    rcases inPlace with ((((receiving | buffered) | drained) | streamed) | sent) | dropped
    · exact notLater receiving fun other member => later other (by simp [member])
    · exact notLater buffered fun other member => later other (by simp [member])
    · exact notLater drained fun other member => later other (by simp [member])
    · obtain ⟨item, isItem, isEvent⟩ := mem_flatMap.mp streamed
      have number : item.number = event := by
        cases item with
        | closed other => exact (mem_singleton.mp isEvent).symm
        | began other => cases isEvent
      have behind := later item.number (by simp [mem_map_of_mem isItem])
      omega
    · exact .inl sent
    · exact .inr dropped

/-- The relay keeps the order in every run in which no call comes between the sections of `start`
and no connection comes up while a flush is under way. -/
theorem relay_keeps_order_unless_overlapped (capacity : Nat) (positive : 0 < capacity)
    (steps : List RelayStep) (inTurn : relayMachine.Meets InTurn (.initial capacity) steps) :
    InOrder (relayMachine.run (.initial capacity) steps) := by
  have keeps : ∀ relay step, ((Orderly relay ∧ InPhase relay) ∧ Accounted relay) →
      InTurn relay step → (Orderly (relayMachine.next relay step) ∧
        InPhase (relayMachine.next relay step)) ∧ Accounted (relayMachine.next relay step) := by
    intro relay step holds inTurn
    obtain ⟨⟨orderly, phase⟩, accounted⟩ := holds
    exact ⟨⟨orderly.next phase accounted.positive inTurn,
      phase.next (InTurn.noStraddling orderly step)⟩, accounted.next phase step⟩
  obtain ⟨⟨orderly, -⟩, accounted⟩ := relayMachine.invariant_run keeps
    ⟨⟨orderly_initial capacity, inPhase_initial capacity⟩, accounted_initial positive⟩ inTurn
  exact orderly.inOrder accounted

/-- A dwell comes before the start, one after it, and each is sent once. -/
theorem started_relay_keeps_order : InOrder (relayMachine.run (.initial 500) startedSteps) :=
  relay_keeps_order_unless_overlapped 500 (by decide) startedSteps (by decide)

/-- Two dwells wait in the ring.  A connection comes up and sends the first; it goes down and
comes up again, and the second flush delivers the second dwell before the first send fails and
the first dwell goes out behind it. -/
def reconnectingSteps : List RelayStep :=
  [.start, .start, .start, .start, .receive, .receive, .loopTakes, .loopHandles, .loopTakes,
    .loopHandles, .connectionDidChange true, .connectionDidChange false,
    .connectionDidChange true, .flushAnswered 1 true, .flushResumes 1, .flushAnswered 0 false,
    .flushResumes 0, .connectionDidChange true, .flushAnswered 0 true]

/-- The second dwell is delivered first. -/
theorem reconnecting_relay_reverses_order :
    ¬InOrder (relayMachine.run (.initial 500) reconnectingSteps) := by
  intro inOrder
  have sent : (relayMachine.run (.initial 500) reconnectingSteps).sent = [1, 0] := by decide
  have ascending := inOrder.sent
  rw [sent] at ascending
  exact absurd ascending (by decide)

end Velvt.Relay
