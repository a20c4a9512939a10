import Velvt.StepMachine

/-!
# The relay of the macOS client

`receive` may run on any thread and takes two locks one after the other; everything else shares the
actor, which is left at every send.  Each lock section and each stretch of the actor between two
awaits is one step.  A send is two: the client's answer, with which the message has been delivered
or not, and the moment at which the caller goes on.
-/

namespace Velvt.Relay

open StepMachine

inductive RelayItem
  /-- A dwell that has ended. -/
  | closed (event : Nat)
  /-- A dwell that has just begun. -/
  | began (event : Nat)

def RelayItem.number : RelayItem → Nat
  | .closed event => event
  | .began event => event

/-- Where `start` is. -/
inductive Starting
  | notStarted
  /-- The continuation is installed. -/
  | installed
  /-- The startup buffer takes no more events. -/
  | closedBuffer
  /-- The startup buffer is drained; these events still go into the stream. -/
  | enqueueing (events : List Nat)
  | running
  deriving DecidableEq

/-- Where the send loop is. -/
inductive SendLoop
  | waiting
  /-- An item has left the stream. -/
  | took (item : RelayItem)
  | sending (item : RelayItem)
  /-- The client has answered the send. -/
  | answered (item : RelayItem) (delivered : Bool)

/-- A flush in its send; the client may have answered. -/
structure Flush where
  event : Nat
  answer : Option Bool

structure EventRelay where
  capacity : Nat
  hasContinuation : Bool
  startupBuffer : List Nat
  startupDroppedEventCount : Nat
  acceptsStartupEvents : Bool
  stream : List RelayItem
  ringBuffer : List Nat
  droppedEventCount : Nat
  isConnected : Bool
  isFlushing : Bool
  starting : Starting
  sendLoop : SendLoop
  flushes : List Flush
  /-- Calls of `receive` that have found no continuation and not yet come to the buffer. -/
  receiving : List Nat
  /-- How many calls have handed over an event. -/
  calls : Nat
  /-- The closed dwells that were handed over. -/
  handed : List Nat
  /-- The closed dwells that were delivered. -/
  sent : List Nat
  /-- The in-progress reports that were delivered. -/
  reported : List Nat
  /-- The closed dwells that were added to a dropped count. -/
  dropped : List Nat
  /-- What was in the dropped count when it was reset. -/
  forgotten : Nat

inductive RelayStep
  /-- `receive` up to the end of its first lock section. -/
  | receive
  /-- The second lock section of a call under way. -/
  | buffer (call : Nat)
  | activityBegan
  /-- The next section of `start`. -/
  | start
  | connectionDidChange (connected : Bool)
  /-- The loop gets the next item of the stream. -/
  | loopTakes
  | loopHandles
  | loopAnswered (delivered : Bool)
  | loopResumes
  | flushAnswered (flush : Nat) (delivered : Bool)
  | flushResumes (flush : Nat)
  deriving DecidableEq

namespace EventRelay

variable (relay : EventRelay)

/-- `start` holds the actor from its first section to its last. -/
def actorIsFree : Bool :=
  match relay.starting with
  | .notStarted | .running => true
  | _ => false

/-- `bufferEvent`: a full ring loses its oldest event. -/
def bufferEvent (event : Nat) : EventRelay :=
  if relay.capacity ≤ relay.ringBuffer.length then
    { relay with
      ringBuffer := relay.ringBuffer.tail ++ [event]
      droppedEventCount := relay.droppedEventCount + 1
      dropped := relay.dropped ++ relay.ringBuffer.take 1 }
  else
    { relay with ringBuffer := relay.ringBuffer ++ [event] }

/-- `requeueFront`: a full ring loses its newest event. -/
def requeueFront (event : Nat) : EventRelay :=
  if relay.capacity ≤ relay.ringBuffer.length then
    { relay with
      ringBuffer := event :: relay.ringBuffer.dropLast
      droppedEventCount := relay.droppedEventCount + 1
      dropped := relay.dropped ++ relay.ringBuffer.getLast?.toList }
  else
    { relay with ringBuffer := event :: relay.ringBuffer }

/-- The first lock section of `receive`. -/
def receive : EventRelay :=
  let handedOver := { relay with
    calls := relay.calls + 1
    handed := relay.handed ++ [relay.calls] }
  if relay.hasContinuation then
    { handedOver with stream := relay.stream ++ [.closed relay.calls] }
  else
    { handedOver with receiving := relay.receiving ++ [relay.calls] }

/-- The second lock section of `receive`. -/
def buffer (call : Nat) : EventRelay :=
  match relay.receiving[call]? with
  | none => relay
  | some event =>
    let returned := { relay with receiving := relay.receiving.eraseIdx call }
    if !relay.acceptsStartupEvents then
      returned
    else if relay.capacity ≤ relay.startupBuffer.length then
      { returned with
        startupBuffer := relay.startupBuffer.tail ++ [event]
        startupDroppedEventCount := relay.startupDroppedEventCount + 1
        dropped := relay.dropped ++ relay.startupBuffer.take 1 }
    else
      { returned with startupBuffer := relay.startupBuffer ++ [event] }

def activityBegan : EventRelay :=
  let handedOver := { relay with calls := relay.calls + 1 }
  if relay.hasContinuation then
    { handedOver with stream := relay.stream ++ [.began relay.calls] }
  else
    handedOver

/-- The sections of `installContinuation`, `drainStartupBuffer` and `enqueue`. -/
def start : EventRelay :=
  match relay.starting with
  | .notStarted => { relay with starting := .installed, hasContinuation := true }
  | .installed => { relay with starting := .closedBuffer, acceptsStartupEvents := false }
  | .closedBuffer => { relay with
      starting := .enqueueing relay.startupBuffer
      startupBuffer := []
      droppedEventCount := relay.droppedEventCount + relay.startupDroppedEventCount
      startupDroppedEventCount := 0 }
  | .enqueueing [] => { relay with starting := .running }
  | .enqueueing (event :: events) => { relay with
      starting := .enqueueing events
      stream := relay.stream ++ [.closed event] }
  | .running => relay

/-- Up to the first send of `flushBuffer`. -/
def connectionDidChange (connected : Bool) : EventRelay :=
  if connected then
    let reset := { relay with
      isConnected := true
      droppedEventCount := 0
      forgotten := relay.forgotten + relay.droppedEventCount }
    match relay.ringBuffer with
    | [] => { reset with isFlushing := false }
    | event :: events => { reset with
        isFlushing := true
        ringBuffer := events
        flushes := relay.flushes ++ [{ event := event, answer := none }] }
  else
    { relay with isConnected := false }

def loopTakes : EventRelay :=
  match relay.starting, relay.sendLoop, relay.stream with
  | .running, .waiting, item :: items => { relay with sendLoop := .took item, stream := items }
  | _, _, _ => relay

/-- The body of the loop up to its send, with `sendLive`. -/
def loopHandles : EventRelay :=
  match relay.sendLoop with
  | .took (.closed event) =>
    if relay.isConnected && !relay.isFlushing then
      { relay with sendLoop := .sending (.closed event) }
    else
      { relay.bufferEvent event with sendLoop := .waiting }
  | .took (.began event) =>
    if relay.isConnected && !relay.isFlushing && relay.ringBuffer.isEmpty then
      { relay with sendLoop := .sending (.began event) }
    else
      { relay with sendLoop := .waiting }
  | _ => relay

def loopAnswered (delivered : Bool) : EventRelay :=
  match relay.sendLoop with
  | .sending (.closed event) => { relay with
      sendLoop := .answered (.closed event) delivered
      sent := if delivered then relay.sent ++ [event] else relay.sent }
  | .sending (.began event) => { relay with
      sendLoop := .answered (.began event) delivered
      reported := if delivered then relay.reported ++ [event] else relay.reported }
  | _ => relay

def loopResumes : EventRelay :=
  match relay.sendLoop with
  | .answered _ true => { relay with sendLoop := .waiting }
  | .answered (.closed event) false =>
    { relay.bufferEvent event with isConnected := false, sendLoop := .waiting }
  | .answered (.began _) false => { relay with isConnected := false, sendLoop := .waiting }
  | _ => relay

def flushAnswered (flush : Nat) (delivered : Bool) : EventRelay :=
  match relay.flushes[flush]? with
  | some ⟨event, none⟩ => { relay with
      flushes := relay.flushes.set flush { event := event, answer := some delivered }
      sent := if delivered then relay.sent ++ [event] else relay.sent }
  | _ => relay

def flushResumes (flush : Nat) : EventRelay :=
  match relay.flushes[flush]? with
  | some ⟨_, some true⟩ =>
    match relay.isConnected, relay.ringBuffer with
    | true, event :: events => { relay with
        ringBuffer := events
        flushes := relay.flushes.set flush { event := event, answer := none } }
    | _, _ => { relay with
        isFlushing := false
        flushes := relay.flushes.eraseIdx flush }
  | some ⟨event, some false⟩ => { relay.requeueFront event with
      isConnected := false
      isFlushing := false
      flushes := relay.flushes.eraseIdx flush }
  | _ => relay

def initial (capacity : Nat) : EventRelay where
  capacity := capacity
  hasContinuation := false
  startupBuffer := []
  startupDroppedEventCount := 0
  acceptsStartupEvents := true
  stream := []
  ringBuffer := []
  droppedEventCount := 0
  isConnected := false
  isFlushing := false
  starting := .notStarted
  sendLoop := .waiting
  flushes := []
  receiving := []
  calls := 0
  handed := []
  sent := []
  reported := []
  dropped := []
  forgotten := 0

/-- Whatever runs on the actor waits for `start` to leave it. -/
def onActor (stretch : EventRelay) : EventRelay := if relay.actorIsFree then stretch else relay

def next : RelayStep → EventRelay
  | .receive => relay.receive
  | .buffer call => relay.buffer call
  | .activityBegan => relay.activityBegan
  | .start => relay.start
  | .connectionDidChange connected => relay.onActor (relay.connectionDidChange connected)
  | .loopTakes => relay.loopTakes
  | .loopHandles => relay.onActor relay.loopHandles
  | .loopAnswered delivered => relay.loopAnswered delivered
  | .loopResumes => relay.onActor relay.loopResumes
  | .flushAnswered flush delivered => relay.flushAnswered flush delivered
  | .flushResumes flush => relay.onActor (relay.flushResumes flush)

end EventRelay

def relayMachine : Machine EventRelay RelayStep Unit where
  step relay step := ((), relay.next step)

end Velvt.Relay
