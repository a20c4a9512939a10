import Velvt.StepMachine

/-!
# The client of the local service

`UnixSocketIPCClient` is an actor.  Its calls and loops are tasks that give the actor up at every
`await`, and between two of them any other task may run.  A step of the machine is the work of one
task from one `await` to the next.
-/

namespace Velvt.Ipc

open StepMachine

inductive ConnectionStatus
  | disconnected
  | connecting
  | handshaking
  | connected
  | reconnecting (attempt : Nat)
  deriving DecidableEq

/-- How an attempt fails, as far as its callers tell the errors apart. -/
inductive IpcFailure
  | cancelled
  | versionMismatch
  | failed
  deriving DecidableEq

/-- A frame as the decoder reads it. -/
inductive Frame
  | serverHello
  | acknowledged
  | versionMismatch
  | other
  | undecodable
  deriving DecidableEq

/-- What an `await` comes back with. -/
inductive Arrival
  | done
  | frame (frame : Frame)
  | thrown (isCancellation : Bool)
  deriving DecidableEq

/-- Where `connectOnce` waits, and on which transport. -/
inductive AttemptStage
  /-- The child task has not begun. -/
  | starting
  | opening (transport : Nat)
  | awaitingHello (transport : Nat)
  | sendingHello (transport : Nat)
  | awaitingReply (transport : Nat)
  | finished (result : Except IpcFailure Unit)
  deriving DecidableEq

/-- The task group of `connectOnceWithTimeout`. -/
structure Attempt where
  stage : AttemptStage
  /-- The error of the timeout, where it has come before the end of `connectOnce`. -/
  timeout : Option IpcFailure
  deriving DecidableEq

def Attempt.new : Attempt where
  stage := .starting
  timeout := none

/-- Where a task waits. -/
inductive TaskStage
  /-- `connect`, in `connectOnceWithTimeout`. -/
  | connecting (attempt : Attempt)
  /-- `connect`, in the `closeTransport` of a `catch`. -/
  | connectClosing (failure : IpcFailure)
  | receiveStarting
  | receiving (transport : Nat)
  /-- `handleConnectionLoss`, in `detachActiveTransport`. -/
  | losing
  | reconnectStarting
  | sleeping (attempt : Nat)
  /-- `reconnect`, in `connectOnceWithTimeout`. -/
  | reconnecting (number : Nat) (attempt : Attempt)
  /-- `reconnect`, in the `closeTransport` of a `catch`. -/
  | reconnectClosing (number : Nat) (failure : IpcFailure)
  /-- `stop`, in `closeTransport`; `overtaken` when `connect` was called since it began. -/
  | stopping (overtaken : Bool)
  | sending
  /-- `finishSend`, as it closes the transport that was left to it. -/
  | closingDeferred
  | finished
  deriving DecidableEq

structure ClientTask where
  stage : TaskStage
  isCancelled : Bool
  deriving DecidableEq

/-- `UnixSocketIPCClient`.  Transports are numbered in the order they are made, and tasks by their
place in the list of all tasks. -/
structure IpcClient where
  connectionState : ConnectionStatus
  transport : Option Nat
  receiveTask : Option Nat
  reconnectTask : Option Nat
  inFlightSendCount : Nat
  deferredCloseTransport : Option Nat
  stopped : Bool
  tasks : List ClientTask
  transportsMade : Nat
  /-- The transports whose handshake was acknowledged. -/
  acknowledged : List Nat
  /-- The transports the client has told to close. -/
  closed : List Nat
  /-- A disconnect has finished, and `connect` was not called since it began. -/
  isDisconnected : Bool

namespace IpcClient

def initial : IpcClient where
  connectionState := .disconnected
  transport := none
  receiveTask := none
  reconnectTask := none
  inFlightSendCount := 0
  deferredCloseTransport := none
  stopped := true
  tasks := []
  transportsMade := 0
  acknowledged := []
  closed := []
  isDisconnected := false

variable (client : IpcClient)

def publish (status : ConnectionStatus) : IpcClient :=
  { client with connectionState := status }

def cancel (task : Option Nat) : IpcClient :=
  { client with
    tasks :=
      match task with
      | none => client.tasks
      | some index => client.tasks.modify index fun task => { task with isCancelled := true } }

/-- The task goes on to its next `await`. -/
def waitAt (index : Nat) (stage : TaskStage) : IpcClient :=
  { client with tasks := client.tasks.modify index fun task => { task with stage := stage } }

def spawn (stage : TaskStage) : IpcClient :=
  { client with tasks := client.tasks ++ [{ stage := stage, isCancelled := false }] }

def close (transport : Nat) : IpcClient :=
  { client with closed := transport :: client.closed }

def startReceiveLoop : IpcClient :=
  let client := client.cancel client.receiveTask
  { client.spawn .receiveStarting with receiveTask := some client.tasks.length }

/-- The end of `handleConnectionLoss`. -/
def startReconnect : IpcClient :=
  { client.spawn .reconnectStarting with reconnectTask := some client.tasks.length }

/-- `handleConnectionLoss`, the last thing the task does. -/
def handleConnectionLoss (index : Nat) : IpcClient :=
  if client.stopped = false ∧ client.reconnectTask = none then
    match client.transport with
    | none => (client.waitAt index .finished).startReconnect
    | some activeTransport =>
      let client := { client with transport := none }
      if 0 < client.inFlightSendCount then
        let client := { client with deferredCloseTransport := some activeTransport }
        (client.waitAt index .finished).startReconnect
      else
        (client.close activeTransport).waitAt index .losing
  else
    client.waitAt index .finished

/-- The head of the loop of `reconnect`. -/
def reconnectLoop (index number : Nat) (isCancelled : Bool) : IpcClient :=
  if client.stopped = false ∧ isCancelled = false then
    (client.publish (.reconnecting number)).waitAt index (.sleeping number)
  else
    { client.waitAt index .finished with reconnectTask := none }

/-- The head of the loop of `startReceiveLoop`. -/
def receiveLoop (index : Nat) (isCancelled : Bool) : IpcClient :=
  match isCancelled, client.transport with
  | false, some transport => client.waitAt index (.receiving transport)
  | _, _ => client.waitAt index .finished

/-- `closeTransport`, up to its `await` if there is a transport to close. -/
def closeTransport (index : Nat) (waiting : TaskStage) (closedTransport : IpcClient → IpcClient) :
    IpcClient :=
  match client.transport with
  | none => closedTransport client
  | some transport => (client.close transport).waitAt index waiting

/-- `connect`, once the transport of its attempt is closed. -/
def connectClosed (index : Nat) (failure : IpcFailure) : IpcClient :=
  let client := { client with transport := none }
  if failure = .versionMismatch then
    (client.publish .disconnected).waitAt index .finished
  else
    client.handleConnectionLoss index

/-- `reconnect`, once the transport of its attempt is closed. -/
def reconnectClosed (index number : Nat) (failure : IpcFailure) (isCancelled : Bool) :
    IpcClient :=
  let client := { client with transport := none }
  if failure = .versionMismatch then
    { (client.publish .disconnected).waitAt index .finished with reconnectTask := none }
  else
    client.reconnectLoop index (number + 1) isCancelled

/-- `stop`, once the transport is closed. -/
def stopClosed (overtaken : Bool) : IpcClient :=
  { client.publish .disconnected with
    transport := none
    isDisconnected := client.isDisconnected || !overtaken }

/-- `connectOnce` up to its next `await`; `waiting` says which task has the attempt. -/
def advanceAttempt (index : Nat) (attempt : Attempt) (waiting : Attempt → TaskStage)
    (arrival : Arrival) : IpcClient :=
  let goesOn (client : IpcClient) (stage : AttemptStage) : IpcClient :=
    client.waitAt index (waiting { attempt with stage := stage })
  match attempt.stage, arrival with
  | .starting, _ =>
    let nextTransport := client.transportsMade
    let client := client.publish .connecting
    goesOn { client with transport := some nextTransport, transportsMade := nextTransport + 1 }
      (.opening nextTransport)
  | .opening transport, .done =>
    goesOn (client.publish .handshaking) (.awaitingHello transport)
  | .awaitingHello transport, .frame .serverHello => goesOn client (.sendingHello transport)
  | .awaitingHello _, .frame _ => goesOn client (.finished (.error .failed))
  | .sendingHello transport, .done => goesOn client (.awaitingReply transport)
  | .awaitingReply transport, .frame .acknowledged =>
    let client := client.publish .connected
    goesOn { client with acknowledged := transport :: client.acknowledged } (.finished (.ok ()))
  | .awaitingReply _, .frame .versionMismatch =>
    goesOn client (.finished (.error .versionMismatch))
  | .awaitingReply _, .frame _ => goesOn client (.finished (.error .failed))
  | .opening _, .thrown isCancellation | .awaitingHello _, .thrown isCancellation
  | .sendingHello _, .thrown isCancellation | .awaitingReply _, .thrown isCancellation =>
    goesOn client (.finished (.error (if isCancellation then .cancelled else .failed)))
  | _, _ => client

end IpcClient

/-- What `connectOnceWithTimeout` comes back with, once `connectOnce` has ended. -/
def Attempt.result (attempt : Attempt) (ended : Except IpcFailure Unit) :
    Except IpcFailure Unit :=
  match attempt.timeout with
  | some failure => .error failure
  | none => ended

namespace IpcClient

variable (client : IpcClient)

/-- `connect`, once its attempt has ended. -/
def connectEnded (index : Nat) : Except IpcFailure Unit → IpcClient
  | .ok () => (client.waitAt index .finished).startReceiveLoop
  | .error failure =>
    client.closeTransport index (.connectClosing failure) (·.connectClosed index failure)

/-- `reconnect`, once its attempt has ended. -/
def reconnectEnded (index number : Nat) (isCancelled : Bool) : Except IpcFailure Unit → IpcClient
  | .ok () =>
    { client.waitAt index .finished with reconnectTask := none }.startReceiveLoop
  | .error .cancelled => { client.waitAt index .finished with reconnectTask := none }
  | .error failure =>
    client.closeTransport index (.reconnectClosing number failure)
      (·.reconnectClosed index number failure isCancelled)

def finishSend (index : Nat) : IpcClient :=
  let client := { client with inFlightSendCount := client.inFlightSendCount - 1 }
  match client.inFlightSendCount, client.deferredCloseTransport with
  | 0, some transport =>
    { (client.close transport).waitAt index .closingDeferred with
      deferredCloseTransport := none }
  | _, _ => client.waitAt index .finished

/-- One task goes on, from what its `await` comes back with. -/
def advanceTask (index : Nat) (task : ClientTask) (arrival : Arrival) : IpcClient :=
  match task.stage, arrival with
  | .connecting attempt, _ =>
    match attempt.stage with
    | .finished ended => client.connectEnded index (attempt.result ended)
    | _ => client.advanceAttempt index attempt .connecting arrival
  | .connectClosing failure, _ => client.connectClosed index failure
  | .receiveStarting, _ => client.receiveLoop index task.isCancelled
  | .receiving _, .frame .undecodable => client.handleConnectionLoss index
  | .receiving _, .frame _ => client.receiveLoop index task.isCancelled
  | .receiving _, .thrown true => client.waitAt index .finished
  | .receiving _, .thrown false => client.handleConnectionLoss index
  | .losing, _ => (client.waitAt index .finished).startReconnect
  | .reconnectStarting, _ => client.reconnectLoop index 1 task.isCancelled
  | .sleeping number, .done => client.waitAt index (.reconnecting number .new)
  | .sleeping number, .thrown true => client.reconnectEnded index number task.isCancelled
      (.error .cancelled)
  | .sleeping number, .thrown false => client.reconnectEnded index number task.isCancelled
      (.error .failed)
  | .reconnecting number attempt, _ =>
    match attempt.stage with
    | .finished ended =>
      client.reconnectEnded index number task.isCancelled (attempt.result ended)
    | _ => client.advanceAttempt index attempt (.reconnecting number) arrival
  | .reconnectClosing number failure, _ =>
    client.reconnectClosed index number failure task.isCancelled
  | .stopping overtaken, _ => (client.stopClosed overtaken).waitAt index .finished
  | .sending, _ => client.finishSend index
  | .closingDeferred, _ => client.waitAt index .finished
  | _, _ => client

/-- The timeout of an attempt comes before its end; a cancelled task's timeout may throw
`CancellationError`. -/
def timeOut (index : Nat) (task : ClientTask) (isCancellation : Bool) : IpcClient :=
  let failure := if isCancellation && task.isCancelled then .cancelled else .failed
  let timedOut (attempt : Attempt) : Attempt :=
    match attempt.stage with
    | .finished _ => attempt
    | _ => { attempt with timeout := attempt.timeout.or (some failure) }
  match task.stage with
  | .connecting attempt => client.waitAt index (.connecting (timedOut attempt))
  | .reconnecting number attempt =>
    client.waitAt index (.reconnecting number (timedOut attempt))
  | _ => client

/-- A call of `connect` after a disconnect has begun. -/
def overtake (task : ClientTask) : ClientTask :=
  match task.stage with
  | .stopping _ => { task with stage := .stopping true }
  | _ => task

def connect : IpcClient :=
  let client := client.cancel client.reconnectTask
  let client := { client with
    stopped := false
    reconnectTask := none
    isDisconnected := false
    tasks := client.tasks.map overtake }
  client.spawn (.connecting .new)

/-- `stop`, the whole of `disconnect`. -/
def disconnect : IpcClient :=
  let client := (client.cancel client.receiveTask).cancel client.reconnectTask
  let client := { client with stopped := true, receiveTask := none, reconnectTask := none }
  match client.transport with
  | none => client.stopClosed false
  | some transport => (client.close transport).spawn (.stopping false)

def send : IpcClient :=
  match client.connectionState, client.transport with
  | .connected, some _ =>
    { client.spawn .sending with inFlightSendCount := client.inFlightSendCount + 1 }
  | _, _ => client

end IpcClient

inductive IpcEvent
  | connect
  | disconnect
  | send
  /-- An `await` of a task comes back. -/
  | advance (index : Nat) (arrival : Arrival)
  | timeOut (index : Nat) (isCancellation : Bool)

def ipcMachine : Machine IpcClient IpcEvent Unit where
  step client
    | .connect => ((), client.connect)
    | .disconnect => ((), client.disconnect)
    | .send => ((), client.send)
    | .advance index arrival =>
      ((), match client.tasks[index]? with
        | none => client
        | some task => client.advanceTask index task arrival)
    | .timeOut index isCancellation =>
      ((), match client.tasks[index]? with
        | none => client
        | some task => client.timeOut index task isCancellation)

end Velvt.Ipc
