import Velvt.StepMachine
import Velvt.TaskPrograms
import Velvt.UploadStore

/-!
# The upload tasks

The tasks of the upload path: live ingestion, the flushes, "Send all now", the passes of the retry
loop and the recovery at startup.  They call the assembler, the tables and the network one call at
a time, and any other task may run in between; a POST is two calls.
-/

namespace Velvt

open StepMachine TaskPrograms

inductive BatchUploadError
  | transport
  | authenticationRequired
  deriving DecidableEq

inductive UploadOutcome
  | accepted
  | duplicate
  | rawFieldRejected (message : String)
  | rateLimited (retryAfter : Option String)
  | retryable (code : String)
  deriving DecidableEq

inductive CoordinatorError
  | upload (error : BatchUploadError)
  | persistence (error : PersistenceError)

/-- What a task can call, with the type of the answer. -/
inductive UploadCall : Type → Type
  | push (event : BatchEventPayload) (now : Int) : UploadCall (Option BatchPayload)
  | flushDue (now : Int) : UploadCall (Option BatchPayload)
  | flushShutdown : UploadCall (Option BatchPayload)
  | requeue (batch : BatchPayload) : UploadCall Unit
  | lockFlushGate : UploadCall Unit
  | unlockFlushGate : UploadCall Unit
  | insertBatchWithEvents (batchId : String) (events : List BatchEvent) :
      UploadCall (Except PersistenceError Unit)
  | markSent (batchId : String) : UploadCall (Except PersistenceError Unit)
  | markFailed (batchId : String) (nextAttemptAt : Int) (errorCode : String) :
      UploadCall (Except PersistenceError Unit)
  | markPendingRetry (batchId : String) (nextAttemptAt : Int) (errorCode : String) :
      UploadCall (Except PersistenceError Unit)
  | markRejected (batchId errorCode : String) : UploadCall (Except PersistenceError Unit)
  | discardBatch (batchId : String) : UploadCall (Except PersistenceError Unit)
  | resumableBatches (now : Option Int) : UploadCall (Except PersistenceError (List UploadBatch))
  | hostBackoffUntil : UploadCall (Except PersistenceError (Option Int))
  | hostBackoffAttempt : UploadCall (Except PersistenceError Nat)
  | setHostBackoff (attemptCount : Nat) (nextAttemptAt : Int) :
      UploadCall (Except PersistenceError Unit)
  | clearHostBackoff : UploadCall (Except PersistenceError Unit)
  | insertRawEvent (entry : RawEventEntry) : UploadCall (Except PersistenceError Unit)
  | unbatchedEvents (limit : Nat) : UploadCall (Except PersistenceError (List RawEventEntry))
  | utcNow : UploadCall Int
  /-- The delay of the host's backoff, which is jittered. -/
  | nextDelay (attempt : Nat) (retryAfter : Option String) : UploadCall Int
  | send (batch : BatchPayload) : UploadCall Unit
  | receive (batch : BatchPayload) : UploadCall (Except BatchUploadError UploadOutcome)
  | alert (message : String) : UploadCall Unit
  /-- Startup is over: the router, the flushes and the sweeps are wired up. -/
  | serve : UploadCall Unit

/-- What the tasks share: the assembler, the flush gate, the tables, and the network with
everything it has carried. -/
structure UploadShared where
  assembler : BatchAssembler
  flushGateLocked : Bool
  serving : Bool
  store : UploadStore
  /-- The requests that have left, oldest first. -/
  posted : List BatchPayload
  /-- The answers that have arrived, oldest first. -/
  answered : List (BatchPayload × Except BatchUploadError UploadOutcome)

/-- What the surroundings decide about one call. -/
structure UploadInput where
  now : Int
  delay : Int
  response : Except BatchUploadError UploadOutcome
  storeFails : Bool

namespace UploadShared

variable (input : UploadInput) (shared : UploadShared)

def command (result : Except PersistenceError UploadStore) :
    Option (Except PersistenceError Unit × UploadShared) :=
  if input.storeFails then
    some (.error .storage, shared)
  else
    match result with
    | .error error => some (.error error, shared)
    | .ok store => some (.ok (), { shared with store := store })

def query {Answer : Type} (answer : Answer) :
    Option (Except PersistenceError Answer × UploadShared) :=
  if input.storeFails then
    some (.error .storage, shared)
  else
    some (.ok answer, shared)

def assembling (result : Option BatchPayload × BatchAssembler) :
    Option (Option BatchPayload × UploadShared) :=
  some (result.1, { shared with assembler := result.2 })

end UploadShared

def performUpload (config : AssemblerConfig) : Handler UploadCall UploadShared UploadInput
  | _, _, shared, .push event now => shared.assembling (shared.assembler.push config event now)
  | _, _, shared, .flushDue now => shared.assembling (shared.assembler.flushDue config now)
  | _, _, shared, .flushShutdown => shared.assembling (shared.assembler.flushShutdown config)
  | _, _, shared, .requeue batch =>
    some ((), { shared with assembler := shared.assembler.requeue batch })
  | _, _, shared, .lockFlushGate =>
    if shared.flushGateLocked then none
    else some ((), { shared with flushGateLocked := true })
  | _, _, shared, .unlockFlushGate => some ((), { shared with flushGateLocked := false })
  | _, input, shared, .insertBatchWithEvents batchId events =>
    shared.command input (shared.store.insertBatchWithEvents batchId events input.now)
  | _, input, shared, .markSent batchId =>
    shared.command input (shared.store.markSent batchId input.now)
  | _, input, shared, .markFailed batchId nextAttemptAt errorCode =>
    shared.command input (shared.store.markFailed batchId nextAttemptAt errorCode)
  | _, input, shared, .markPendingRetry batchId nextAttemptAt errorCode =>
    shared.command input (shared.store.markPendingRetry batchId nextAttemptAt errorCode)
  | _, input, shared, .markRejected batchId errorCode =>
    shared.command input (shared.store.markRejected batchId errorCode)
  | _, input, shared, .discardBatch batchId =>
    shared.command input (shared.store.discardBatch batchId)
  | _, input, shared, .resumableBatches now =>
    shared.query input (shared.store.resumableBatches now)
  | _, input, shared, .hostBackoffUntil => shared.query input shared.store.hostBackoffUntil
  | _, input, shared, .hostBackoffAttempt => shared.query input shared.store.hostBackoffAttempt
  | _, input, shared, .setHostBackoff attemptCount nextAttemptAt =>
    shared.command input (.ok (shared.store.setHostBackoff attemptCount nextAttemptAt))
  | _, input, shared, .clearHostBackoff =>
    shared.command input (.ok shared.store.clearHostBackoff)
  | _, input, shared, .insertRawEvent entry =>
    shared.command input (shared.store.insertRawEvent entry input.now)
  | _, input, shared, .unbatchedEvents limit =>
    shared.query input (shared.store.unbatchedEvents limit)
  | _, input, shared, .utcNow => some (input.now, shared)
  | _, input, shared, .nextDelay _ _ => some (input.delay, shared)
  | _, _, shared, .send batch => some ((), { shared with posted := shared.posted ++ [batch] })
  | _, input, shared, .receive batch =>
    some (input.response, { shared with answered := shared.answered ++ [(batch, input.response)] })
  | _, _, shared, .alert _ => some ((), shared)
  | _, _, shared, .serve => some ((), { shared with serving := true })

/-- A task that may end in an error. -/
abbrev UploadTask := ExceptT CoordinatorError (Program UploadCall)

namespace UploadTask

variable {Answer : Type}

def repository (operation : UploadCall (Except PersistenceError Answer)) : UploadTask Answer :=
  ExceptT.mk do
    match ← Program.ask operation with
    | .ok answer => pure (.ok answer)
    | .error error => pure (.error (.persistence error))

def outside (operation : UploadCall Answer) : UploadTask Answer :=
  ExceptT.mk do
    let answer ← Program.ask operation
    pure (.ok answer)

end UploadTask

open UploadTask

/-- `Duration::minutes`, in nanoseconds. -/
def minutes (count : Int) : Int := Duration.seconds (count * 60)

/-- `KeepAllBatches`, the policy the coordinator is constructed with. -/
def shouldDiscard (_batch : UploadBatch) : Bool := false

def upload (batch : BatchPayload) : UploadTask (Except BatchUploadError UploadOutcome) := do
  outside (.send batch)
  outside (.receive batch)

def nextAttempt (retryAfter : Option String) : UploadTask Int := do
  let attempt ← repository .hostBackoffAttempt
  let delay ← outside (.nextDelay attempt retryAfter)
  let now ← outside .utcNow
  let nextAttemptAt := now + delay
  repository (.setHostBackoff (saturatingAdd attempt 1) nextAttemptAt)
  return nextAttemptAt

def scheduleNetworkRetry (batchId : String) : UploadTask Unit := do
  let nextAttemptAt ← nextAttempt none
  repository (.markPendingRetry batchId nextAttemptAt "transport")

def recordOutcome (batch : BatchPayload) : UploadOutcome → UploadTask Unit
  | .accepted | .duplicate => do
      repository (.markSent batch.batchId)
      repository .clearHostBackoff
  | .rawFieldRejected _ => do
      repository (.markRejected batch.batchId "raw_field_rejected")
      outside (.alert "Sensitive activity details were blocked before upload.")
  | .rateLimited retryAfter => do
      let nextAttemptAt ← nextAttempt retryAfter
      repository (.markFailed batch.batchId nextAttemptAt "rate_limited")
  | .retryable code => do
      let nextAttemptAt ← nextAttempt none
      repository (.markFailed batch.batchId nextAttemptAt code)

/-- While the host is backed off a batch is put off with it, unless the drain goes past
the backoff. -/
def heldByHostBackoff (batch : BatchPayload) : Bool → UploadTask Bool
  | false => return false
  | true => do
      match ← repository .hostBackoffUntil with
      | none => return false
      | some nextAttemptAt => do
          let now ← outside .utcNow
          if now < nextAttemptAt then do
            repository (.markFailed batch.batchId nextAttemptAt "host_backoff")
            return true
          else
            return false

def uploadBatchWithBackoff (batch : BatchPayload) (respectHostBackoff : Bool) :
    UploadTask Unit := do
  let held ← heldByHostBackoff batch respectHostBackoff
  if held then
    return ()
  else
    match ← upload batch with
    | .ok outcome => recordOutcome batch outcome
    | .error .transport => scheduleNetworkRetry batch.batchId
    | .error .authenticationRequired => do
        let now ← outside .utcNow
        repository (.markFailed batch.batchId (now + minutes 15) "authentication_required")

def uploadBatch (batch : BatchPayload) : UploadTask Unit :=
  uploadBatchWithBackoff batch true

def discardDisowned (batch : UploadBatch) : UploadTask Bool := do
  if shouldDiscard batch then do
    repository (.discardBatch batch.batchId)
    return true
  else
    return false

def batchEvent (event : BatchEventPayload) : BatchEvent where
  eventId := event.eventId
  stableId := event.stableId
  label := event.label
  category := event.category
  taxonomyVersion := event.taxonomyVersion
  classificationTier := event.classificationTier
  occurredAt := event.occurredAt
  durationSeconds := event.durationSeconds

def batchEventPayload (event : BatchEvent) : BatchEventPayload where
  eventId := event.eventId
  stableId := event.stableId
  label := event.label
  category := event.category
  taxonomyVersion := event.taxonomyVersion
  classificationTier := event.classificationTier
  occurredAt := event.occurredAt
  durationSeconds := event.durationSeconds

def payloadForQueuedBatch (batch : UploadBatch) (schemaVersion clientVersion : String) :
    BatchPayload :=
  let taxonomy := (batch.events.head?.map (·.taxonomyVersion)).getD ""
  let events := batch.events.map batchEventPayload
  BatchPayload.new batch.batchId schemaVersion clientVersion (uniqueAbstractionTypes events)
    taxonomy events

def uploadEach (schemaVersion clientVersion : String) (respectHostBackoff : Bool) :
    List UploadBatch → UploadTask Unit
  | [] => return ()
  | batch :: batches => do
      let discarded ← discardDisowned batch
      if discarded then
        uploadEach schemaVersion clientVersion respectHostBackoff batches
      else do
        uploadBatchWithBackoff (payloadForQueuedBatch batch schemaVersion clientVersion)
          respectHostBackoff
        uploadEach schemaVersion clientVersion respectHostBackoff batches

def flushAllPending (schemaVersion clientVersion : String) : UploadTask Nat := do
  let batches ← repository (.resumableBatches none)
  uploadEach schemaVersion clientVersion false batches
  return batches.length

def resumePending (schemaVersion clientVersion : String) : UploadTask Nat := do
  let now ← outside .utcNow
  let batches ← repository (.resumableBatches (some now))
  uploadEach schemaVersion clientVersion true batches
  return batches.length

def persistBatch (batch : BatchPayload) : UploadTask Unit :=
  repository (.insertBatchWithEvents batch.batchId (batch.events.map batchEvent))

section Runtime

variable (serviceVersion : String)

def persistOrRequeue (batch : BatchPayload) : UploadTask Unit :=
  tryCatch (persistBatch batch) fun error => do
    outside (.requeue batch)
    throw error

def submitWithInnerReleased (batch : BatchPayload) : UploadTask Unit := do
  persistOrRequeue batch
  uploadBatch batch

def submitTaken : Option BatchPayload → UploadTask Bool
  | none => return false
  | some batch => do
      submitWithInnerReleased batch
      return true

def ingest (eventId : String) (event : AbstractedEvent) (durationSeconds : Nat) (now : Int) :
    UploadTask Unit := do
  let batch ← outside (.push (BatchEventPayload.fromAbstracted eventId event durationSeconds) now)
  let _ ← submitTaken batch
  return ()

def flushDue (now : Int) : UploadTask Bool := do
  let batch ← outside (.flushDue now)
  submitTaken batch

def flushShutdown : UploadTask Bool := do
  let batch ← outside .flushShutdown
  submitTaken batch

/-- The guard of the flush gate is dropped wherever the section ends. -/
def withFlushGate {Answer : Type} (section_ : UploadTask Answer) : UploadTask Answer :=
  ExceptT.mk do
    Program.ask .lockFlushGate
    let result ← section_.run
    Program.ask .unlockFlushGate
    pure result

def flushNow : UploadTask Bool :=
  withFlushGate do
    match ← outside .flushShutdown with
    | some batch => do
        persistOrRequeue batch
        let _ ← flushAllPending "1" serviceVersion
        return true
    | none => do
        let _ ← flushAllPending "1" serviceVersion
        return false

def recoveredPayload (entry : RawEventEntry) : BatchEventPayload where
  eventId := entry.eventId
  stableId := entry.stableId
  label := entry.label
  category := entry.category
  taxonomyVersion := entry.taxonomyVersion
  classificationTier := entry.classificationTier
  occurredAt := entry.occurredAt
  durationSeconds := entry.durationSeconds

def pushEach (now : Int) : List RawEventEntry → UploadTask Unit
  | [] => return ()
  | entry :: entries => do
      let batch ← outside (.push (recoveredPayload entry) now)
      let _ ← submitTaken batch
      pushEach now entries

/-- Queues the events again that never reached a batch, oldest first. -/
def recoverUnbatched (limit : Nat) (now : Int) : UploadTask Nat := do
  let pending ← repository (.unbatchedEvents limit)
  pushEach now pending.reverse
  return pending.length

end Runtime

def detached {Answer : Type} (task : UploadTask Answer) : Program UploadCall Unit := do
  let _ ← task.run
  pure ()

/-- What the router does with an observed event, from the row it writes on. -/
def handleRawEvent (eventId : String) (event : AbstractedEvent) (durationSeconds : Nat)
    (uploadEligible : Bool) : Program UploadCall Unit := do
  let entry : RawEventEntry :=
    { eventId := eventId
      stableId := event.stableId
      label := event.label
      category := event.category
      taxonomyVersion := event.taxonomyVersion
      classificationTier := event.classificationTier
      occurredAt := event.occurredAt
      durationSeconds := durationSeconds
      uploadEligible := uploadEligible }
  match ← Program.ask (.insertRawEvent entry) with
  | .error _ => pure ()
  | .ok () =>
    if uploadEligible then do
      let now ← Program.ask .utcNow
      detached (ingest eventId event durationSeconds now)
    else
      pure ()

def startup (limit : Nat) (now : Int) : Program UploadCall Unit := do
  detached (recoverUnbatched limit now)
  Program.ask .serve

/-- The sweeps of the retention scheduler. -/
inductive UploadSweep
  | expiredRawEvents
  | sentBatches
  | rejectedBatches
  | staleBatches

def UploadStore.sweep (store : UploadStore) (cutoff : Int) (limit : Nat)
    (picked : List String) : UploadSweep → UploadStore
  | .expiredRawEvents => store.deleteExpiredBatch cutoff limit picked
  | .sentBatches => store.deleteSentBatch cutoff limit picked
  | .rejectedBatches => store.deleteRejectedBatch cutoff limit picked
  | .staleBatches => store.deleteStaleQueuedBatch cutoff limit picked

inductive UploadOperation
  | rawEvent (eventId : String) (event : AbstractedEvent) (durationSeconds : Nat)
      (uploadEligible : Bool)
  | flushDue (now : Int)
  | flushNow
  | flushShutdown
  /-- A pass of the retry loop; the first one is the resume at startup. -/
  | resumePending
  /-- One task makes its next call. -/
  | advance (task : Nat)
  | sweep (kind : UploadSweep) (cutoff : Int) (limit : Nat) (picked : List String)
  /-- The process ends at any point, and starts again. -/
  | restart (limit : Nat) (now : Int)

abbrev UploadWorld := World UploadCall UploadShared

namespace UploadWorld

def opened : UploadWorld where
  shared :=
    { assembler := BatchAssembler.empty
      flushGateLocked := false
      serving := true
      store := UploadStore.empty
      posted := []
      answered := [] }
  tasks := []

variable (config : AssemblerConfig) (world : UploadWorld)

/-- The task that an operation starts, and whether it has to wait for startup. -/
def begun : UploadOperation → Option (Bool × Program UploadCall Unit)
  | .rawEvent eventId event durationSeconds uploadEligible =>
    some (true, handleRawEvent eventId event durationSeconds uploadEligible)
  | .flushDue now => some (true, detached (flushDue now))
  | .flushNow => some (true, detached (flushNow config.serviceVersion))
  | .flushShutdown => some (true, detached flushShutdown)
  | .resumePending => some (false, detached (resumePending "1" config.serviceVersion))
  | _ => none

/-- What the end of the process leaves: the tables, and what the network has carried. -/
def stopped : UploadWorld where
  shared :=
    { world.shared with
      assembler := BatchAssembler.empty
      flushGateLocked := false
      serving := false }
  tasks := []

def next (operation : UploadOperation) (input : UploadInput) : UploadWorld :=
  match operation with
  | .advance task => World.advance (performUpload config) world task input
  | .sweep kind cutoff limit picked =>
    if world.shared.serving then
      { world with
        shared := { world.shared with
          store := world.shared.store.sweep cutoff limit picked kind } }
    else
      world
  | .restart limit now =>
    World.start (performUpload config) world.stopped (startup limit now) input
  | operation =>
    match begun config operation with
    | some (waits, program) =>
      if waits && !world.shared.serving then world
      else World.start (performUpload config) world program input
    | none => world

/-- What an operation does: nothing, a sweep, one step of a task, or the first step of a new
one. -/
inductive Stepped : UploadOperation → UploadInput → UploadWorld → Prop
  | refused {operation : UploadOperation} {input : UploadInput} : Stepped operation input world
  | swept {kind : UploadSweep} {cutoff : Int} {limit : Nat} {picked : List String}
      {input : UploadInput} (serving : world.shared.serving = true) :
      Stepped (.sweep kind cutoff limit picked) input
        { world with
          shared := { world.shared with
            store := world.shared.store.sweep cutoff limit picked kind } }
  | advanced {task : Nat} {input : UploadInput} :
      Stepped (.advance task) input (World.advance (performUpload config) world task input)
  | began {operation : UploadOperation} {input : UploadInput} {waits : Bool}
      {program : Program UploadCall Unit} (begins : begun config operation = some (waits, program))
      (admitted : waits = true → world.shared.serving = true) :
      Stepped operation input (World.start (performUpload config) world program input)
  | restarted {limit : Nat} {now : Int} {input : UploadInput} :
      Stepped (.restart limit now) input
        (World.start (performUpload config) world.stopped (startup limit now) input)

theorem next_stepped (operation : UploadOperation) (input : UploadInput) :
    Stepped config world operation input (world.next config operation input) := by
  have begins (operation : UploadOperation) {waits : Bool} {program : Program UploadCall Unit}
      (isBegun : begun config operation = some (waits, program)) :
      Stepped config world operation input (if waits && !world.shared.serving then world
          else World.start (performUpload config) world program input) := by
    split
    · exact .refused
    next admitted =>
      refine .began isBegun fun isWaiting => ?_
      simpa [isWaiting] using admitted
  cases operation with
  | advance task => exact .advanced
  | sweep kind cutoff limit picked =>
    unfold next
    simp only
    split
    next serving => exact .swept serving
    next => exact .refused
  | restart limit now => exact .restarted
  | rawEvent eventId event durationSeconds uploadEligible =>
    exact begins (.rawEvent eventId event durationSeconds uploadEligible) rfl
  | flushDue now => exact begins (.flushDue now) rfl
  | flushNow => exact begins .flushNow rfl
  | flushShutdown => exact begins .flushShutdown rfl
  | resumePending => exact begins .resumePending rfl

end UploadWorld

def uploadMachine (config : AssemblerConfig) :
    Machine UploadWorld (UploadOperation × UploadInput) Unit where
  step world operation := ((), world.next config operation.1 operation.2)

end Velvt
