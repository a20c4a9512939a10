import Mathlib.Data.List.Sort
import Velvt.UploadPayloads

/-!
# The upload tables

The tables `upload_batch`, `batch_event`, `upload_host_backoff` and, as far as the upload
path reads it, `raw_event_buffer`, with one function for each statement.  The events of a
batch are kept with its row, which deletes them with it.
-/

namespace Velvt

/-- `PersistenceError`: a row is missing, or the store refuses or fails. -/
inductive PersistenceError
  | notFound (entity : String)
  | storage

inductive UploadBatchStatus
  | pending
  | sent
  | failed
  | rejected
  | abandoned
  deriving DecidableEq

def uploadBatchAttemptCeiling : Nat := 288

/-- One row of `batch_event`. -/
structure BatchEvent where
  eventId : String
  stableId : String
  label : String
  category : String
  taxonomyVersion : String
  classificationTier : String
  occurredAt : Int
  durationSeconds : Nat
  deriving DecidableEq

/-- The `CHECK` constraints of `batch_event`. -/
def BatchEvent.Admissible (event : BatchEvent) : Prop :=
  event.eventId ≠ "" ∧ event.stableId ≠ "" ∧ event.label ≠ "" ∧ event.category ≠ "" ∧
    event.taxonomyVersion ≠ ""
  deriving Decidable

/-- One row of `upload_batch` with its events. -/
structure UploadBatchRow where
  batchId : String
  status : UploadBatchStatus
  sentAt : Option Int
  attemptCount : Nat
  nextAttemptAt : Int
  lastErrorCode : Option String
  createdAt : Int
  events : List BatchEvent
  deriving DecidableEq

/-- A batch that is read back from the store. -/
structure UploadBatch where
  batchId : String
  status : UploadBatchStatus
  attemptCount : Nat
  nextAttemptAt : Int
  events : List BatchEvent

/-- The row of `upload_host_backoff` of the one host. -/
structure HostBackoffRow where
  attemptCount : Nat
  nextAttemptAt : Int

/-- One observed event, as far as the upload path reads it. -/
structure RawEventEntry where
  eventId : String
  stableId : String
  label : String
  category : String
  taxonomyVersion : String
  classificationTier : String
  occurredAt : Int
  durationSeconds : Nat
  uploadEligible : Bool

/-- One row of `raw_event_buffer`. -/
structure RawEventBufferRow extends RawEventEntry where
  createdAt : Int

structure UploadStore where
  batches : List UploadBatchRow
  hostBackoff : Option HostBackoffRow
  rawEvents : List RawEventBufferRow

namespace UploadStore

def empty : UploadStore where
  batches := []
  hostBackoff := none
  rawEvents := []

variable (store : UploadStore)

/-- The rows of `batch_event`. -/
def batchEvents : List BatchEvent := store.batches.flatMap (·.events)

/-- `UPDATE upload_batch SET … WHERE batch_id = ?`. -/
def updateBatch (batchId : String) (change : UploadBatchRow → UploadBatchRow) :
    Except PersistenceError UploadStore :=
  if store.batches.any fun row => row.batchId == batchId then
    .ok { store with
      batches := store.batches.map fun row =>
        if row.batchId = batchId then change row else row }
  else
    .error (.notFound "upload_batch")

/-- Inserts a batch and all its events, or nothing.  `occurred_at` is stored in whole
seconds. -/
def insertBatchWithEvents (batchId : String) (events : List BatchEvent) (now : Int) :
    Except PersistenceError UploadStore :=
  if batchId = "" ∨ batchId ∈ store.batches.map (·.batchId) ∨
      (∃ event ∈ events, ¬ event.Admissible) ∨ ¬ (events.map (·.eventId)).Nodup ∨
      ∃ event ∈ events, event.eventId ∈ store.batchEvents.map (·.eventId) then
    .error .storage
  else
    .ok { store with
      batches := store.batches ++
        [{ batchId := batchId
           status := .pending
           sentAt := none
           attemptCount := 0
           nextAttemptAt := 0
           lastErrorCode := none
           createdAt := timestamp now
           events := events.map fun event =>
             { event with occurredAt := fromTimestamp (timestamp event.occurredAt) } }] }

def markSent (batchId : String) (now : Int) : Except PersistenceError UploadStore :=
  store.updateBatch batchId fun row =>
    { row with status := .sent, sentAt := some (timestamp now), lastErrorCode := none }

/-- Records one spent attempt and returns the batch to the retry queue, unless the attempt
was its last. -/
def updateBatchRetryState (retryStatus : UploadBatchStatus) (batchId : String)
    (nextAttemptAt : Int) (errorCode : String) : Except PersistenceError UploadStore :=
  store.updateBatch batchId fun row =>
    { row with
      status :=
        if uploadBatchAttemptCeiling ≤ row.attemptCount + 1 then .abandoned else retryStatus
      attemptCount := row.attemptCount + 1
      nextAttemptAt := nextAttemptAt
      lastErrorCode := some errorCode }

def markFailed (batchId : String) (nextAttemptAt : Int) (errorCode : String) :
    Except PersistenceError UploadStore :=
  store.updateBatchRetryState .failed batchId (timestamp nextAttemptAt) errorCode

def markPendingRetry (batchId : String) (nextAttemptAt : Int) (errorCode : String) :
    Except PersistenceError UploadStore :=
  store.updateBatchRetryState .pending batchId (timestamp nextAttemptAt) errorCode

def markRejected (batchId : String) (errorCode : String) :
    Except PersistenceError UploadStore :=
  store.updateBatch batchId fun row =>
    { row with status := .rejected, lastErrorCode := some errorCode }

def discardBatch (batchId : String) : Except PersistenceError UploadStore :=
  if store.batches.any fun row => row.batchId == batchId then
    .ok { store with batches := store.batches.filter fun row => row.batchId != batchId }
  else
    .error (.notFound "upload_batch")

/-- The queued batches that are due, oldest first.  `none` stands for the end of time. -/
def resumableBatches (now : Option Int) : List UploadBatch :=
  ((store.batches.filter fun row =>
      (row.status == .pending || row.status == .failed) &&
        now.all fun instant => row.nextAttemptAt ≤ timestamp instant).insertionSort
    fun first second => first.createdAt ≤ second.createdAt).map fun row =>
      { batchId := row.batchId
        status := row.status
        attemptCount := row.attemptCount
        nextAttemptAt := fromTimestamp row.nextAttemptAt
        events := row.events }

def hostBackoffAttempt : Nat := (store.hostBackoff.map (·.attemptCount)).getD 0

def hostBackoffUntil : Option Int :=
  store.hostBackoff.map fun row => fromTimestamp row.nextAttemptAt

def setHostBackoff (attemptCount : Nat) (nextAttemptAt : Int) : UploadStore :=
  { store with
    hostBackoff := some { attemptCount := attemptCount, nextAttemptAt := timestamp nextAttemptAt } }

def clearHostBackoff : UploadStore :=
  { store with hostBackoff := none }

/-- `INSERT INTO raw_event_buffer`. -/
def insertRawEvent (entry : RawEventEntry) (now : Int) : Except PersistenceError UploadStore :=
  if entry.eventId = "" ∨ entry.stableId = "" ∨ entry.label = "" ∨ entry.category = "" ∨
      entry.taxonomyVersion = "" ∨ entry.eventId ∈ store.rawEvents.map (·.eventId) then
    .error .storage
  else
    .ok { store with
      rawEvents := store.rawEvents ++
        [{ entry with
           occurredAt := fromTimestamp (timestamp entry.occurredAt)
           createdAt := timestamp now }] }

/-- An eligible row that has no `batch_event`. -/
def Unbatched (row : RawEventBufferRow) : Prop :=
  row.uploadEligible = true ∧ row.eventId ∉ store.batchEvents.map (·.eventId)
  deriving Decidable

def unbatchedEvents (limit : Nat) : List RawEventEntry :=
  (((store.rawEvents.filter fun row => decide (store.Unbatched row)).insertionSort
    fun first second => second.occurredAt ≤ first.occurredAt).take limit).map (·.toRawEventEntry)

/-- Deletes up to `limit` of the rows that a condition selects.  The statement leaves open
which: `picked` are the keys of the rows it finds first. -/
def deleteSome {Row : Type} (rows : List Row) (key : Row → String) (selected : Row → Bool)
    (limit : Nat) (picked : List String) : List Row :=
  rows.filter fun row => !(selected row && (picked.take limit).contains (key row))

/-- The raw-event sweep, which spares what the upload path still owes. -/
def deleteExpiredBatch (cutoff : Int) (limit : Nat) (picked : List String) : UploadStore :=
  { store with
    rawEvents := deleteSome store.rawEvents (·.eventId)
      (fun row => row.createdAt < timestamp cutoff && !decide (store.Unbatched row)) limit
      picked }

def deleteSentBatch (cutoff : Int) (limit : Nat) (picked : List String) : UploadStore :=
  { store with
    batches := deleteSome store.batches (·.batchId)
      (fun row => row.status == .sent &&
        row.sentAt.any fun sentAt => sentAt < timestamp cutoff) limit picked }

def deleteRejectedBatch (cutoff : Int) (limit : Nat) (picked : List String) : UploadStore :=
  { store with
    batches := deleteSome store.batches (·.batchId)
      (fun row => row.status == .rejected && row.createdAt < timestamp cutoff) limit picked }

def deleteStaleQueuedBatch (cutoff : Int) (limit : Nat) (picked : List String) :
    UploadStore :=
  { store with
    batches := deleteSome store.batches (·.batchId)
      (fun row => row.createdAt < timestamp cutoff) limit picked }

end UploadStore

end Velvt
