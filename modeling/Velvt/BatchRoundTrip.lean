import Velvt.AssemblerRuns
import Velvt.UploadTerminal

/-!
# A batch sent again

A batch is stored when it is closed, and a retry rebuilds its payload from the tables.
-/

namespace Velvt

open StepMachine List

section Statements

/-- The statements on the upload tables, all but the correction of an event. -/
inductive UploadStatement
  | insertBatchWithEvents (batchId : String) (events : List BatchEvent) (now : Int)
  | markSent (batchId : String) (now : Int)
  | markFailed (batchId : String) (nextAttemptAt : Int) (errorCode : String)
  | markPendingRetry (batchId : String) (nextAttemptAt : Int) (errorCode : String)
  | markRejected (batchId errorCode : String)
  | discardBatch (batchId : String)
  | setHostBackoff (attemptCount : Nat) (nextAttemptAt : Int)
  | clearHostBackoff
  | insertRawEvent (entry : RawEventEntry) (now : Int)
  | sweep (kind : UploadSweep) (cutoff : Int) (limit : Nat) (picked : List String)

def UploadStatement.execute (store : UploadStore) :
    UploadStatement → Except PersistenceError UploadStore
  | .insertBatchWithEvents batchId events now => store.insertBatchWithEvents batchId events now
  | .markSent batchId now => store.markSent batchId now
  | .markFailed batchId nextAttemptAt errorCode => store.markFailed batchId nextAttemptAt errorCode
  | .markPendingRetry batchId nextAttemptAt errorCode =>
    store.markPendingRetry batchId nextAttemptAt errorCode
  | .markRejected batchId errorCode => store.markRejected batchId errorCode
  | .discardBatch batchId => store.discardBatch batchId
  | .setHostBackoff attemptCount nextAttemptAt =>
    .ok (store.setHostBackoff attemptCount nextAttemptAt)
  | .clearHostBackoff => .ok store.clearHostBackoff
  | .insertRawEvent entry now => store.insertRawEvent entry now
  | .sweep kind cutoff limit picked => .ok (store.sweep cutoff limit picked kind)

/-- The statement stores a batch under an id. -/
def UploadStatement.Inserts (batchId : String) : UploadStatement → Prop
  | .insertBatchWithEvents other _ _ => other = batchId
  | _ => False

/-- The tables as a step machine: a statement that fails leaves them as they are. -/
def uploadTables : Machine UploadStore UploadStatement (Except PersistenceError Unit) where
  step store statement :=
    match statement.execute store with
    | .ok changed => (.ok (), changed)
    | .error error => (.error error, store)

/-- What is stored under a batch's id are these events. -/
def UploadStore.Holds (batchId : String) (events : List BatchEvent) (store : UploadStore) : Prop :=
  ∀ row ∈ store.batches, row.batchId = batchId → row.events = events

variable {store changed : UploadStore} {batchId : String} {events : List BatchEvent}

theorem UploadStore.Holds.updateBatch (holds : store.Holds batchId events) {other : String}
    {change : UploadBatchRow → UploadBatchRow}
    (updated : store.updateBatch other change = .ok changed)
    (keeps : ∀ row, (change row).batchId = row.batchId ∧ (change row).events = row.events) :
    changed.Holds batchId events := by
  simp only [UploadStore.updateBatch] at updated
  split at updated
  · cases updated
    intro row member same
    obtain ⟨before, isBefore, rfl⟩ := mem_map.mp member
    by_cases isOther : before.batchId = other
    · rw [if_pos isOther] at same ⊢
      rw [(keeps before).2]
      exact holds before isBefore ((keeps before).1.symm.trans same)
    · rw [if_neg isOther] at same ⊢
      exact holds before isBefore same
  · cases updated

theorem UploadStore.Holds.fewer (holds : store.Holds batchId events)
    (fewer : ∀ row ∈ changed.batches, row ∈ store.batches) : changed.Holds batchId events :=
  fun row member same => holds row (fewer row member) same

theorem mem_deleteSome {Row : Type} {rows : List Row} {key : Row → String}
    {selected : Row → Bool} {limit : Nat} {picked : List String} {row : Row}
    (member : row ∈ UploadStore.deleteSome rows key selected limit picked) : row ∈ rows :=
  (mem_filter.mp member).1

/-- No other statement touches the events of the batch. -/
theorem UploadStore.Holds.execute (holds : store.Holds batchId events)
    (statement : UploadStatement) (other : ¬ statement.Inserts batchId)
    (executed : statement.execute store = .ok changed) : changed.Holds batchId events := by
  cases statement with
  | insertBatchWithEvents otherId otherEvents now =>
    simp only [UploadStatement.execute, UploadStore.insertBatchWithEvents] at executed
    split at executed
    · cases executed
    · cases executed
      intro row member same
      rcases mem_append.mp member with before | isNew
      · exact holds row before same
      · rw [mem_singleton.mp isNew] at same
        exact absurd same other
  | markSent otherId now => exact holds.updateBatch executed fun _ => ⟨rfl, rfl⟩
  | markFailed otherId nextAttemptAt errorCode =>
    exact holds.updateBatch executed fun _ => ⟨rfl, rfl⟩
  | markPendingRetry otherId nextAttemptAt errorCode =>
    exact holds.updateBatch executed fun _ => ⟨rfl, rfl⟩
  | markRejected otherId errorCode => exact holds.updateBatch executed fun _ => ⟨rfl, rfl⟩
  | discardBatch otherId =>
    simp only [UploadStatement.execute, UploadStore.discardBatch] at executed
    split at executed
    · cases executed
      exact holds.fewer fun row member => (mem_filter.mp member).1
    · cases executed
  | setHostBackoff attemptCount nextAttemptAt =>
    cases executed
    exact holds
  | clearHostBackoff =>
    cases executed
    exact holds
  | insertRawEvent entry now =>
    simp only [UploadStatement.execute, UploadStore.insertRawEvent] at executed
    split at executed
    · cases executed
    · cases executed
      exact holds
  | sweep kind cutoff limit picked =>
    cases executed
    cases kind with
    | expiredRawEvents => exact holds
    | sentBatches => exact holds.fewer fun row member => mem_deleteSome member
    | rejectedBatches => exact holds.fewer fun row member => mem_deleteSome member
    | staleBatches => exact holds.fewer fun row member => mem_deleteSome member

theorem holds_run (holds : store.Holds batchId events) {statements : List UploadStatement}
    (others : ∀ statement ∈ statements, ¬ statement.Inserts batchId) :
    (uploadTables.run store statements).Holds batchId events := by
  have keeps : ∀ state statement, UploadStore.Holds batchId events state →
      ¬ UploadStatement.Inserts batchId statement →
        (uploadTables.next state statement).Holds batchId events := by
    intro state statement held other
    simp only [Machine.next, uploadTables]
    cases executed : statement.execute state with
    | ok changed => exact held.execute statement other executed
    | error error => exact held
  exact uploadTables.invariant_run keeps holds
    (uploadTables.meets_of_mem (fun statement member _ => others statement member) _)

end Statements

section RoundTrip

def BatchEventPayload.stored (event : BatchEventPayload) : BatchEventPayload :=
  { event with occurredAt := fromTimestamp (timestamp event.occurredAt) }

theorem BatchEventPayload.stored_eq_self_iff (event : BatchEventPayload) :
    event.stored = event ↔ WholeSecond event.occurredAt := by
  rw [wholeSecond_iff, stored]
  constructor
  · exact congrArg BatchEventPayload.occurredAt
  · intro whole
    rw [whole]

def storedEvents (events : List BatchEventPayload) : List BatchEvent :=
  (events.map batchEvent).map fun event =>
    { event with occurredAt := fromTimestamp (timestamp event.occurredAt) }

theorem map_batchEventPayload_storedEvents (events : List BatchEventPayload) :
    (storedEvents events).map batchEventPayload = events.map BatchEventPayload.stored := by
  simp only [storedEvents, map_map]
  rfl

variable {config : AssemblerConfig} {batch : BatchPayload} {store changed : UploadStore}

theorem holds_of_persisted {now : Int}
    (persisted : store.insertBatchWithEvents batch.batchId (batch.events.map batchEvent) now =
      .ok changed) :
    changed.Holds batch.batchId (storedEvents batch.events) ∧
      ∃ read ∈ changed.resumableBatches none, read.batchId = batch.batchId := by
  simp only [UploadStore.insertBatchWithEvents] at persisted
  split at persisted
  · cases persisted
  next accepted =>
    cases persisted
    push Not at accepted
    refine ⟨?_, ?_⟩
    · intro row member same
      rcases mem_append.mp member with before | isNew
      · exact absurd (mem_map.mpr ⟨row, before, same⟩) accepted.2.1
      · rw [mem_singleton.mp isNew]
        rfl
    · simp only [UploadStore.resumableBatches, mem_map, mem_insertionSort,
        mem_filter, mem_append, mem_singleton]
      exact ⟨_, ⟨_, ⟨Or.inr rfl, rfl⟩, rfl⟩, rfl⟩

theorem events_of_resumable {batchId : String} {events : List BatchEvent}
    (holds : store.Holds batchId events) {due : Option Int} {read : UploadBatch}
    (isRead : read ∈ store.resumableBatches due) (same : read.batchId = batchId) :
    read.events = events := by
  simp only [UploadStore.resumableBatches, mem_map, mem_insertionSort, mem_filter] at isRead
  obtain ⟨row, ⟨member, -⟩, rfl⟩ := isRead
  exact holds row member same

theorem payload_of_stored (assembled : batch.Assembled config) {read : UploadBatch}
    (sameId : read.batchId = batch.batchId) (isRead : read.events = storedEvents batch.events) :
    payloadForQueuedBatch read "1" config.serviceVersion =
      { batch with events := batch.events.map BatchEventPayload.stored } := by
  obtain ⟨nonempty, uniform, derived⟩ := assembled
  have version : (read.events.head?.map (·.taxonomyVersion)).getD "" =
      batch.categoryTaxonomyVersion := by
    cases isEvents : batch.events with
    | nil => exact absurd isEvents nonempty
    | cons first rest =>
      rw [isRead, isEvents]
      exact uniform first (by simp [isEvents])
  have types : (batch.events.map BatchEventPayload.stored).foldl
      (fun types event => pushUnique types (cloudAbstractionType event.category)) [] =
        batch.supportedAbstractionTypes := by
    rw [foldl_map, derived]
    rfl
  simp only [payloadForQueuedBatch, version, sameId]
  rw [isRead, map_batchEventPayload_storedEvents]
  simp only [BatchPayload.new, types]
  rw [derived]
  rfl

/-- A batch that the assembler gave and the tables took is read back; and, whatever statements
run in between, the payload it is sent as again is the one first sent exactly when all its events
occurred at whole seconds. -/
theorem resent_batch_is_same_iff {ops : List AssemblerOp}
    (emitted : batch ∈ ((assemblerMachine config).run .start ops).emitted) {now : Int}
    (persisted : store.insertBatchWithEvents batch.batchId (batch.events.map batchEvent) now =
      .ok changed) :
    (∃ read ∈ changed.resumableBatches none, read.batchId = batch.batchId) ∧
      ∀ statements : List UploadStatement,
        (∀ statement ∈ statements, ¬ statement.Inserts batch.batchId) →
        ∀ due, ∀ read ∈ (uploadTables.run changed statements).resumableBatches due,
          read.batchId = batch.batchId →
            (payloadForQueuedBatch read "1" config.serviceVersion = batch ↔
              ∀ event ∈ batch.events, WholeSecond event.occurredAt) := by
  have assembled := (kept_run config ops).assembled batch emitted
  obtain ⟨holds, isBack⟩ := holds_of_persisted persisted
  refine ⟨isBack, fun statements others due read isRead same => ?_⟩
  have stored := events_of_resumable (holds_run holds others) isRead same
  rw [payload_of_stored assembled same stored]
  have events : ({ batch with events := batch.events.map BatchEventPayload.stored } :
      BatchPayload) = batch ↔ batch.events.map BatchEventPayload.stored = batch.events := by
    constructor
    · exact congrArg BatchPayload.events
    · intro unchanged
      rw [unchanged]
  have each : batch.events.map BatchEventPayload.stored = batch.events ↔
      ∀ event ∈ batch.events, event.stored = event := by
    have agree := @map_inj_left _ _ batch.events BatchEventPayload.stored id
    rwa [map_id] at agree
  rw [events, each]
  exact forall₂_congr fun event _ => event.stored_eq_self_iff

def batchOf (occurredAt : Int) : BatchPayload :=
  BatchPayload.new sampleBatchId "1" "0.1.0" [] "1"
    [BatchEventPayload.fromAbstracted "event-1"
      { sampleAbstractedEvent with occurredAt := occurredAt } 30]

def pushedOf (occurredAt : Int) : List AssemblerOp :=
  [.push (BatchEventPayload.fromAbstracted "event-1"
    { sampleAbstractedEvent with occurredAt := occurredAt } 30) occurredAt]

/-- A batch of a whole second is sent again as it was, after a POST that failed. -/
theorem resent_whole_second_batch :
    ∃ changed, UploadStore.empty.insertBatchWithEvents sampleBatchId
        ((batchOf (fromTimestamp 5)).events.map batchEvent) (fromTimestamp 6) = .ok changed ∧
      ∀ read ∈ (uploadTables.run changed
          [.markFailed sampleBatchId (fromTimestamp 66) "transport"]).resumableBatches none,
        read.batchId = sampleBatchId →
          payloadForQueuedBatch read "1" "0.1.0" = batchOf (fromTimestamp 5) := by
  have emitted : batchOf (fromTimestamp 5) ∈
      ((assemblerMachine sampleUploadConfig).run .start (pushedOf (fromTimestamp 5))).emitted := by
    decide +kernel
  refine ⟨_, rfl, fun read isRead same => ?_⟩
  have resent := @resent_batch_is_same_iff sampleUploadConfig (batchOf (fromTimestamp 5))
    UploadStore.empty _ _ emitted (fromTimestamp 6) rfl
  refine (resent.2 _ ?_ none read isRead same).mpr ?_
  · intro statement member
    rw [mem_singleton.mp member]
    exact id
  · intro event member
    rw [mem_singleton.mp member]
    exact ⟨5, rfl⟩

/-- An event half a second later is sent again without the half second. -/
theorem resent_batch_loses_half_second :
    batchOf (fromTimestamp 5 + 500000000) ∈ ((assemblerMachine sampleUploadConfig).run .start
        (pushedOf (fromTimestamp 5 + 500000000))).emitted ∧
      ∃ changed, UploadStore.empty.insertBatchWithEvents sampleBatchId
          ((batchOf (fromTimestamp 5 + 500000000)).events.map batchEvent) (fromTimestamp 6) =
            .ok changed ∧
        ∃ read ∈ changed.resumableBatches none, read.batchId = sampleBatchId ∧
          payloadForQueuedBatch read "1" "0.1.0" ≠ batchOf (fromTimestamp 5 + 500000000) := by
  refine ⟨by decide +kernel, _, rfl, ?_⟩
  decide +kernel

end RoundTrip

end Velvt
