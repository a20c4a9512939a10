import Velvt.UploadTasks

/-!
# The batches that a task holds

A task may POST a batch, or write what became of it, only while it holds the batch: from the insert
of the batch or the snapshot that lists it, until it has written its state.
-/

namespace Velvt

open TaskPrograms UploadTask List

namespace UploadCall

variable {Answer : Type}

def names : UploadCall Answer → Option String
  | .send batch | .receive batch => some batch.batchId
  | .markSent batchId | .markFailed batchId _ _ | .markPendingRetry batchId _ _
  | .markRejected batchId _ | .discardBatch batchId => some batchId
  | _ => none

def settles : UploadCall Answer → Option String
  | .markSent batchId | .markFailed batchId _ _ | .markPendingRetry batchId _ _
  | .markRejected batchId _ | .discardBatch batchId => some batchId
  | _ => none

def concludes : UploadCall Answer → Option String
  | .markSent batchId | .markRejected batchId _ => some batchId
  | _ => none

/-- A call that deletes a batch. -/
def Discards : UploadCall Answer → Prop
  | .discardBatch _ => True
  | _ => False

def acquires : UploadCall Answer → Answer → List String
  | .insertBatchWithEvents batchId _, .ok () => [batchId]
  | .resumableBatches _, .ok batches => batches.map (·.batchId)
  | _, _ => []

def sends : UploadCall Answer → List BatchPayload
  | .send batch => [batch]
  | _ => []

/-- The answers that the tables give. -/
def Possible : UploadCall Answer → Answer → Prop
  | .resumableBatches _, .ok batches => (batches.map (·.batchId)).Nodup
  | _, _ => True

end UploadCall

def release (held : List String) (batchId : String) : List String :=
  held.filter (· != batchId)

theorem mem_release {held : List String} {batchId other : String} :
    other ∈ release held batchId ↔ other ∈ held ∧ other ≠ batchId := by
  simp [release]

def holding : Protocol UploadCall (List String) where
  allowed held operation := ¬ operation.Discards ∧ ∀ batchId ∈ operation.names, batchId ∈ held
  possible operation answer := operation.Possible answer
  track held operation answer :=
    match operation.settles with
    | some batchId => release held batchId
    | none => held ++ operation.acquires answer

/-- How a task that does not fail ends. -/
def EndsHolding {Answer : Type} (held : List String) (result : Except CoordinatorError Answer)
    (last : List String) : Prop :=
  ∀ answer, result = .ok answer → last = held

section Specs

variable {Answer : Type} {held : List String}

variable {State : Type} {post : Except CoordinatorError Answer → State → Prop} {state : State}
  {First Second : Type} {next : First → UploadTask Second}

theorem follows_repository (protocol : Protocol UploadCall State)
    {operation : UploadCall (Except PersistenceError Answer)} :
    Follows protocol post (repository operation).run state ↔ protocol.allowed state operation ∧
        ∀ answer, protocol.possible operation answer → match answer with
          | .ok value => post (.ok value) (protocol.track state operation answer)
          | .error error =>
            post (.error (.persistence error)) (protocol.track state operation answer) := by
  change Follows protocol post (Program.ask operation >>= _) state ↔ _
  rw [follows_bind, follows_ask]
  constructor
  · rintro ⟨allowed, later⟩
    refine ⟨allowed, ?_⟩
    rintro (error | value) possible
    · exact later _ possible
    · exact later _ possible
  · rintro ⟨allowed, later⟩
    refine ⟨allowed, ?_⟩
    rintro (error | value) possible
    · exact later _ possible
    · exact later _ possible

variable {operation : UploadCall Answer}

theorem follows_outside (protocol : Protocol UploadCall State) :
    Follows protocol post (outside operation).run state ↔ protocol.allowed state operation ∧
        ∀ answer, protocol.possible operation answer →
          post (.ok answer) (protocol.track state operation answer) :=
  Iff.rfl

theorem follows_withFlushGate (protocol : Protocol UploadCall State) {section_ : UploadTask Answer}
    :
    Follows protocol post (withFlushGate section_).run state ↔
      protocol.allowed state UploadCall.lockFlushGate ∧
        ∀ answer, protocol.possible UploadCall.lockFlushGate answer →
          Follows protocol (fun result last =>
            protocol.allowed last UploadCall.unlockFlushGate ∧
              ∀ answer, protocol.possible UploadCall.unlockFlushGate answer →
                post result (protocol.track last UploadCall.unlockFlushGate answer))
            section_.run (protocol.track state UploadCall.lockFlushGate answer) := by
  change Follows protocol post (Program.ask UploadCall.lockFlushGate >>= fun _ =>
    section_.run >>= fun result => Program.ask UploadCall.unlockFlushGate >>= fun _ =>
      pure result) state ↔ _
  rw [follows_bind, follows_ask]
  simp only [follows_bind]
  exact Iff.rfl

theorem repository_holding {operation : UploadCall (Except PersistenceError Answer)}
    (noName : operation.names = none) (noDiscard : ¬ operation.Discards)
    (noSettle : operation.settles = none) (noAcquire : ∀ answer, operation.acquires answer = []) :
    Follows holding (EndsHolding held) (repository operation).run held := by
  rw [follows_repository]
  refine ⟨⟨noDiscard, by simp [noName]⟩, ?_⟩
  rintro (error | value) -
  · simp [EndsHolding]
  · simp [EndsHolding, holding, noSettle, noAcquire]

theorem repository_settling {operation : UploadCall (Except PersistenceError Unit)}
    {batchId : String} (name : operation.names = some batchId)
    (noDiscard : ¬ operation.Discards) (settle : operation.settles = some batchId)
    (holds : batchId ∈ held) :
    Follows holding (EndsHolding (release held batchId)) (repository operation).run held := by
  rw [follows_repository]
  refine ⟨⟨noDiscard, by simp [name, holds]⟩, ?_⟩
  rintro (error | value) -
  · simp [EndsHolding]
  · simp [EndsHolding, holding, settle]

theorem unnamed_held (noName : operation.names = none) :
    ∀ batchId ∈ operation.names, batchId ∈ held := by
  simp [noName]

theorem outside_holding (noDiscard : ¬ operation.Discards)
    (allowed : ∀ batchId ∈ operation.names, batchId ∈ held)
    (noSettle : operation.settles = none) (noAcquire : ∀ answer, operation.acquires answer = []) :
    Follows holding (EndsHolding held) (outside operation).run held := by
  rw [follows_outside]
  refine ⟨⟨noDiscard, allowed⟩, ?_⟩
  intro answer _
  simp [EndsHolding, holding, noSettle, noAcquire]

variable {program : UploadTask First}

theorem holding_bind {middle last : List String}
    (first : Follows holding (EndsHolding middle) program.run held)
    (second : ∀ value, Follows holding (EndsHolding last) (next value).run middle) :
    Follows holding (EndsHolding last) (program >>= next).run held := by
  rw [follows_except_bind]
  refine first.mono holding ?_
  rintro (error | value) reached ends
  · simp [EndsHolding]
  · rw [ends value rfl]
    exact second value

theorem pure_holding (value : Answer) :
    Follows holding (EndsHolding held) (pure value : UploadTask Answer).run held := by
  intro _ _
  rfl

variable {batch : BatchPayload}

theorem upload_holding (holds : batch.batchId ∈ held) :
    Follows holding (EndsHolding held) (upload batch).run held := by
  apply holding_bind (outside_holding id (by simpa [UploadCall.names] using holds) rfl fun _ => rfl)
  intro _
  exact outside_holding id (by simpa [UploadCall.names] using holds) rfl fun _ => rfl

theorem nextAttempt_holding (retryAfter : Option String) :
    Follows holding (EndsHolding held) (nextAttempt retryAfter).run held := by
  apply holding_bind (repository_holding rfl id rfl fun _ => rfl)
  intro attempt
  apply holding_bind (outside_holding id (unnamed_held rfl) rfl fun _ => rfl)
  intro delay
  apply holding_bind (outside_holding id (unnamed_held rfl) rfl fun _ => rfl)
  intro now
  apply holding_bind (repository_holding rfl id rfl fun _ => rfl)
  intro _
  exact pure_holding _

theorem scheduleNetworkRetry_holding {batchId : String} (holds : batchId ∈ held) :
    Follows holding (EndsHolding (release held batchId)) (scheduleNetworkRetry batchId).run
      held := by
  apply holding_bind (nextAttempt_holding none)
  intro nextAttemptAt
  exact repository_settling rfl id rfl holds

theorem recordOutcome_holding (holds : batch.batchId ∈ held)
    (outcome : UploadOutcome) :
    Follows holding (EndsHolding (release held batch.batchId)) (recordOutcome batch outcome).run
      held := by
  have delivered : Follows holding (EndsHolding (release held batch.batchId))
      (do repository (.markSent batch.batchId); repository .clearHostBackoff :
        UploadTask Unit).run held := by
    apply holding_bind (repository_settling rfl id rfl holds)
    intro _
    exact repository_holding rfl id rfl fun _ => rfl
  have retried (retryAfter : Option String) (code : String) :
      Follows holding (EndsHolding (release held batch.batchId)) (do
          let nextAttemptAt ← nextAttempt retryAfter
          repository (.markFailed batch.batchId nextAttemptAt code) : UploadTask Unit).run
        held := by
    apply holding_bind (nextAttempt_holding retryAfter)
    intro nextAttemptAt
    exact repository_settling rfl id rfl holds
  cases outcome with
  | accepted => exact delivered
  | duplicate => exact delivered
  | rawFieldRejected message =>
    apply holding_bind (repository_settling rfl id rfl holds)
    intro _
    exact outside_holding id (unnamed_held rfl) rfl fun _ => rfl
  | rateLimited retryAfter => exact retried retryAfter "rate_limited"
  | retryable code => exact retried none code

theorem heldByHostBackoff_holding (holds : batch.batchId ∈ held)
    (respectHostBackoff : Bool) :
    Follows holding (fun result last => ∀ wasHeld, result = .ok wasHeld →
        last = if wasHeld then release held batch.batchId else held)
      (heldByHostBackoff batch respectHostBackoff).run held := by
  cases respectHostBackoff with
  | false =>
    rintro wasHeld ⟨⟩
    rfl
  | true =>
    unfold heldByHostBackoff
    rw [follows_except_bind]
    refine (repository_holding rfl id rfl fun _ => rfl).mono holding ?_
    rintro (error | (_ | nextAttemptAt)) reached ends
    · rintro wasHeld ⟨⟩
    · rw [ends _ rfl]
      rintro wasHeld ⟨⟩
      rfl
    · rw [ends _ rfl]
      simp only
      rw [follows_except_bind]
      refine (outside_holding id (unnamed_held rfl) rfl fun _ => rfl).mono holding ?_
      rintro (error | now) reached ends
      · rintro wasHeld ⟨⟩
      · rw [ends _ rfl]
        simp only
        split
        · rw [follows_except_bind]
          refine (repository_settling rfl id rfl holds).mono holding ?_
          rintro (error | _) reached ends
          · rintro wasHeld ⟨⟩
          · rw [ends _ rfl]
            rintro wasHeld ⟨⟩
            rfl
        · rintro wasHeld ⟨⟩
          rfl

theorem uploadBatchWithBackoff_holding (holds : batch.batchId ∈ held)
    (respectHostBackoff : Bool) :
    Follows holding (EndsHolding (release held batch.batchId))
      (uploadBatchWithBackoff batch respectHostBackoff).run held := by
  unfold uploadBatchWithBackoff
  rw [follows_except_bind]
  refine (heldByHostBackoff_holding holds respectHostBackoff).mono holding ?_
  rintro (error | (_ | _)) reached ends
  · simp [EndsHolding]
  · rw [ends _ rfl]
    apply holding_bind (upload_holding holds)
    rintro ((_ | _) | outcome)
    · exact scheduleNetworkRetry_holding holds
    · apply holding_bind (outside_holding id (unnamed_held rfl) rfl fun _ => rfl)
      intro now
      exact repository_settling rfl id rfl holds
    · exact recordOutcome_holding holds outcome
  · rw [ends _ rfl]
    exact pure_holding _

/-- However a task ends. -/
def EndsAnyhow {Result : Type} (_ : Result) (_ : List String) : Prop := True

theorem anyhow_bind {middle : List String}
    (first : Follows holding (EndsHolding middle) program.run held)
    (second : ∀ value, Follows holding EndsAnyhow (next value).run middle) :
    Follows holding EndsAnyhow (program >>= next).run held := by
  rw [follows_except_bind]
  refine first.mono holding ?_
  rintro (error | value) reached ends
  · trivial
  · rw [ends value rfl]
    exact second value

theorem uploadEach_holding (schemaVersion clientVersion : String) (respectHostBackoff : Bool)
    {batches : List UploadBatch} (distinct : (batches.map (·.batchId)).Nodup)
    (holds : ∀ batch ∈ batches, batch.batchId ∈ held) :
    Follows holding EndsAnyhow
      (uploadEach schemaVersion clientVersion respectHostBackoff batches).run held := by
  induction batches generalizing held with
  | nil => trivial
  | cons batch batches ih =>
    rw [map_cons, nodup_cons] at distinct
    unfold uploadEach
    apply anyhow_bind (pure_holding false)
    intro discarded
    have rest : Follows holding EndsAnyhow
        (uploadEach schemaVersion clientVersion respectHostBackoff batches).run
        (release held batch.batchId) := by
      apply ih distinct.2
      intro other member
      refine mem_release.mpr ⟨holds other (mem_cons_of_mem _ member), ?_⟩
      intro same
      exact distinct.1 (same ▸ mem_map_of_mem member)
    split
    · apply ih distinct.2
      intro other member
      exact holds other (mem_cons_of_mem _ member)
    · apply anyhow_bind (uploadBatchWithBackoff_holding (holds batch mem_cons_self)
        respectHostBackoff)
      intro _
      exact rest

theorem anyhow_then (first : Follows holding EndsAnyhow program.run held)
    (second : ∀ value middle, Follows holding EndsAnyhow (next value).run middle) :
    Follows holding EndsAnyhow (program >>= next).run held := by
  rw [follows_except_bind]
  refine first.mono holding ?_
  rintro (error | value) middle -
  · trivial
  · exact second value middle

theorem EndsHolding.anyhow {program : UploadTask Answer} {last : List String}
    (follows : Follows holding (EndsHolding last) program.run held) :
    Follows holding EndsAnyhow program.run held :=
  follows.mono holding fun _ _ _ => trivial

theorem drain_holding (now : Option Int) (schemaVersion clientVersion : String)
    (respectHostBackoff : Bool) :
    Follows holding EndsAnyhow (do
        let batches ← repository (.resumableBatches now)
        uploadEach schemaVersion clientVersion respectHostBackoff batches
        return batches.length : UploadTask Nat).run held := by
  rw [follows_except_bind, follows_repository]
  refine ⟨⟨id, unnamed_held rfl⟩, ?_⟩
  rintro (error | batches) distinct
  · trivial
  · apply anyhow_then
    · apply uploadEach_holding _ _ _ distinct
      intro batch member
      exact mem_append_right held (mem_map_of_mem member)
    · intro _ middle
      trivial

theorem resumePending_holding (schemaVersion clientVersion : String) :
    Follows holding EndsAnyhow (resumePending schemaVersion clientVersion).run held := by
  apply anyhow_bind (outside_holding id (unnamed_held rfl) rfl fun _ => rfl)
  intro now
  exact drain_holding (some now) schemaVersion clientVersion true

theorem persistOrRequeue_holding (batch : BatchPayload) :
    Follows holding (EndsHolding (held ++ [batch.batchId])) (persistOrRequeue batch).run
      held := by
  unfold persistOrRequeue persistBatch
  rw [follows_except_catch, follows_repository]
  refine ⟨⟨id, unnamed_held rfl⟩, ?_⟩
  rintro (error | _) -
  · apply holding_bind (outside_holding id (unnamed_held rfl) rfl fun _ => rfl)
    rintro _ _ ⟨⟩
  · intro _ _
    rfl

theorem submitTaken_holding (batch : Option BatchPayload) :
    Follows holding EndsAnyhow (submitTaken batch).run held := by
  cases batch with
  | none => trivial
  | some batch =>
    unfold submitTaken submitWithInnerReleased
    apply anyhow_then
    · apply anyhow_bind (persistOrRequeue_holding batch)
      intro _
      exact EndsHolding.anyhow (uploadBatchWithBackoff_holding (by simp) true)
    · intro _ middle
      trivial

theorem submitting_holding {operation : UploadCall (Option BatchPayload)}
    (noDiscard : ¬ operation.Discards) (noName : operation.names = none)
    (noSettle : operation.settles = none) (noAcquire : ∀ answer, operation.acquires answer = []) :
    Follows holding EndsAnyhow (do
        let batch ← outside operation
        submitTaken batch : UploadTask Bool).run held := by
  apply anyhow_bind (outside_holding noDiscard (by simp [noName]) noSettle noAcquire)
  exact submitTaken_holding

theorem ingest_holding (eventId : String) (event : AbstractedEvent) (durationSeconds : Nat)
    (now : Int) :
    Follows holding EndsAnyhow (ingest eventId event durationSeconds now).run held := by
  apply anyhow_bind (outside_holding id (unnamed_held rfl) rfl fun _ => rfl)
  intro batch
  apply anyhow_then (submitTaken_holding batch)
  intro _ middle
  trivial

theorem flushNow_holding (serviceVersion : String) :
    Follows holding EndsAnyhow (flushNow serviceVersion).run held := by
  have drained (value : Bool) (held : List String) : Follows holding EndsAnyhow
        (do let _ ← flushAllPending "1" serviceVersion; return value : UploadTask Bool).run
        held := by
    apply anyhow_then (drain_holding none "1" serviceVersion false)
    intro _ middle
    trivial
  have finishes (result : Except CoordinatorError Bool) (last : List String)
      (_ : EndsAnyhow result last) :
      holding.allowed last UploadCall.unlockFlushGate ∧
        ∀ answer, holding.possible UploadCall.unlockFlushGate answer →
          EndsAnyhow result (holding.track last UploadCall.unlockFlushGate answer) :=
    ⟨⟨id, unnamed_held rfl⟩, fun _ _ => trivial⟩
  unfold flushNow
  rw [follows_withFlushGate]
  refine ⟨⟨id, unnamed_held rfl⟩, fun _ _ => Follows.mono holding ?_ finishes⟩
  apply anyhow_bind (outside_holding id (unnamed_held rfl) rfl fun _ => rfl)
  rintro (_ | batch)
  · exact drained false _
  · apply anyhow_bind (persistOrRequeue_holding batch)
    intro _
    exact drained true _

theorem pushEach_holding (now : Int) (entries : List RawEventEntry) :
    Follows holding EndsAnyhow (pushEach now entries).run held := by
  induction entries generalizing held with
  | nil => trivial
  | cons entry entries ih =>
    apply anyhow_bind (outside_holding id (unnamed_held rfl) rfl fun _ => rfl)
    intro batch
    apply anyhow_then (submitTaken_holding batch)
    intro _ middle
    exact ih

theorem recoverUnbatched_holding (limit : Nat) (now : Int) :
    Follows holding EndsAnyhow (recoverUnbatched limit now).run held := by
  apply anyhow_bind (repository_holding rfl id rfl fun _ => rfl)
  intro pending
  apply anyhow_then (pushEach_holding now pending.reverse)
  intro _ middle
  trivial

theorem detached_holding {task : UploadTask Answer}
    (follows : Follows holding EndsAnyhow task.run held) :
    Follows holding EndsAnyhow (detached task) held := by
  unfold detached
  rw [follows_bind]
  exact follows.mono holding fun _ _ _ => trivial

theorem handleRawEvent_holding (eventId : String) (event : AbstractedEvent)
    (durationSeconds : Nat) (uploadEligible : Bool) :
    Follows holding EndsAnyhow (handleRawEvent eventId event durationSeconds uploadEligible)
      held := by
  unfold handleRawEvent
  rw [follows_bind, follows_ask]
  refine ⟨⟨id, unnamed_held rfl⟩, ?_⟩
  rintro (error | _) -
  · trivial
  · cases uploadEligible with
    | false => trivial
    | true =>
      refine ⟨⟨id, unnamed_held rfl⟩, fun now _ => ?_⟩
      exact detached_holding (ingest_holding eventId event durationSeconds now)

theorem startup_holding (limit : Nat) (now : Int) :
    Follows holding EndsAnyhow (startup limit now) held := by
  unfold startup
  rw [follows_bind]
  refine (detached_holding (recoverUnbatched_holding limit now)).mono holding ?_
  intro _ last _
  exact ⟨⟨id, unnamed_held rfl⟩, fun _ _ => trivial⟩

theorem begun_holding {config : AssemblerConfig} {operation : UploadOperation}
    {waits : Bool} {program : Program UploadCall Unit}
    (begins : UploadWorld.begun config operation = some (waits, program)) :
    Follows holding EndsAnyhow program held := by
  cases operation with
  | rawEvent eventId event durationSeconds uploadEligible =>
    cases begins
    exact handleRawEvent_holding eventId event durationSeconds uploadEligible
  | flushDue now =>
    cases begins
    exact detached_holding (submitting_holding id rfl rfl fun _ => rfl)
  | flushNow =>
    cases begins
    exact detached_holding (flushNow_holding config.serviceVersion)
  | flushShutdown =>
    cases begins
    exact detached_holding (submitting_holding id rfl rfl fun _ => rfl)
  | resumePending =>
    cases begins
    exact detached_holding (resumePending_holding "1" config.serviceVersion)
  | advance task => cases begins
  | sweep kind cutoff limit picked => cases begins
  | restart limit now => cases begins

end Specs

end Velvt
