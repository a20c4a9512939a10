import Velvt.UploadHolding

/-!
# Who has an event

From the moment it is observed until its batch is persisted, one party has an event: the task that
has yet to push it, the assembler, or the task that carries a batch which it has taken out.
-/

namespace Velvt

open TaskPrograms UploadTask List

/-- What a task has in its hands. -/
structure Custody where
  /-- The observed events that it has yet to push. -/
  owed : List String
  /-- The batch that it has taken out and not yet persisted. -/
  carried : Option BatchPayload
  /-- The events of the persisted batches that it knows, each with its batch. -/
  placed : List (String × String)

namespace Custody

def fresh : Custody where
  owed := []
  carried := none
  placed := []

variable (state : Custody)

def carriedIds : List String := state.carried.toList.flatMap (·.eventIds)

/-- The task knows a batch with these events as persisted. -/
def Knows (batch : BatchPayload) : Prop :=
  ∀ eventId ∈ batch.eventIds, (eventId, batch.batchId) ∈ state.placed

/-- The task carries no batch, and owes these events. -/
structure Idle (owed : List String) : Prop where
  none : state.carried = none
  owed : state.owed = owed

end Custody

def placements (batches : List UploadBatch) : List (String × String) :=
  batches.flatMap fun batch => batch.events.map fun event => (event.eventId, batch.batchId)

namespace UploadCall

variable {Answer : Type}

/-- What a task must have in its hands for a call. -/
def Entrusted (state : Custody) : UploadCall Answer → Prop
  | .push event _ => state.carried = none ∧ event.eventId ∈ state.owed
  | .flushDue _ | .flushShutdown => state.carried = none
  | .requeue batch => state.carried = some batch
  | .insertBatchWithEvents batchId events =>
    ∃ batch ∈ state.carried, batchId = batch.batchId ∧ events = batch.events.map batchEvent
  | .send batch | .receive batch => state.Knows batch
  | .insertRawEvent _ | .unbatchedEvents _ | .discardBatch _ => False
  | _ => True

def entrusts (state : Custody) : UploadCall Answer → Answer → Custody
  | .insertRawEvent entry, .ok () =>
    { state with owed := if entry.uploadEligible then [entry.eventId] else [] }
  | .unbatchedEvents _, .ok entries => { state with owed := entries.map (·.eventId) }
  | .push event _, batch =>
    { state with owed := state.owed.erase event.eventId, carried := batch }
  | .flushDue _, batch | .flushShutdown, batch => { state with carried := batch }
  | .requeue _, () => { state with carried := none }
  | .insertBatchWithEvents batchId events, .ok () =>
    { state with
      carried := none
      placed := state.placed ++ events.map fun event => (event.eventId, batchId) }
  | .resumableBatches _, .ok batches =>
    { state with placed := state.placed ++ placements batches }
  | _, _ => state

end UploadCall

/-- The events in a task's hands.  The first calls of ingestion and recovery, which observe
events, are no part of it. -/
def custody : Protocol UploadCall Custody where
  allowed state operation := operation.Entrusted state
  possible _ _ := True
  track state operation answer := operation.entrusts state answer

/-- A task that leaves everything where it is. -/
def Unmoved {Result : Type} (state : Custody) (_ : Result) (last : Custody) : Prop :=
  last = state

section Specs

variable {Answer : Type} {state : Custody}

theorem repository_unmoved {operation : UploadCall (Except PersistenceError Answer)}
    (allowed : operation.Entrusted state)
    (stays : ∀ answer, operation.entrusts state answer = state) :
    Follows custody (Unmoved state) (repository operation).run state := by
  rw [follows_repository]
  refine ⟨allowed, ?_⟩
  rintro (error | value) -
  · exact stays _
  · exact stays _

theorem outside_unmoved {operation : UploadCall Answer} (allowed : operation.Entrusted state)
    (stays : ∀ answer, operation.entrusts state answer = state) :
    Follows custody (Unmoved state) (outside operation).run state :=
  ⟨allowed, fun answer _ => stays answer⟩

theorem pure_unmoved (value : Answer) :
    Follows custody (Unmoved state) (pure value : UploadTask Answer).run state :=
  rfl

theorem unmoved_bind {First Second : Type} {post : Except CoordinatorError Second → Custody → Prop}
    {program : UploadTask First} {next : First → UploadTask Second}
    (first : Follows custody (Unmoved state) program.run state)
    (fails : ∀ error, post (.error error) state)
    (second : ∀ value, Follows custody post (next value).run state) :
    Follows custody post (program >>= next).run state := by
  rw [follows_except_bind]
  refine first.mono custody ?_
  rintro (error | value) last isLast
  · rw [isLast]
    exact fails error
  · rw [isLast]
    exact second value

variable {batch : BatchPayload}

theorem upload_unmoved (knows : state.Knows batch) :
    Follows custody (Unmoved state) (upload batch).run state := by
  apply unmoved_bind (outside_unmoved (by exact knows) fun _ => rfl) fun _ => rfl
  intro _
  exact outside_unmoved (by exact knows) fun _ => rfl

theorem nextAttempt_unmoved (retryAfter : Option String) :
    Follows custody (Unmoved state) (nextAttempt retryAfter).run state := by
  apply unmoved_bind (repository_unmoved (by trivial) fun _ => rfl) fun _ => rfl
  intro attempt
  apply unmoved_bind (outside_unmoved (by trivial) fun _ => rfl) fun _ => rfl
  intro delay
  apply unmoved_bind (outside_unmoved (by trivial) fun _ => rfl) fun _ => rfl
  intro now
  apply unmoved_bind (repository_unmoved (by trivial) fun _ => rfl) fun _ => rfl
  intro _
  exact pure_unmoved _

theorem scheduleNetworkRetry_unmoved (batchId : String) :
    Follows custody (Unmoved state) (scheduleNetworkRetry batchId).run state := by
  apply unmoved_bind (nextAttempt_unmoved none) fun _ => rfl
  intro nextAttemptAt
  exact repository_unmoved (by trivial) fun _ => rfl

theorem recordOutcome_unmoved (batch : BatchPayload) (outcome : UploadOutcome) :
    Follows custody (Unmoved state) (recordOutcome batch outcome).run state := by
  have delivered : Follows custody (Unmoved state)
      (do repository (.markSent batch.batchId); repository .clearHostBackoff :
        UploadTask Unit).run state := by
    apply unmoved_bind (repository_unmoved (by trivial) fun _ => rfl) fun _ => rfl
    intro _
    exact repository_unmoved (by trivial) fun _ => rfl
  have retried (retryAfter : Option String) (code : String) : Follows custody (Unmoved state) (do
          let nextAttemptAt ← nextAttempt retryAfter
          repository (.markFailed batch.batchId nextAttemptAt code) : UploadTask Unit).run
        state := by
    apply unmoved_bind (nextAttempt_unmoved retryAfter) fun _ => rfl
    intro nextAttemptAt
    exact repository_unmoved (by trivial) fun _ => rfl
  cases outcome with
  | accepted => exact delivered
  | duplicate => exact delivered
  | rawFieldRejected message =>
    apply unmoved_bind (repository_unmoved (by trivial) fun _ => rfl) fun _ => rfl
    intro _
    exact outside_unmoved (by trivial) fun _ => rfl
  | rateLimited retryAfter => exact retried retryAfter "rate_limited"
  | retryable code => exact retried none code

theorem heldByHostBackoff_unmoved (batch : BatchPayload) (respectHostBackoff : Bool) :
    Follows custody (Unmoved state) (heldByHostBackoff batch respectHostBackoff).run state := by
  cases respectHostBackoff with
  | false => exact pure_unmoved false
  | true =>
    apply unmoved_bind (repository_unmoved (by trivial) fun _ => rfl) fun _ => rfl
    rintro (_ | nextAttemptAt)
    · exact pure_unmoved false
    · apply unmoved_bind (outside_unmoved (by trivial) fun _ => rfl) fun _ => rfl
      intro now
      split
      · apply unmoved_bind (repository_unmoved (by trivial) fun _ => rfl) fun _ => rfl
        intro _
        exact pure_unmoved true
      · exact pure_unmoved false

theorem uploadBatchWithBackoff_unmoved (knows : state.Knows batch)
    (respectHostBackoff : Bool) :
    Follows custody (Unmoved state) (uploadBatchWithBackoff batch respectHostBackoff).run
      state := by
  apply unmoved_bind (heldByHostBackoff_unmoved batch respectHostBackoff) fun _ => rfl
  rintro (_ | _)
  · apply unmoved_bind (upload_unmoved knows) fun _ => rfl
    rintro ((_ | _) | outcome)
    · exact scheduleNetworkRetry_unmoved batch.batchId
    · apply unmoved_bind (outside_unmoved (by trivial) fun _ => rfl) fun _ => rfl
      intro now
      exact repository_unmoved (by trivial) fun _ => rfl
    · exact recordOutcome_unmoved batch outcome
  · exact pure_unmoved ()

theorem knows_payloadForQueuedBatch {batch : UploadBatch} {batches : List UploadBatch}
    (member : batch ∈ batches) (listed : ∀ pair ∈ placements batches, pair ∈ state.placed)
    (schemaVersion clientVersion : String) :
    state.Knows (payloadForQueuedBatch batch schemaVersion clientVersion) := by
  intro eventId isEvent
  refine listed _ (mem_flatMap.mpr ⟨batch, member, ?_⟩)
  simp only [payloadForQueuedBatch, BatchPayload.eventIds, BatchPayload.new, map_map]
    at isEvent ⊢
  obtain ⟨event, isStored, rfl⟩ := mem_map.mp isEvent
  exact mem_map.mpr ⟨event, isStored, rfl⟩

theorem uploadEach_unmoved (schemaVersion clientVersion : String) (respectHostBackoff : Bool)
    {batches : List UploadBatch} (listed : ∀ pair ∈ placements batches, pair ∈ state.placed) :
    Follows custody (Unmoved state)
      (uploadEach schemaVersion clientVersion respectHostBackoff batches).run state := by
  induction batches with
  | nil => exact pure_unmoved ()
  | cons batch batches ih =>
    have rest := ih fun pair member =>
      listed pair (mem_append_right _ member)
    unfold uploadEach
    apply unmoved_bind (pure_unmoved false) fun _ => rfl
    rintro (_ | _)
    · apply unmoved_bind (uploadBatchWithBackoff_unmoved
        (knows_payloadForQueuedBatch mem_cons_self listed schemaVersion clientVersion)
        respectHostBackoff) fun _ => rfl
      intro _
      exact rest
    · exact rest

/-- However a task ends that owes these events. -/
def EndsIdle {Result : Type} (owed : List String) (_ : Result) (last : Custody) : Prop :=
  last.Idle owed

variable {owed : List String}

theorem drain_idle (idle : state.Idle owed) (now : Option Int)
    (schemaVersion clientVersion : String) (respectHostBackoff : Bool) :
    Follows custody (EndsIdle owed) (do
        let batches ← repository (.resumableBatches now)
        uploadEach schemaVersion clientVersion respectHostBackoff batches
        return batches.length : UploadTask Nat).run state := by
  rw [follows_except_bind, follows_repository]
  refine ⟨trivial, ?_⟩
  rintro (error | batches) -
  · exact idle
  · have listed : Custody.Idle
        { state with placed := state.placed ++ placements batches } owed := ⟨idle.none, idle.owed⟩
    apply unmoved_bind (uploadEach_unmoved _ _ _ fun pair member =>
      mem_append_right state.placed member) fun _ => listed
    intro _
    exact listed

theorem resumePending_idle (idle : state.Idle owed) (schemaVersion clientVersion : String) :
    Follows custody (EndsIdle owed) (resumePending schemaVersion clientVersion).run state := by
  apply unmoved_bind (outside_unmoved (by trivial) fun _ => rfl) fun _ => idle
  intro now
  exact drain_idle idle (some now) schemaVersion clientVersion true

theorem persistOrRequeue_idle (carries : state.carried = some batch) :
    Follows custody (fun result last => last.Idle state.owed ∧ (result = .ok () → last.Knows batch))
      (persistOrRequeue batch).run state := by
  unfold persistOrRequeue persistBatch
  rw [follows_except_catch, follows_repository]
  refine ⟨⟨batch, carries, rfl, rfl⟩, ?_⟩
  rintro (error | _) -
  · refine ⟨carries, fun _ _ => ⟨⟨rfl, rfl⟩, ?_⟩⟩
    rintro ⟨⟩
  · refine ⟨⟨rfl, rfl⟩, ?_⟩
    rintro - eventId isEvent
    refine mem_append_right _ ?_
    rw [map_map]
    obtain ⟨event, isPart, rfl⟩ := mem_map.mp isEvent
    exact mem_map.mpr ⟨event, isPart, rfl⟩

theorem submitTaken_idle {batch : Option BatchPayload} (carries : state.carried = batch) :
    Follows custody (EndsIdle state.owed) (submitTaken batch).run state := by
  cases batch with
  | none => exact ⟨carries, rfl⟩
  | some batch =>
    unfold submitTaken submitWithInnerReleased
    rw [follows_except_bind, follows_except_bind]
    refine (persistOrRequeue_idle carries).mono custody ?_
    rintro (error | _) last ⟨idle, knows⟩
    · exact idle
    · refine (uploadBatchWithBackoff_unmoved (knows rfl) true).mono custody ?_
      rintro (error | _) reached isReached
      · rw [isReached]
        exact idle
      · rw [isReached]
        exact idle

theorem submitting_idle {operation : UploadCall (Option BatchPayload)}
    (idle : state.Idle owed) (allowed : operation.Entrusted state)
    (takes : ∀ batch, operation.entrusts state batch = { state with carried := batch }) :
    Follows custody (EndsIdle owed) (do
        let batch ← outside operation
        submitTaken batch : UploadTask Bool).run state := by
  rw [follows_except_bind, follows_outside]
  refine ⟨allowed, fun batch _ => ?_⟩
  change Follows custody _ _ (operation.entrusts state batch)
  rw [takes, ← idle.owed]
  exact @submitTaken_idle { state with carried := batch } batch rfl

theorem ingest_idle (none : state.carried = none) (eventId : String) (event : AbstractedEvent)
    (durationSeconds : Nat) (now : Int) (owes : eventId ∈ state.owed) :
    Follows custody (EndsIdle (state.owed.erase eventId))
      (ingest eventId event durationSeconds now).run state := by
  unfold ingest
  rw [follows_except_bind, follows_outside]
  refine ⟨⟨none, owes⟩, fun batch _ => ?_⟩
  have submitted := @submitTaken_idle
    { state with owed := state.owed.erase eventId, carried := batch } batch rfl
  simp only
  rw [follows_except_bind]
  refine submitted.mono custody ?_
  rintro (error | taken) last idle
  · exact idle
  · exact idle

theorem flushNow_idle (idle : state.Idle owed) (serviceVersion : String) :
    Follows custody (EndsIdle owed) (flushNow serviceVersion).run state := by
  have drained (value : Bool) {reached : Custody} (idle : reached.Idle owed) :
      Follows custody (EndsIdle owed)
        (do let _ ← flushAllPending "1" serviceVersion; return value : UploadTask Bool).run
        reached := by
    rw [follows_except_bind]
    refine (drain_idle idle none "1" serviceVersion false).mono custody ?_
    rintro (error | count) last idle
    · exact idle
    · exact idle
  have finishes (result : Except CoordinatorError Bool) (last : Custody)
      (isIdle : EndsIdle owed result last) :
      custody.allowed last UploadCall.unlockFlushGate ∧
        ∀ answer, custody.possible UploadCall.unlockFlushGate answer →
          EndsIdle owed result (custody.track last UploadCall.unlockFlushGate answer) :=
    ⟨trivial, fun _ _ => isIdle⟩
  unfold flushNow
  rw [follows_withFlushGate]
  refine ⟨trivial, fun _ _ => Follows.mono custody ?_ finishes⟩
  rw [follows_except_bind, follows_outside]
  refine ⟨idle.none, ?_⟩
  rintro (_ | batch) -
  · exact drained false ⟨rfl, idle.owed⟩
  · simp only
    rw [follows_except_bind]
    refine (@persistOrRequeue_idle { state with carried := some batch } batch rfl).mono custody ?_
    rintro (error | _) last ⟨isIdle, -⟩
    · exact ⟨isIdle.none, isIdle.owed.trans idle.owed⟩
    · exact drained true ⟨isIdle.none, isIdle.owed.trans idle.owed⟩

/-- However a task ends that carries nothing. -/
def EndsEmpty {Result : Type} (_ : Result) (last : Custody) : Prop :=
  last.carried = none

theorem EndsIdle.empty {Result : Type} {program : Program UploadCall Result}
    (follows : Follows custody (EndsIdle owed) program state) :
    Follows custody EndsEmpty program state :=
  follows.mono custody fun _ _ idle => idle.none

theorem pushEach_empty (now : Int) {entries : List RawEventEntry} (none : state.carried = none)
    (owes : ∀ eventId, (entries.map (·.eventId)).count eventId ≤ state.owed.count eventId) :
    Follows custody EndsEmpty (pushEach now entries).run state := by
  induction entries generalizing state with
  | nil => exact none
  | cons entry entries ih =>
    have isOwed : entry.eventId ∈ state.owed := by
      have counts := owes entry.eventId
      rw [map_cons, count_cons_self] at counts
      exact count_pos_iff.mp (by omega)
    unfold pushEach
    rw [follows_except_bind, follows_outside]
    refine ⟨⟨none, isOwed⟩, fun batch _ => ?_⟩
    simp only
    rw [follows_except_bind]
    refine (@submitTaken_idle
      { state with owed := state.owed.erase entry.eventId, carried := batch } batch rfl).mono
        custody ?_
    rintro (error | taken) last idle
    · exact idle.none
    · apply ih idle.none
      intro eventId
      have counts := owes eventId
      rw [idle.owed, count_erase]
      rw [map_cons, count_cons] at counts
      omega

theorem detached_empty {task : UploadTask Answer} (follows : Follows custody EndsEmpty task.run state) :
    Follows custody EndsEmpty (detached task) state := by
  unfold detached
  rw [follows_bind]
  exact follows.mono custody fun _ _ isEmpty => isEmpty

end Specs

/-- A task that observes events by its first call, and goes on with what it owes. -/
def Opens {Answer : Type} (operation : UploadCall Answer) (program : Program UploadCall Unit) :
    Prop :=
  ∃ resume, program = .call operation resume ∧
    ∀ answer, Follows custody EndsEmpty (resume answer) (operation.entrusts .fresh answer)

def observedEntry (eventId : String) (event : AbstractedEvent) (durationSeconds : Nat)
    (uploadEligible : Bool) : RawEventEntry where
  eventId := eventId
  stableId := event.stableId
  label := event.label
  category := event.category
  taxonomyVersion := event.taxonomyVersion
  classificationTier := event.classificationTier
  occurredAt := event.occurredAt
  durationSeconds := durationSeconds
  uploadEligible := uploadEligible

theorem handleRawEvent_opens (eventId : String) (event : AbstractedEvent)
    (durationSeconds : Nat) (uploadEligible : Bool) :
    Opens (.insertRawEvent (observedEntry eventId event durationSeconds uploadEligible))
      (handleRawEvent eventId event durationSeconds uploadEligible) := by
  refine ⟨_, rfl, ?_⟩
  rintro (error | _)
  · exact rfl
  · cases uploadEligible with
    | false => exact rfl
    | true =>
      refine ⟨trivial, fun now _ => ?_⟩
      have ingested := @ingest_idle { Custody.fresh with owed := [eventId] } rfl
        eventId event durationSeconds now mem_cons_self
      exact detached_empty (EndsIdle.empty ingested)

theorem startup_opens (limit : Nat) (now : Int) :
    Opens (.unbatchedEvents limit) (startup limit now) := by
  have serves {state : Custody} (isEmpty : state.carried = none) :
      Follows custody EndsEmpty (Program.ask UploadCall.serve) state :=
    ⟨trivial, fun _ _ => isEmpty⟩
  refine ⟨_, rfl, ?_⟩
  rintro (error | entries)
  · exact serves rfl
  · let state : Custody := { Custody.fresh with owed := entries.map (·.eventId) }
    have pushed : Follows custody EndsEmpty
        (do pushEach now entries.reverse; return entries.length : UploadTask Nat).run state := by
      rw [follows_except_bind]
      refine (@pushEach_empty state now entries.reverse rfl ?_).mono custody ?_
      · intro eventId
        rw [map_reverse, count_reverse]
      · rintro (error | _) last isEmpty
        · exact isEmpty
        · exact isEmpty
    change Follows custody EndsEmpty
      (detached (do pushEach now entries.reverse; return entries.length : UploadTask Nat) >>=
        fun _ => Program.ask UploadCall.serve) state
    rw [follows_bind]
    exact (detached_empty pushed).mono custody fun _ _ isEmpty => serves isEmpty

theorem begun_empty {config : AssemblerConfig} {operation : UploadOperation}
    {waits : Bool} {program : Program UploadCall Unit}
    (begins : UploadWorld.begun config operation = some (waits, program)) :
    Follows custody EndsEmpty program .fresh ∨ ∃ eventId event durationSeconds uploadEligible,
        operation = .rawEvent eventId event durationSeconds uploadEligible ∧
          Opens (.insertRawEvent (observedEntry eventId event durationSeconds uploadEligible))
            program := by
  have idle : Custody.Idle .fresh [] := ⟨rfl, rfl⟩
  cases operation with
  | rawEvent eventId event durationSeconds uploadEligible =>
    cases begins
    exact Or.inr ⟨eventId, event, durationSeconds, uploadEligible, rfl,
      handleRawEvent_opens eventId event durationSeconds uploadEligible⟩
  | flushDue now =>
    cases begins
    exact Or.inl (detached_empty (EndsIdle.empty (submitting_idle idle rfl fun _ => rfl)))
  | flushNow =>
    cases begins
    exact Or.inl (detached_empty (EndsIdle.empty (flushNow_idle idle config.serviceVersion)))
  | flushShutdown =>
    cases begins
    exact Or.inl (detached_empty (EndsIdle.empty (submitting_idle idle rfl fun _ => rfl)))
  | resumePending =>
    cases begins
    exact Or.inl (detached_empty
      (EndsIdle.empty (resumePending_idle idle "1" config.serviceVersion)))
  | advance task => cases begins
  | sweep kind cutoff limit picked => cases begins
  | restart limit now => cases begins

end Velvt
