import Velvt.UploadHolding

/-!
# The POSTs that a task has yet to count

A POST that did not deliver its batch is counted when its task marks the batch for a retry.
-/

namespace Velvt

open TaskPrograms UploadTask

section Returning

variable {State : Type} (protocol : Protocol UploadCall State) (home : State) (ended : State → Prop)

/-- A task that comes back to where it started, unless it fails. -/
def Returns {Answer : Type} (result : Except CoordinatorError Answer) (last : State) : Prop :=
  match result with
  | .ok _ => last = home
  | .error _ => ended last

/-- A protocol that matters for uploads only: other calls leave it at home. -/
structure Homeward : Prop where
  fails : ended home
  quiet : ∀ {Answer : Type} (operation : UploadCall Answer), operation.names = none →
    protocol.allowed home operation ∧ ∀ answer, protocol.track home operation answer = home
  uploads : ∀ batch respectHostBackoff, Follows protocol (Returns home ended)
    (uploadBatchWithBackoff batch respectHostBackoff).run home
  unlocks : ∀ last, ended last → protocol.allowed last UploadCall.unlockFlushGate ∧
    protocol.track last UploadCall.unlockFlushGate () = last
  serves : ∀ last, ended last → protocol.allowed last UploadCall.serve ∧
    protocol.track last UploadCall.serve () = last

variable {protocol home ended} {Answer : Type}

theorem returns_bind {First Second : Type} {program : UploadTask First}
    {next : First → UploadTask Second}
    (first : Follows protocol (Returns home ended) program.run home)
    (second : ∀ value, Follows protocol (Returns home ended) (next value).run home) :
    Follows protocol (Returns home ended) (program >>= next).run home := by
  rw [follows_except_bind]
  refine first.mono protocol ?_
  rintro (error | value) last returns
  · exact returns
  · have isHome : last = home := returns
    rw [isHome]
    exact second value

theorem pure_returns (value : Answer) :
    Follows protocol (Returns home ended) (pure value : UploadTask Answer).run home :=
  rfl

namespace Homeward

section

variable (homeward : Homeward protocol home ended)

include homeward

theorem repository
    {operation : UploadCall (Except PersistenceError Answer)} (noName : operation.names = none) :
    Follows protocol (Returns home ended) (UploadTask.repository operation).run home := by
  obtain ⟨allowed, stays⟩ := homeward.quiet operation noName
  rw [follows_repository]
  refine ⟨allowed, ?_⟩
  rintro (error | value) -
  · rw [stays]
    exact homeward.fails
  · exact stays _

theorem outside {operation : UploadCall Answer}
    (noName : operation.names = none) :
    Follows protocol (Returns home ended) (UploadTask.outside operation).run home := by
  obtain ⟨allowed, stays⟩ := homeward.quiet operation noName
  rw [follows_outside]
  exact ⟨allowed, fun answer _ => stays answer⟩

theorem uploadEach (schemaVersion clientVersion : String)
    (respectHostBackoff : Bool) (batches : List UploadBatch) :
    Follows protocol (Returns home ended)
      (Velvt.uploadEach schemaVersion clientVersion respectHostBackoff batches).run home := by
  induction batches with
  | nil => exact pure_returns ()
  | cons batch batches ih =>
    unfold Velvt.uploadEach
    apply returns_bind (pure_returns false)
    intro discarded
    split
    · exact ih
    · apply returns_bind (homeward.uploads _ respectHostBackoff)
      intro _
      exact ih

theorem drain (now : Option Int)
    (schemaVersion clientVersion : String) (respectHostBackoff : Bool) :
    Follows protocol (Returns home ended) (do
        let batches ← UploadTask.repository (.resumableBatches now)
        Velvt.uploadEach schemaVersion clientVersion respectHostBackoff batches
        return batches.length : UploadTask Nat).run home := by
  apply returns_bind (homeward.repository rfl)
  intro batches
  apply returns_bind (homeward.uploadEach schemaVersion clientVersion respectHostBackoff batches)
  intro _
  exact pure_returns _

theorem resumePending (schemaVersion clientVersion : String) :
    Follows protocol (Returns home ended)
      (Velvt.resumePending schemaVersion clientVersion).run home := by
  apply returns_bind (homeward.outside rfl)
  intro now
  exact homeward.drain (some now) schemaVersion clientVersion true

theorem persistOrRequeue (batch : BatchPayload) :
    Follows protocol (Returns home ended) (Velvt.persistOrRequeue batch).run home := by
  obtain ⟨allowed, stays⟩ := homeward.quiet (.insertBatchWithEvents batch.batchId
    (batch.events.map batchEvent)) rfl
  unfold Velvt.persistOrRequeue persistBatch
  rw [follows_except_catch, follows_repository]
  refine ⟨allowed, ?_⟩
  rintro (error | _) -
  · rw [stays]
    apply returns_bind (homeward.outside rfl)
    intro _
    exact homeward.fails
  · exact stays _

theorem submitTaken (batch : Option BatchPayload) :
    Follows protocol (Returns home ended) (Velvt.submitTaken batch).run home := by
  cases batch with
  | none => exact pure_returns false
  | some batch =>
    unfold Velvt.submitTaken submitWithInnerReleased
    apply returns_bind
    · apply returns_bind (homeward.persistOrRequeue batch)
      intro _
      exact homeward.uploads batch true
    · intro _
      exact pure_returns true

theorem submitting
    {operation : UploadCall (Option BatchPayload)} (noName : operation.names = none) :
    Follows protocol (Returns home ended) (do
        let batch ← UploadTask.outside operation
        Velvt.submitTaken batch : UploadTask Bool).run home := by
  apply returns_bind (homeward.outside noName)
  exact homeward.submitTaken

theorem ingest (eventId : String)
    (event : AbstractedEvent) (durationSeconds : Nat) (now : Int) :
    Follows protocol (Returns home ended)
      (Velvt.ingest eventId event durationSeconds now).run home := by
  apply returns_bind (homeward.outside rfl)
  intro batch
  apply returns_bind (homeward.submitTaken batch)
  intro _
  exact pure_returns ()

theorem flushNow (serviceVersion : String) :
    Follows protocol (Returns home ended) (Velvt.flushNow serviceVersion).run home := by
  obtain ⟨locks, stays⟩ := homeward.quiet .lockFlushGate rfl
  have drained (value : Bool) : Follows protocol (Returns home ended)
      (do let _ ← flushAllPending "1" serviceVersion; return value : UploadTask Bool).run home := by
    apply returns_bind (homeward.drain none "1" serviceVersion false)
    intro _
    exact pure_returns value
  have finishes (result : Except CoordinatorError Bool) (last : State)
      (returns : Returns home ended result last) :
      protocol.allowed last UploadCall.unlockFlushGate ∧
        ∀ answer, protocol.possible UploadCall.unlockFlushGate answer →
          Returns home ended result (protocol.track last UploadCall.unlockFlushGate answer) := by
    have isEnded : ended last := by
      cases result with
      | ok value =>
        have isHome : last = home := returns
        rw [isHome]
        exact homeward.fails
      | error error => exact returns
    obtain ⟨unlocks, same⟩ := homeward.unlocks last isEnded
    refine ⟨unlocks, fun _ _ => ?_⟩
    rw [same]
    exact returns
  unfold Velvt.flushNow
  rw [follows_withFlushGate]
  refine ⟨locks, fun answer _ => ?_⟩
  rw [stays]
  refine Follows.mono protocol ?_ finishes
  apply returns_bind (homeward.outside rfl)
  rintro (_ | batch)
  · exact drained false
  · apply returns_bind (homeward.persistOrRequeue batch)
    intro _
    exact drained true

theorem pushEach (now : Int)
    (entries : List RawEventEntry) :
    Follows protocol (Returns home ended) (Velvt.pushEach now entries).run home := by
  induction entries with
  | nil => exact pure_returns ()
  | cons entry entries ih =>
    apply returns_bind (homeward.outside rfl)
    intro batch
    apply returns_bind (homeward.submitTaken batch)
    intro _
    exact ih

theorem recoverUnbatched (limit : Nat) (now : Int) :
    Follows protocol (Returns home ended) (Velvt.recoverUnbatched limit now).run home := by
  apply returns_bind (homeward.repository rfl)
  intro pending
  apply returns_bind (homeward.pushEach now pending.reverse)
  intro _
  exact pure_returns _

theorem detached {task : UploadTask Answer}
    (follows : Follows protocol (Returns home ended) task.run home) :
    Follows protocol (fun _ => ended) (Velvt.detached task) home := by
  unfold Velvt.detached
  rw [follows_bind]
  refine follows.mono protocol ?_
  rintro (error | value) last returns
  · exact returns
  · have isHome : last = home := returns
    rw [isHome]
    exact homeward.fails

theorem handleRawEvent (eventId : String)
    (event : AbstractedEvent) (durationSeconds : Nat) (uploadEligible : Bool) :
    Follows protocol (fun _ => ended)
      (Velvt.handleRawEvent eventId event durationSeconds uploadEligible) home := by
  unfold Velvt.handleRawEvent
  have inserts (entry : RawEventEntry) := homeward.quiet (.insertRawEvent entry) rfl
  rw [follows_bind, follows_ask]
  refine ⟨(inserts _).1, ?_⟩
  rintro (error | _) -
  · rw [(inserts _).2]
    exact homeward.fails
  · rw [(inserts _).2]
    cases uploadEligible with
    | false => exact homeward.fails
    | true =>
      obtain ⟨reads, same⟩ := homeward.quiet .utcNow rfl
      refine ⟨reads, fun now _ => ?_⟩
      rw [same]
      exact homeward.detached (homeward.ingest eventId event durationSeconds now)

theorem startup (limit : Nat) (now : Int) :
    Follows protocol (fun _ => ended) (Velvt.startup limit now) home := by
  unfold Velvt.startup
  rw [follows_bind]
  refine (homeward.detached (homeward.recoverUnbatched limit now)).mono protocol ?_
  intro _ last isEnded
  obtain ⟨serves, same⟩ := homeward.serves last isEnded
  refine ⟨serves, fun _ _ => ?_⟩
  rw [same]
  exact isEnded

theorem begun {config : AssemblerConfig}
    {operation : UploadOperation} {waits : Bool} {program : Program UploadCall Unit}
    (begins : UploadWorld.begun config operation = some (waits, program)) :
    Follows protocol (fun _ => ended) program home := by
  cases operation with
  | rawEvent eventId event durationSeconds uploadEligible =>
    cases begins
    exact homeward.handleRawEvent eventId event durationSeconds uploadEligible
  | flushDue now =>
    cases begins
    exact homeward.detached (homeward.submitting rfl)
  | flushNow =>
    cases begins
    exact homeward.detached (homeward.flushNow config.serviceVersion)
  | flushShutdown =>
    cases begins
    exact homeward.detached (homeward.submitting rfl)
  | resumePending =>
    cases begins
    exact homeward.detached (homeward.resumePending "1" config.serviceVersion)
  | advance task => cases begins
  | sweep kind cutoff limit picked => cases begins
  | restart limit now => cases begins

end

end Homeward

end Returning

section Debts

/-- What a task owes: the batch of a POST that is not counted yet, and whether a statement has
failed since. -/
structure Debt where
  owed : Option String
  stuck : Bool
  deriving DecidableEq

def retries : Except BatchUploadError UploadOutcome → Bool
  | .error _ | .ok (.rateLimited _) | .ok (.retryable _) => true
  | .ok _ => false

namespace Debt

def clear : Debt where
  owed := none
  stuck := false

def owing (batchId : String) : Debt where
  owed := some batchId
  stuck := false

def failing (debt : Debt) : Debt :=
  { debt with stuck := debt.stuck || debt.owed.isSome }

/-- A task may end that owes nothing, or was stopped by a failure. -/
def Ended (debt : Debt) : Prop := debt = clear ∨ debt.stuck = true

def marked (debt : Debt) : Except PersistenceError Unit → Debt
  | .ok () => { debt with owed := none }
  | .error _ => debt.failing

end Debt

namespace UploadCall

variable {Answer : Type}

/-- A POST is made by a task that owes nothing, and counted for the batch it was made for. -/
def AllowedOwing (debt : Debt) : UploadCall Answer → Prop
  | .send _ | .receive _ => debt = .clear
  | .markPendingRetry batchId _ _ => debt = .owing batchId
  | .markFailed batchId _ _ => debt = .clear ∨ debt = .owing batchId
  | _ => True

def debtAfter (debt : Debt) : UploadCall Answer → Answer → Debt
  | .receive batch, answer => if retries answer then .owing batch.batchId else debt
  | .markFailed _ _ _, answer => debt.marked answer
  | .markPendingRetry _ _ _, answer => debt.marked answer
  | .hostBackoffAttempt, .error _ => debt.failing
  | .setHostBackoff _ _, .error _ => debt.failing
  | _, _ => debt

end UploadCall

def debts : Protocol UploadCall Debt where
  allowed debt operation := operation.AllowedOwing debt
  possible _ _ := True
  track debt operation answer := operation.debtAfter debt answer

/-- A step of a task that owes a count: it still owes it, or a failure has stopped the task. -/
def StillOwes {Answer : Type} (batchId : String) (result : Except CoordinatorError Answer)
    (last : Debt) : Prop :=
  Returns (Debt.owing batchId) Debt.Ended result last

/-- A mark counts what is owed, or fails. -/
def Counted {Answer : Type} (result : Except CoordinatorError Answer) (last : Debt) : Prop :=
  Returns Debt.clear Debt.Ended result last

variable {Answer : Type}

theorem outside_owes (operation : UploadCall Answer) (debt : Debt)
    (allowed : operation.AllowedOwing debt)
    (stays : ∀ answer, operation.debtAfter debt answer = debt) :
    Follows debts (Returns debt Debt.Ended) (outside operation).run debt := by
  rw [follows_outside]
  exact ⟨allowed, fun answer _ => stays answer⟩

theorem nextAttempt_owes (batchId : String) (retryAfter : Option String) :
    Follows debts (StillOwes batchId) (nextAttempt retryAfter).run (.owing batchId) := by
  have failed : Debt.Ended (Debt.owing batchId).failing := Or.inr rfl
  apply returns_bind
  · rw [follows_repository]
    refine ⟨trivial, ?_⟩
    rintro (error | attempt) -
    · exact failed
    · rfl
  intro attempt
  apply returns_bind (outside_owes (.nextDelay attempt retryAfter) _ trivial fun _ => rfl)
  intro delay
  apply returns_bind (outside_owes .utcNow _ trivial fun _ => rfl)
  intro now
  apply returns_bind
  · rw [follows_repository]
    refine ⟨trivial, ?_⟩
    rintro (error | _) -
    · exact failed
    · rfl
  intro _
  exact pure_returns _

theorem owes_bind {First Second : Type} {batchId : String} {program : UploadTask First}
    {next : First → UploadTask Second}
    (first : Follows debts (StillOwes batchId) program.run (.owing batchId))
    (second : ∀ value, Follows debts Counted (next value).run (.owing batchId)) :
    Follows debts Counted (program >>= next).run (.owing batchId) := by
  rw [follows_except_bind]
  refine first.mono debts ?_
  rintro (error | value) last owes
  · exact owes
  · have isOwing : last = .owing batchId := owes
    rw [isOwing]
    exact second value

theorem markFailed_counts (batchId : String) (nextAttemptAt : Int) (errorCode : String) :
    Follows debts Counted (repository (.markFailed batchId nextAttemptAt errorCode)).run
      (.owing batchId) := by
  rw [follows_repository]
  refine ⟨Or.inr rfl, ?_⟩
  rintro (error | _) -
  · exact Or.inr rfl
  · rfl

theorem scheduleNetworkRetry_counts (batchId : String) :
    Follows debts Counted (scheduleNetworkRetry batchId).run (.owing batchId) := by
  apply owes_bind (nextAttempt_owes batchId none)
  intro nextAttemptAt
  rw [follows_repository]
  refine ⟨rfl, ?_⟩
  rintro (error | _) -
  · exact Or.inr rfl
  · rfl

theorem repository_clear (operation : UploadCall (Except PersistenceError Answer))
    (allowed : operation.AllowedOwing .clear)
    (stays : ∀ answer, operation.debtAfter .clear answer = .clear) :
    Follows debts Counted (repository operation).run .clear := by
  rw [follows_repository]
  refine ⟨allowed, ?_⟩
  rintro (error | value) -
  · exact Or.inl (stays _)
  · exact stays _

theorem marked_clear (answer : Except PersistenceError Unit) :
    Debt.clear.marked answer = .clear := by
  rcases answer with error | _ <;> rfl

theorem recordOutcome_counts (batch : BatchPayload) (outcome : UploadOutcome) :
    Follows debts Counted (recordOutcome batch outcome).run
      (if retries (.ok outcome) then .owing batch.batchId else .clear) := by
  have delivered : Follows debts Counted
      (do repository (.markSent batch.batchId); repository .clearHostBackoff :
        UploadTask Unit).run .clear := by
    apply returns_bind (repository_clear (.markSent batch.batchId) trivial fun _ => rfl)
    intro _
    exact repository_clear .clearHostBackoff trivial fun _ => rfl
  have retried (retryAfter : Option String) (code : String) : Follows debts Counted (do
          let nextAttemptAt ← nextAttempt retryAfter
          repository (.markFailed batch.batchId nextAttemptAt code) : UploadTask Unit).run
        (.owing batch.batchId) := by
    apply owes_bind (nextAttempt_owes batch.batchId retryAfter)
    intro nextAttemptAt
    exact markFailed_counts batch.batchId nextAttemptAt code
  cases outcome with
  | accepted => exact delivered
  | duplicate => exact delivered
  | rawFieldRejected message =>
    apply returns_bind (repository_clear (.markRejected batch.batchId "raw_field_rejected")
      trivial fun _ => rfl)
    intro _
    exact outside_owes (.alert "Sensitive activity details were blocked before upload.") _
      trivial fun _ => rfl
  | rateLimited retryAfter => exact retried retryAfter "rate_limited"
  | retryable code => exact retried none code

theorem heldByHostBackoff_clear (batch : BatchPayload) (respectHostBackoff : Bool) :
    Follows debts Counted (heldByHostBackoff batch respectHostBackoff).run .clear := by
  cases respectHostBackoff with
  | false => exact pure_returns false
  | true =>
    apply returns_bind (repository_clear .hostBackoffUntil trivial fun _ => rfl)
    rintro (_ | nextAttemptAt)
    · exact pure_returns false
    · apply returns_bind (outside_owes .utcNow _ trivial fun _ => rfl)
      intro now
      split
      · apply returns_bind
          (repository_clear (.markFailed batch.batchId nextAttemptAt "host_backoff")
            (Or.inl rfl) marked_clear)
        intro _
        exact pure_returns true
      · exact pure_returns false

theorem uploadBatchWithBackoff_counts (batch : BatchPayload) (respectHostBackoff : Bool) :
    Follows debts Counted (uploadBatchWithBackoff batch respectHostBackoff).run .clear := by
  unfold uploadBatchWithBackoff
  apply returns_bind (heldByHostBackoff_clear batch respectHostBackoff)
  intro held
  split
  · exact pure_returns ()
  · rw [follows_except_bind]
    refine ⟨rfl, fun _ _ => ⟨rfl, fun answer _ => ?_⟩⟩
    rcases answer with (_ | _) | outcome
    · exact scheduleNetworkRetry_counts batch.batchId
    · apply owes_bind (outside_owes .utcNow _ trivial fun _ => rfl)
      intro now
      exact markFailed_counts batch.batchId _ _
    · exact recordOutcome_counts batch outcome

theorem debts_homeward : Homeward debts Debt.clear Debt.Ended where
  fails := Or.inl rfl
  quiet operation noName := by
    cases operation <;> simp only [UploadCall.names, reduceCtorEq] at noName <;>
      refine ⟨trivial, ?_⟩ <;> intro answer <;>
      first
        | rfl
        | (rcases answer with error | value <;> rfl)
  uploads := uploadBatchWithBackoff_counts
  unlocks _ _ := ⟨trivial, rfl⟩
  serves _ _ := ⟨trivial, rfl⟩

end Debts

end Velvt
