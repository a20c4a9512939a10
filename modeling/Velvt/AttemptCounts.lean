import Velvt.PostDebts
import Velvt.UploadTerminal

/-!
# Attempts and undelivered POSTs

One statement counts the attempts of a batch, and five branches reach it.
-/

namespace Velvt

open StepMachine TaskPrograms List

/-- A batch that is not concluded is abandoned exactly when its attempts are spent. -/
def UploadBatchRow.AbandonedWhenSpent (row : UploadBatchRow) : Prop :=
  ¬ row.status.Concluded → (row.status = .abandoned ↔ uploadBatchAttemptCeiling ≤ row.attemptCount)

def Debt.uncounted (debt : Debt) : List String :=
  if debt.stuck then [] else debt.owed.toList

theorem Debt.uncounted_failing (debt : Debt) : debt.failing.uncounted = [] := by
  obtain ⟨owed, stuck⟩ := debt
  cases owed <;> cases stuck <;> rfl

namespace UploadCall

variable {Answer : Type}

def awaits : UploadCall Answer → Option String
  | .receive batch => some batch.batchId
  | _ => none

def counts : UploadCall Answer → Answer → List String
  | .markFailed batchId _ _, .ok () | .markPendingRetry batchId _ _, .ok () => [batchId]
  | _, _ => []

end UploadCall

/-- How many POSTs of one upload did not deliver it: those that were refused or lost before the
answer, and the answered one unless it delivers. -/
def undeliveredPosts : Except BatchUploadError UploadOutcome → Nat → Nat
  | .error _, refused => refused
  | .ok .accepted, refused | .ok .duplicate, refused => refused
  | .ok _, refused => refused + 1

/-- The upload makes one POST, and the server does not reject it. -/
def OnePost : Except BatchUploadError UploadOutcome → Nat → Prop
  | .error _, refused => refused = 1
  | .ok (.rawFieldRejected _), _ => False
  | .ok _, refused => refused = 0

instance (response : Except BatchUploadError UploadOutcome) (refused : Nat) :
    Decidable (OnePost response refused) := by
  unfold OnePost
  split <;> infer_instance

theorem OnePost.undelivered {response : Except BatchUploadError UploadOutcome} {refused : Nat}
    (onePost : OnePost response refused) :
    undeliveredPosts response refused = if retries response then 1 else 0 := by
  rcases response with error | outcome
  · exact onePost
  · cases outcome with
    | rawFieldRejected message => exact onePost.elim
    | accepted => exact onePost
    | duplicate => exact onePost
    | rateLimited retryAfter => exact congrArg (· + 1) onePost
    | retryable code => exact congrArg (· + 1) onePost

def UploadCall.losses {Answer : Type} (operation : UploadCall Answer)
    (response : Except BatchUploadError UploadOutcome) (refused : Nat) : List String :=
  operation.awaits.toList.flatMap (List.replicate (undeliveredPosts response refused))

def debtOf (task : Task UploadCall) : Debt := debts.reached .clear task.trace

def awaiting (task : Task UploadCall) : Option String :=
  match task.program with
  | .done _ => none
  | .call operation _ => operation.awaits

/-- The upload path, beside the batches of the POSTs that did not deliver. -/
structure CountedWorld where
  world : UploadWorld
  undelivered : List String

namespace CountedWorld

def opened : CountedWorld where
  world := UploadWorld.opened
  undelivered := []

variable (state : CountedWorld)

/-- The batches of the POSTs that running tasks have yet to count. -/
def owing : List String := state.world.tasks.flatMap fun task => (debtOf task).uncounted

/-- The batch has a row. -/
def Has (batchId : String) : Prop := batchId ∈ state.world.rows.map (·.batchId)
  deriving Decidable

/-- The condition on one call: a batch is counted where a POST is, and nowhere else. -/
def FairCall {Answer : Type} (input : UploadInput) (refused : Nat) (debt : Debt) :
    UploadCall Answer → Prop
  | .receive batch => state.Has batch.batchId → OnePost input.response refused
  -- Of the two marks under this name, the one of a task that owes nothing is the host's backoff.
  | .markFailed batchId _ _ => state.Has batchId → (input.storeFails = true ↔ debt = .clear)
  | .markPendingRetry batchId _ _ => state.Has batchId → input.storeFails = false
  | .hostBackoffAttempt | .setHostBackoff _ _ =>
    input.storeFails = true → ∀ batchId ∈ debt.uncounted, ¬ state.Has batchId
  -- A batch that was deleted is queued again under its old name.
  | .insertBatchWithEvents batchId events =>
    (state.world.shared.store.insertBatchWithEvents batchId events input.now).isOk = true →
      input.storeFails = false →
      state.undelivered.count batchId = state.owing.count batchId
  | _ => True

instance {Answer : Type} (input : UploadInput) (refused : Nat) (debt : Debt)
    (operation : UploadCall Answer) : Decidable (state.FairCall input refused debt operation) := by
  unfold FairCall
  split <;> infer_instance

/-- The condition on the next call of a task. -/
def FairTask (input : UploadInput) (refused : Nat) : Option (Task UploadCall) → Prop
  | some { trace, program := .call operation _ } =>
    state.FairCall input refused (debts.reached .clear trace) operation
  | _ => True

instance (input : UploadInput) (refused : Nat) (task : Option (Task UploadCall)) :
    Decidable (state.FairTask input refused task) := by
  unfold FairTask
  split <;> infer_instance

/-- The condition on one step.  The process ends only while every POST of a batch that has a row
is answered and counted. -/
def Fair : (UploadOperation × UploadInput) × Nat → Prop
  | ((.advance task, input), refused) => state.FairTask input refused state.world.tasks[task]?
  | ((.restart _ _, _), _) =>
    ∀ batchId ∈ state.owing ++ state.world.tasks.filterMap awaiting, ¬ state.Has batchId
  | _ => True

instance (operation : (UploadOperation × UploadInput) × Nat) :
    Decidable (state.Fair operation) := by
  unfold Fair
  split <;> infer_instance

/-- The POSTs that a step shows not to have delivered.  One that the end of the process cuts off
is taken for lost. -/
def lost (response : Except BatchUploadError UploadOutcome) (refused : Nat) :
    UploadOperation → List String
  | .advance task =>
    ((state.world.tasks[task]?).bind awaiting).toList.flatMap
      (List.replicate (undeliveredPosts response refused))
  | .restart _ _ => state.world.tasks.filterMap awaiting
  | _ => []

def next (config : AssemblerConfig) (operation : (UploadOperation × UploadInput) × Nat) :
    CountedWorld where
  world := state.world.next config operation.1.1 operation.1.2
  undelivered := state.undelivered ++ state.lost operation.1.2.response operation.2 operation.1.1

end CountedWorld

/-- The upload path as a step machine that keeps the undelivered POSTs.  With each step goes how
many POSTs the upload made before the one that was answered; where no answer came, how many at
all. -/
def countedMachine (config : AssemblerConfig) :
    Machine CountedWorld ((UploadOperation × UploadInput) × Nat) Unit where
  step state operation := ((), state.next config operation)

section Perform

variable {config : AssemblerConfig} {input : UploadInput} {shared after : UploadShared}

/-- Where a row comes from that a call leaves. -/
inductive RowOrigin (input : UploadInput) (shared : UploadShared) :
    {Answer : Type} → UploadCall Answer → Answer → UploadBatchRow → Prop
  | kept {Answer : Type} {operation : UploadCall Answer} {answer : Answer}
      {earlier row : UploadBatchRow} (isRow : earlier ∈ shared.store.batches)
      (sameId : earlier.batchId = row.batchId)
      (attempts : row.attemptCount =
        earlier.attemptCount + (operation.counts answer).count row.batchId)
      (keeps : earlier.AbandonedWhenSpent → row.AbandonedWhenSpent) :
      RowOrigin input shared operation answer row
  | inserted {events : List BatchEvent} {row : UploadBatchRow}
      (admitted : (shared.store.insertBatchWithEvents row.batchId events input.now).isOk = true)
      (works : input.storeFails = false) (attempts : row.attemptCount = 0)
      (isPending : row.status = .pending) :
      RowOrigin input shared (.insertBatchWithEvents row.batchId events) (.ok ()) row

variable {row : UploadBatchRow}

theorem RowOrigin.of_same {Answer : Type} {operation : UploadCall Answer} {answer : Answer}
    (noCount : operation.counts answer = [])
    (same : after.store.batches = shared.store.batches) (isRow : row ∈ after.store.batches) :
    RowOrigin input shared operation answer row := by
  rw [same] at isRow
  exact .kept isRow rfl (by rw [noCount, count_nil, Nat.add_zero]) id

variable {batchId : String}

theorem mem_rewriteRows {rows : List UploadBatchRow} {change : UploadBatchRow → UploadBatchRow}
    (isRow : row ∈ rewriteRows rows batchId change) :
    ∃ earlier ∈ rows, row = if earlier.batchId = batchId then change earlier else earlier := by
  obtain ⟨earlier, isEarlier, isChanged⟩ := mem_map.mp isRow
  exact ⟨earlier, isEarlier, isChanged.symm⟩

theorem RowOrigin.of_concluding {operation : UploadCall (Except PersistenceError Unit)}
    {change : UploadBatchRow → UploadBatchRow}
    {answer : Except PersistenceError Unit}
    (noCount : operation.counts answer = [])
    (sameId : ∀ earlier, (change earlier).batchId = earlier.batchId)
    (sameCount : ∀ earlier, (change earlier).attemptCount = earlier.attemptCount)
    (concludes : ∀ earlier, (change earlier).status.Concluded)
    (handled : shared.command input (shared.store.updateBatch batchId change) =
      some (answer, after))
    (isRow : row ∈ after.store.batches) : RowOrigin input shared operation answer row := by
  rcases command_cases handled with ⟨-, rfl⟩ | ⟨store, updated, -, rfl⟩
  · exact .of_same noCount rfl isRow
  · rw [updateBatch_batches updated] at isRow
    obtain ⟨earlier, isEarlier, rfl⟩ := mem_rewriteRows isRow
    split
    · refine .kept isEarlier (sameId earlier).symm ?_ fun _ unconcluded => ?_
      · rw [noCount, sameCount, count_nil, Nat.add_zero]
      · exact absurd (concludes earlier) unconcluded
    · exact .kept isEarlier rfl (by rw [noCount, count_nil, Nat.add_zero]) id

theorem RowOrigin.of_retry {operation : UploadCall (Except PersistenceError Unit)}
    {retryStatus : UploadBatchStatus} {nextAttemptAt : Int}
    {errorCode : String} {answer : Except PersistenceError Unit}
    (isRetry : ¬ retryStatus.Terminal) (failed : ∀ error, operation.counts (.error error) = [])
    (counted : operation.counts (.ok ()) = [batchId]) (handled : shared.command input
      (shared.store.updateBatchRetryState retryStatus batchId nextAttemptAt errorCode) =
        some (answer, after))
    (isRow : row ∈ after.store.batches) : RowOrigin input shared operation answer row := by
  rcases command_cases handled with ⟨⟨error, rfl⟩, rfl⟩ | ⟨store, updated, rfl, rfl⟩
  · exact .of_same (failed error) rfl isRow
  · rw [updateBatch_batches updated] at isRow
    obtain ⟨earlier, isEarlier, rfl⟩ := mem_rewriteRows isRow
    split
    next isBatch =>
      refine .kept isEarlier rfl ?_ fun _ _ => ?_
      · rw [counted, isBatch, count_singleton_self]
      · simp only
        split
        next spent => exact iff_of_true rfl spent
        next left =>
          refine iff_of_false ?_ left
          rintro rfl
          exact isRetry trivial
    next other =>
      refine .kept isEarlier rfl ?_ id
      rw [counted, count_cons_of_ne (Ne.symm other), count_nil, Nat.add_zero]

/-- Every row after a call is an old row, or one that this call has written. -/
theorem performUpload_origin {Answer : Type} {operation : UploadCall Answer} {answer : Answer}
    (handled : performUpload config Answer input shared operation = some (answer, after))
    (isRow : row ∈ after.store.batches) :
    RowOrigin input shared operation answer row := by
  -- A statement on another table.
  have elsewhere {result : Except PersistenceError UploadStore}
      {answer : Except PersistenceError Unit} {after : UploadShared}
      (same : ∀ store, result = .ok store → store.batches = shared.store.batches)
      (handled : shared.command input result = some (answer, after)) :
      after.store.batches = shared.store.batches := by
    rcases command_cases handled with ⟨-, rfl⟩ | ⟨store, isStore, -, rfl⟩
    · rfl
    · exact same store isStore
  cases operation with
  | push event now =>
    cases handled
    exact .of_same rfl rfl isRow
  | flushDue now =>
    cases handled
    exact .of_same rfl rfl isRow
  | flushShutdown =>
    cases handled
    exact .of_same rfl rfl isRow
  | requeue batch =>
    cases handled
    exact .of_same rfl rfl isRow
  | lockFlushGate =>
    simp only [performUpload] at handled
    split at handled
    · cases handled
    · cases handled
      exact .of_same rfl rfl isRow
  | unlockFlushGate =>
    cases handled
    exact .of_same rfl rfl isRow
  | insertBatchWithEvents batchId events =>
    simp only [performUpload, UploadShared.command] at handled
    split at handled
    · cases handled
      exact .of_same rfl rfl isRow
    next works =>
      cases isResult : shared.store.insertBatchWithEvents batchId events input.now with
      | error error =>
        rw [isResult] at handled
        cases handled
        exact .of_same rfl rfl isRow
      | ok store =>
        rw [isResult] at handled
        cases handled
        have admitted :
            (shared.store.insertBatchWithEvents batchId events input.now).isOk = true := by
          rw [isResult]
          rfl
        unfold UploadStore.insertBatchWithEvents at isResult
        split at isResult
        · cases isResult
        · cases isResult
          rcases mem_append.mp isRow with before | isNew
          · exact .kept before rfl rfl id
          · have isBatch : row.batchId = batchId := by
              rw [mem_singleton.mp isNew]
            have attempts : row.attemptCount = 0 := by
              rw [mem_singleton.mp isNew]
            have isPending : row.status = .pending := by
              rw [mem_singleton.mp isNew]
            subst isBatch
            exact .inserted admitted (Bool.eq_false_iff.mpr works) attempts isPending
  | markSent batchId =>
    refine .of_concluding rfl ?_ ?_ ?_ handled isRow
    · intro _
      rfl
    · intro _
      rfl
    · intro _
      trivial
  | markFailed batchId nextAttemptAt errorCode =>
    have isRetry : ¬ UploadBatchStatus.failed.Terminal := id
    exact .of_retry isRetry (fun _ => rfl) rfl handled isRow
  | markPendingRetry batchId nextAttemptAt errorCode =>
    have isRetry : ¬ UploadBatchStatus.pending.Terminal := id
    exact .of_retry isRetry (fun _ => rfl) rfl handled isRow
  | markRejected batchId errorCode =>
    refine .of_concluding rfl ?_ ?_ ?_ handled isRow
    · intro _
      rfl
    · intro _
      rfl
    · intro _
      trivial
  | discardBatch batchId =>
    rcases command_cases handled with ⟨-, rfl⟩ | ⟨store, isStore, -, rfl⟩
    · exact .of_same rfl rfl isRow
    · unfold UploadStore.discardBatch at isStore
      split at isStore
      · cases isStore
        exact .kept (mem_filter.mp isRow).1 rfl rfl id
      · cases isStore
  | resumableBatches now =>
    obtain ⟨rfl, -⟩ := query_cases handled
    exact .of_same rfl rfl isRow
  | hostBackoffUntil =>
    obtain ⟨rfl, -⟩ := query_cases handled
    exact .of_same rfl rfl isRow
  | hostBackoffAttempt =>
    obtain ⟨rfl, -⟩ := query_cases handled
    exact .of_same rfl rfl isRow
  | setHostBackoff attemptCount nextAttemptAt =>
    simp only [performUpload] at handled
    refine .of_same ?_ (elsewhere ?_ handled) isRow
    · cases answer <;> rfl
    · rintro store isStore
      cases isStore
      rfl
  | clearHostBackoff =>
    simp only [performUpload] at handled
    refine .of_same ?_ (elsewhere ?_ handled) isRow
    · cases answer <;> rfl
    · rintro store isStore
      cases isStore
      rfl
  | insertRawEvent entry =>
    refine .of_same ?_ (elsewhere ?_ handled) isRow
    · cases answer <;> rfl
    · rintro store isStore
      unfold UploadStore.insertRawEvent at isStore
      split at isStore
      · cases isStore
      · cases isStore
        rfl
  | unbatchedEvents limit =>
    obtain ⟨rfl, -⟩ := query_cases handled
    exact .of_same rfl rfl isRow
  | utcNow =>
    cases handled
    exact .of_same rfl rfl isRow
  | nextDelay attempt retryAfter =>
    cases handled
    exact .of_same rfl rfl isRow
  | send batch =>
    cases handled
    exact .of_same rfl rfl isRow
  | receive batch =>
    cases handled
    exact .of_same rfl rfl isRow
  | alert message =>
    cases handled
    exact .of_same rfl rfl isRow
  | serve =>
    cases handled
    exact .of_same rfl rfl isRow

end Perform

namespace CountedWorld

section Call

variable {config : AssemblerConfig} {input : UploadInput} {state : CountedWorld}
  {after : UploadShared} {refused : Nat} {debt : Debt} {batchId : String}

theorem marks_works {retryStatus : UploadBatchStatus} {marked : String} {nextAttemptAt : Int}
    {errorCode : String} {answer : Except PersistenceError Unit} (has : state.Has marked)
    (handled : state.world.shared.command input
      (state.world.shared.store.updateBatchRetryState retryStatus marked nextAttemptAt
        errorCode) = some (answer, after)) :
    input.storeFails = true ∧ (∃ error, answer = .error error) ∨
      input.storeFails = false ∧ answer = .ok () := by
  obtain ⟨row, isRow, isMarked⟩ := mem_map.mp has
  have isAny : (state.world.shared.store.batches.any fun row => row.batchId == marked) = true := by
    rw [any_eq_true]
    exact ⟨row, isRow, beq_iff_eq.mpr isMarked⟩
  unfold UploadShared.command at handled
  split at handled
  next fails =>
    cases handled
    exact Or.inl ⟨fails, _, rfl⟩
  next works =>
    simp only [UploadStore.updateBatchRetryState, UploadStore.updateBatch, isAny, if_true]
      at handled
    cases handled
    exact Or.inr ⟨Bool.eq_false_iff.mpr works, rfl⟩

theorem query_fails {Answer : Type} {value : Answer} {error : PersistenceError}
    (handled : state.world.shared.query input value = some (.error error, after)) :
    input.storeFails = true := by
  unfold UploadShared.query at handled
  split at handled
  next fails => exact fails
  next => cases handled

theorem command_fails {store : UploadStore} {error : PersistenceError}
    (handled : state.world.shared.command input (.ok store) = some (.error error, after)) :
    input.storeFails = true := by
  unfold UploadShared.command at handled
  split at handled
  next fails => exact fails
  next => cases handled

theorem count_singleton_of_ne {first second : String} (different : first ≠ second) :
    [first].count second = 0 := by
  rw [count_cons_of_ne different, count_nil]

theorem failing_balances (has : state.Has batchId)
    (noRow : ∀ owed ∈ debt.uncounted, ¬ state.Has owed) :
    debt.failing.uncounted.count batchId = debt.uncounted.count batchId := by
  have notOwed : batchId ∉ debt.uncounted := fun member => noRow batchId member has
  rw [Debt.uncounted_failing, count_eq_zero_of_not_mem notOwed, count_nil]

theorem owed_mark_balances {marked : String} {answer : Except PersistenceError Unit}
    {counted : List String} (has : state.Has batchId)
    (isCounted : counted = match answer with | .ok () => [marked] | .error _ => [])
    (works : batchId = marked → answer = .ok ()) :
    counted.count batchId + ((Debt.owing marked).marked answer).uncounted.count batchId =
      (Debt.owing marked).uncounted.count batchId := by
  rcases answer with error | _
  · have different : marked ≠ batchId := by
      rintro rfl
      cases works rfl
    change counted.count batchId + (Debt.owing marked).failing.uncounted.count batchId =
      [marked].count batchId
    rw [isCounted, Debt.uncounted_failing, count_singleton_of_ne different, count_nil]
  · rw [isCounted]
    rfl

/-- The posts a call counts or still owes are those it owed and those it lost. -/
theorem call_balances {Answer : Type} {operation : UploadCall Answer} {answer : Answer}
    (allowed : operation.AllowedOwing debt)
    (fair : state.FairCall input refused debt operation) (has : state.Has batchId)
    (handled : performUpload config Answer input state.world.shared operation =
      some (answer, after)) :
    (operation.counts answer).count batchId +
        (operation.debtAfter debt answer).uncounted.count batchId =
      debt.uncounted.count batchId + (operation.losses input.response refused).count batchId := by
  have untouched {Answer : Type} {operation : UploadCall Answer} {answer : Answer}
      (noCount : operation.counts answer = []) (noLoss : operation.awaits = none)
      (stays : operation.debtAfter debt answer = debt) :
      (operation.counts answer).count batchId +
          (operation.debtAfter debt answer).uncounted.count batchId =
        debt.uncounted.count batchId + (operation.losses input.response refused).count batchId := by
    rw [noCount, stays, UploadCall.losses, noLoss]
    exact Nat.zero_add _
  cases operation with
  | receive batch =>
    cases handled
    obtain rfl : debt = .clear := allowed
    by_cases isBatch : batch.batchId = batchId
    · subst isBatch
      have posts := (fair has).undelivered
      change 0 + (if retries input.response then Debt.owing batch.batchId
          else Debt.clear).uncounted.count batch.batchId =
        0 + (List.replicate (undeliveredPosts input.response refused) batch.batchId ++
          []).count batch.batchId
      rw [append_nil, count_replicate_self, posts]
      split
      · change 0 + [batch.batchId].count batch.batchId = 0 + 1
        rw [count_singleton_self]
      · rfl
    · change 0 + (if retries input.response then Debt.owing batch.batchId
          else Debt.clear).uncounted.count batchId =
        0 + (List.replicate (undeliveredPosts input.response refused) batch.batchId ++
          []).count batchId
      have notLost : batchId ∉
          List.replicate (undeliveredPosts input.response refused) batch.batchId :=
        fun member => isBatch (eq_of_mem_replicate member).symm
      rw [append_nil, count_eq_zero_of_not_mem notLost]
      split
      · change 0 + [batch.batchId].count batchId = 0 + 0
        rw [count_singleton_of_ne isBatch]
      · rfl
  | markFailed marked nextAttemptAt errorCode =>
    rcases allowed with rfl | rfl
    · -- The mark of the host's backoff counts nothing, as it fails.
      change ((UploadCall.markFailed marked nextAttemptAt errorCode).counts answer).count batchId +
          (Debt.clear.marked answer).uncounted.count batchId = 0
      rw [marked_clear]
      rcases answer with error | _
      · rfl
      · have different : marked ≠ batchId := by
          rintro rfl
          have fails := (fair has).mpr rfl
          rcases marks_works has handled with ⟨-, error, isError⟩ | ⟨works, -⟩
          · cases isError
          · rw [fails] at works
            cases works
        exact count_singleton_of_ne different
    · refine owed_mark_balances has ?_ ?_
      · rcases answer with error | _ <;> rfl
      · rintro rfl
        rcases marks_works has handled with ⟨fails, -⟩ | ⟨-, isOk⟩
        · cases (fair has).mp fails
        · exact isOk
  | markPendingRetry marked nextAttemptAt errorCode =>
    obtain rfl : debt = .owing marked := allowed
    refine owed_mark_balances has ?_ ?_
    · rcases answer with error | _ <;> rfl
    · rintro rfl
      rcases marks_works has handled with ⟨fails, -⟩ | ⟨-, isOk⟩
      · rw [fair has] at fails
        cases fails
      · exact isOk
  | hostBackoffAttempt =>
    rcases answer with error | attempt
    · change 0 + debt.failing.uncounted.count batchId = debt.uncounted.count batchId
      rw [failing_balances has (fair (query_fails handled)), Nat.zero_add]
    · exact untouched rfl rfl rfl
  | setHostBackoff attemptCount nextAttemptAt =>
    rcases answer with error | _
    · change 0 + debt.failing.uncounted.count batchId = debt.uncounted.count batchId
      rw [failing_balances has (fair (command_fails handled)), Nat.zero_add]
    · exact untouched rfl rfl rfl
  | push event now => exact untouched rfl rfl rfl
  | flushDue now => exact untouched rfl rfl rfl
  | flushShutdown => exact untouched rfl rfl rfl
  | requeue batch => exact untouched rfl rfl rfl
  | lockFlushGate => exact untouched rfl rfl rfl
  | unlockFlushGate => exact untouched rfl rfl rfl
  | insertBatchWithEvents batchId events => exact untouched rfl rfl rfl
  | markSent batchId => exact untouched rfl rfl rfl
  | markRejected batchId errorCode => exact untouched rfl rfl rfl
  | discardBatch batchId => exact untouched rfl rfl rfl
  | resumableBatches now => exact untouched rfl rfl rfl
  | hostBackoffUntil => exact untouched rfl rfl rfl
  | clearHostBackoff => exact untouched rfl rfl rfl
  | insertRawEvent entry => exact untouched rfl rfl rfl
  | unbatchedEvents limit => exact untouched rfl rfl rfl
  | utcNow => exact untouched rfl rfl rfl
  | nextDelay attempt retryAfter => exact untouched rfl rfl rfl
  | send batch => exact untouched rfl rfl rfl
  | alert message => exact untouched rfl rfl rfl
  | serve => exact untouched rfl rfl rfl

end Call

/-- What the undelivered POSTs of a batch amount to. -/
structure Balanced (state : CountedWorld) : Prop where
  conforms : state.world.Conforms debts Debt.clear Debt.Ended
  attempts : ∀ row ∈ state.world.rows,
    row.attemptCount + state.owing.count row.batchId = state.undelivered.count row.batchId
  abandons : ∀ row ∈ state.world.rows, row.AbandonedWhenSpent

theorem debts_gives (config : AssemblerConfig) : (performUpload config).Gives debts fun _ => True :=
  fun _ _ _ _ _ _ _ _ => trivial

theorem advance_cases (config : AssemblerConfig) (state : CountedWorld) (task : Nat)
    (input : UploadInput) (refused : Nat) :
    (World.advance (performUpload config) state.world task input = state.world ∧
        state.lost input.response refused (.advance task) = []) ∨
      ∃ (Answer : Type) (operation : UploadCall Answer)
        (resume : Answer → Program UploadCall Unit) (trace : List (TaskPrograms.Step UploadCall))
        (answer : Answer) (shared : UploadShared),
        state.world.tasks[task]? = some { trace, program := .call operation resume } ∧
        performUpload config Answer input state.world.shared operation = some (answer, shared) ∧
        World.advance (performUpload config) state.world task input =
          { shared := shared
            tasks := state.world.tasks.set task
              { trace := trace ++ [{ operation := operation, answer := answer }]
                program := resume answer } } ∧
        state.lost input.response refused (.advance task) =
          operation.losses input.response refused := by
  rcases isTask : state.world.tasks[task]? with _ | ⟨trace, result | ⟨operation, resume⟩⟩
  · exact Or.inl ⟨by simp only [World.advance, isTask], by simp [lost, isTask]⟩
  · exact Or.inl ⟨by simp only [World.advance, isTask], by simp [lost, isTask, awaiting]⟩
  · have losses : state.lost input.response refused (.advance task) =
        operation.losses input.response refused := by
      simp [lost, isTask, awaiting, UploadCall.losses]
    cases handled : performUpload config _ input state.world.shared operation with
    | none =>
      refine Or.inl ⟨by simp only [World.advance, isTask, handled], ?_⟩
      rw [losses]
      -- Only the flush gate makes a task wait.
      cases operation <;> first | rfl | cases handled
    | some result =>
      obtain ⟨answer, shared⟩ := result
      exact Or.inr ⟨_, operation, resume, trace, answer, shared, rfl, handled,
        by simp only [World.advance, isTask, handled], losses⟩

variable {state : CountedWorld}

/-- The counts balance after each call of a task. -/
theorem Balanced.advance (config : AssemblerConfig)
    (balanced : state.Balanced) {task : Nat} {input : UploadInput} {refused : Nat}
    (fair : state.FairTask input refused state.world.tasks[task]?) :
    Balanced
      { world := World.advance (performUpload config) state.world task input
        undelivered := state.undelivered ++
          state.lost input.response refused (.advance task) } := by
  have conforms := balanced.conforms.advance _ debts (debts_gives config) trivial task input
  rcases advance_cases config state task input refused with ⟨same, noLoss⟩ |
    ⟨Answer, operation, resume, trace, answer, shared, isTask, handled, isNext, losses⟩
  · rw [same, noLoss, append_nil]
    exact balanced
  have allowed := balanced.conforms.allowed debts isTask
  rw [isTask] at fair
  rw [isNext] at conforms
  rw [isNext, losses]
  set before : Task UploadCall := { trace := trace, program := .call operation resume }
  set next : Task UploadCall :=
    { trace := trace ++ [{ operation := operation, answer := answer }], program := resume answer }
  have isDebt : debtOf next = operation.debtAfter (debtOf before) answer :=
    debts.reached_concat _ _ _
  have owes (batchId : String) := count_flatMap_set isTask next
    (fun task => (debtOf task).uncounted) batchId
  refine ⟨conforms, ?_, ?_⟩
  · intro row isRow
    have owing := owes row.batchId
    rw [isDebt] at owing
    change row.attemptCount + ((state.world.tasks.set task next).flatMap
          fun task => (debtOf task).uncounted).count row.batchId =
      (state.undelivered ++ operation.losses input.response refused).count row.batchId
    rw [count_append]
    cases performUpload_origin handled isRow with
    | @kept _ _ _ earlier _ isEarlier sameId attempts keeps =>
      have has : state.Has row.batchId := mem_map.mpr ⟨earlier, isEarlier, sameId⟩
      have call := call_balances allowed fair has handled
      have balance := balanced.attempts earlier isEarlier
      rw [sameId] at balance
      simp only [CountedWorld.owing] at balance
      change _ + (debtOf before).uncounted.count row.batchId = _ at owing
      change _ = (debtOf before).uncounted.count row.batchId + _ at call
      change _ + (operation.debtAfter (debtOf before) answer).uncounted.count _ = _ at call
      omega
    | inserted admitted works attempts isPending =>
      have balance := fair admitted works
      simp only [CountedWorld.owing] at balance
      change _ + (debtOf before).uncounted.count row.batchId =
        _ + (debtOf before).uncounted.count row.batchId at owing
      simp only [UploadCall.losses, UploadCall.awaits, Option.toList_none, flatMap_nil, count_nil]
      omega
  · intro row isRow
    cases performUpload_origin handled isRow with
    | kept isEarlier _ _ keeps => exact keeps (balanced.abandons _ isEarlier)
    | inserted _ _ attempts isPending =>
      intro _
      rw [attempts, isPending]
      exact iff_of_false (by decide) (by decide)

variable {config : AssemblerConfig}

theorem Balanced.start (balanced : state.Balanced) {Answer : Type} {operation : UploadCall Answer}
    {resume : Answer → Program UploadCall Unit}
    (follows : Follows debts (fun _ => Debt.Ended) (.call operation resume) Debt.clear)
    (isFair : ∀ (state : CountedWorld) (input : UploadInput) (refused : Nat),
      state.FairCall input refused .clear operation)
    (noPost : operation.awaits = none) (input : UploadInput) :
    Balanced
      { world := World.start (performUpload config) state.world (.call operation resume) input
        undelivered := state.undelivered } := by
  set begun : CountedWorld :=
    { world :=
        { state.world with
          tasks := state.world.tasks ++ [{ trace := [], program := .call operation resume }] }
      undelivered := state.undelivered } with isBegun
  have isNew : begun.world.tasks[state.world.tasks.length]? =
      some { trace := [], program := .call operation resume } := by
    simp [begun]
  have owing_begun : begun.owing = state.owing := by
    change (state.world.tasks ++ [_]).flatMap _ = _
    rw [flatMap_append]
    exact append_nil _
  have begun_balanced : begun.Balanced := by
    refine ⟨?_, ?_, balanced.abandons⟩
    · intro task member
      rcases mem_append.mp member with before | isLast
      · exact balanced.conforms task before
      · rw [mem_singleton.mp isLast]
        exact follows
    · intro row isRow
      rw [owing_begun]
      exact balanced.attempts row isRow
  have fair : begun.FairTask input 0 begun.world.tasks[state.world.tasks.length]? := by
    rw [isNew]
    exact isFair begun input 0
  have noLoss : begun.lost input.response 0 (.advance state.world.tasks.length) = [] := by
    simp [lost, isNew, awaiting, noPost]
  have stepped := begun_balanced.advance config fair
  rw [noLoss, append_nil] at stepped
  exact stepped

theorem begun_quiet {operation : UploadOperation} {waits : Bool}
    {program : Program UploadCall Unit}
    (begins : UploadWorld.begun config operation = some (waits, program)) :
    ∃ (Answer : Type) (first : UploadCall Answer) (resume : Answer → Program UploadCall Unit),
      program = .call first resume ∧ first.awaits = none ∧
        ∀ (state : CountedWorld) (input : UploadInput) (refused : Nat),
          state.FairCall input refused .clear first := by
  cases operation with
  | rawEvent eventId event durationSeconds uploadEligible =>
    cases begins
    exact ⟨_, _, _, rfl, rfl, fun _ _ _ => trivial⟩
  | flushDue now =>
    cases begins
    exact ⟨_, _, _, rfl, rfl, fun _ _ _ => trivial⟩
  | flushNow =>
    cases begins
    exact ⟨_, _, _, rfl, rfl, fun _ _ _ => trivial⟩
  | flushShutdown =>
    cases begins
    exact ⟨_, _, _, rfl, rfl, fun _ _ _ => trivial⟩
  | resumePending =>
    cases begins
    exact ⟨_, _, _, rfl, rfl, fun _ _ _ => trivial⟩
  | advance task => cases begins
  | sweep kind cutoff limit picked => cases begins
  | restart limit now => cases begins

theorem sweep_batches {store : UploadStore} {cutoff : Int} {limit : Nat} {picked : List String}
    {kind : UploadSweep} {row : UploadBatchRow}
    (isRow : row ∈ (store.sweep cutoff limit picked kind).batches) : row ∈ store.batches := by
  cases kind with
  | expiredRawEvents => exact isRow
  | sentBatches => exact (mem_filter.mp isRow).1
  | rejectedBatches => exact (mem_filter.mp isRow).1
  | staleBatches => exact (mem_filter.mp isRow).1

theorem Balanced.restart (config : AssemblerConfig)
    (balanced : state.Balanced) {limit : Nat} {now : Int} {input : UploadInput} {refused : Nat}
    (fair : state.Fair ((.restart limit now, input), refused)) :
    Balanced
      { world := World.start (performUpload config) state.world.stopped (startup limit now) input
        undelivered := state.undelivered ++
          state.lost input.response refused (.restart limit now) } := by
  set stopped : CountedWorld :=
    { world := state.world.stopped
      undelivered := state.undelivered ++ state.world.tasks.filterMap awaiting }
  have stopped_balanced : stopped.Balanced := by
    refine ⟨?_, ?_, balanced.abandons⟩
    · intro task member
      cases member
    · intro row isRow
      have has : state.Has row.batchId := mem_map_of_mem isRow
      have notOwed : row.batchId ∉ state.owing :=
        fun member => fair _ (mem_append_left _ member) has
      have notAwaited : row.batchId ∉ state.world.tasks.filterMap awaiting :=
        fun member => fair _ (mem_append_right _ member) has
      have balance := balanced.attempts row isRow
      rw [count_eq_zero_of_not_mem notOwed] at balance
      change row.attemptCount + 0 =
        (state.undelivered ++ state.world.tasks.filterMap awaiting).count row.batchId
      rw [count_append, count_eq_zero_of_not_mem notAwaited]
      exact balance
  have follows := debts_homeward.startup limit now
  exact stopped_balanced.start follows (fun _ _ _ => trivial) rfl input

theorem Balanced.of_stepped
    (balanced : state.Balanced) {operation : UploadOperation} {input : UploadInput}
    {refused : Nat} {after : UploadWorld} (fair : state.Fair ((operation, input), refused))
    (noLoss : state.lost input.response refused operation = [])
    (stepped : UploadWorld.Stepped config state.world operation input after) :
    Balanced { world := after, undelivered := state.undelivered } := by
  cases stepped with
  | refused => exact balanced
  | swept serving =>
    refine ⟨balanced.conforms, ?_, ?_⟩
    · intro row isRow
      exact balanced.attempts row (sweep_batches isRow)
    · intro row isRow
      exact balanced.abandons row (sweep_batches isRow)
  | advanced =>
    have advanced := balanced.advance config fair
    rw [noLoss, append_nil] at advanced
    exact advanced
  | began begins admitted =>
    obtain ⟨Answer, first, resume, rfl, noPost, isFair⟩ := begun_quiet begins
    exact balanced.start (debts_homeward.begun begins) isFair noPost input
  | restarted =>
    have restarted := balanced.restart config fair
    rw [noLoss, append_nil] at restarted
    exact restarted

theorem Balanced.next
    (balanced : state.Balanced) {operation : (UploadOperation × UploadInput) × Nat}
    (fair : state.Fair operation) : (state.next config operation).Balanced := by
  obtain ⟨⟨operation, input⟩, refused⟩ := operation
  have started (noLoss : state.lost input.response refused operation = []) : Balanced
        { world := state.world.next config operation input
          undelivered := state.undelivered ++ state.lost input.response refused operation } := by
    rw [noLoss, append_nil]
    exact balanced.of_stepped fair noLoss (state.world.next_stepped config operation input)
  cases operation with
  | advance task => exact balanced.advance config fair
  | restart limit now => exact balanced.restart config fair
  | sweep kind cutoff limit picked => exact started rfl
  | rawEvent eventId event durationSeconds uploadEligible => exact started rfl
  | flushDue now => exact started rfl
  | flushNow => exact started rfl
  | flushShutdown => exact started rfl
  | resumePending => exact started rfl

theorem balanced_opened : opened.Balanced := by
  refine ⟨?_, ?_, ?_⟩
  · intro task member
    cases member
  · intro row isRow
    cases isRow
  · intro row isRow
    cases isRow

end CountedWorld

open CountedWorld

/-- Wherever each upload makes one POST and each POST is counted, a batch has as many attempts as
POSTs that did not deliver it, once they are counted, and is abandoned when these reach the
ceiling. -/
theorem attempts_are_undelivered_posts (config : AssemblerConfig)
    (operations : List ((UploadOperation × UploadInput) × Nat))
    (fair : (countedMachine config).Meets CountedWorld.Fair opened operations) :
    let last := (countedMachine config).run opened operations
    ∀ row ∈ last.world.rows,
      row.attemptCount + last.owing.count row.batchId = last.undelivered.count row.batchId ∧
        (row.batchId ∉ last.owing →
          row.attemptCount = last.undelivered.count row.batchId ∧
            (¬ row.status.Concluded →
              (row.status = .abandoned ↔ 288 ≤ last.undelivered.count row.batchId))) := by
  have keeps : ∀ state operation, state.Balanced → state.Fair operation →
      ((countedMachine config).next state operation).Balanced := by
    intro state operation balanced isFair
    exact balanced.next isFair
  have balanced := (countedMachine config).invariant_run keeps balanced_opened fair
  intro last row isRow
  have attempts := balanced.attempts row isRow
  refine ⟨attempts, fun counted => ?_⟩
  rw [count_eq_zero_of_not_mem counted, Nat.add_zero] at attempts
  refine ⟨attempts, fun unconcluded => ?_⟩
  have abandons := balanced.abandons row isRow unconcluded
  rw [attempts] at abandons
  exact abandons

/-- The digests of the batches of two sample events, which differ in their last byte. -/
def twoBatchConfig : AssemblerConfig :=
  { sampleUploadConfig with
    sha256Hex := fun bytes =>
      if bytes.getLast? = some 50 then
        "36c1b942805e86611de46d00bd9253b2d628c52f38eee27d45ac3cc8da5e4f0b"
      else
        sampleBatchId }

def observedSample (eventId : String) (task calls : Nat) (input : UploadInput) :
    List ((UploadOperation × UploadInput) × Nat) :=
  ((.rawEvent eventId sampleAbstractedEvent 30 true, input), 0) ::
    List.replicate calls ((.advance task, input), 0)

def unavailableSample : UploadInput := sampleInput 1 (.ok (.retryable "http_503"))

/-- One POST that the server cannot take is one attempt. -/
theorem unavailable_post_is_one_attempt :
    (countedMachine twoBatchConfig).Meets CountedWorld.Fair opened
        (observedSample "event-1" 0 11 unavailableSample) ∧
      ∃ row ∈ ((countedMachine twoBatchConfig).run opened
          (observedSample "event-1" 0 11 unavailableSample)).world.rows,
        row.attemptCount = 1 ∧
          row.attemptCount = ((countedMachine twoBatchConfig).run opened
            (observedSample "event-1" 0 11 unavailableSample)).undelivered.count row.batchId := by
  have fair : (countedMachine twoBatchConfig).Meets CountedWorld.Fair opened
      (observedSample "event-1" 0 11 unavailableSample) := by
    decide +kernel
  have isRow : ∃ row ∈ ((countedMachine twoBatchConfig).run opened
        (observedSample "event-1" 0 11 unavailableSample)).world.rows,
      row.attemptCount = 1 ∧ row.batchId ∉ ((countedMachine twoBatchConfig).run opened
        (observedSample "event-1" 0 11 unavailableSample)).owing := by
    decide +kernel
  obtain ⟨row, member, isOne, counted⟩ := isRow
  have attempts := attempts_are_undelivered_posts twoBatchConfig
    (observedSample "event-1" 0 11 unavailableSample) fair row member
  exact ⟨fair, row, member, isOne, (attempts.2 counted).1⟩

/-- The next batch is not sent while the host is backed off, and has an attempt counted. -/
theorem skipped_pass_is_an_attempt :
    let last := (countedMachine twoBatchConfig).run opened
      (observedSample "event-1" 0 11 unavailableSample ++
        observedSample "event-2" 1 6 (sampleInput 2 (.ok .accepted)))
    ∃ row ∈ last.world.rows,
      row.batchId ∉ last.owing ∧ row.attemptCount = 1 ∧
        last.undelivered.count row.batchId = 0 ∧ last.world.posts row.batchId = 0 := by
  decide +kernel

end Velvt
