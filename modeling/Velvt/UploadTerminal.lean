import Velvt.UploadHolding

/-!
# Terminal upload statuses

The writes of a batch's state name a batch and nothing else, so what keeps a delivered or rejected
batch out of the queue is that no task holds it any more.
-/

namespace Velvt

open StepMachine TaskPrograms List

namespace UploadBatchStatus

/-- Neither queued nor to be queued again. -/
def Terminal : UploadBatchStatus → Prop
  | .sent | .rejected | .abandoned => True
  | .pending | .failed => False

/-- Delivered or rejected by the server. -/
def Concluded : UploadBatchStatus → Prop
  | .sent | .rejected => True
  | _ => False

theorem Concluded.terminal {status : UploadBatchStatus} (concluded : status.Concluded) :
    status.Terminal := by
  cases status <;> trivial

end UploadBatchStatus

/-- How a call rewrites the row of the batch that it settles. -/
structure Rewrites {Answer : Type} (operation : UploadCall Answer) (batchId : String)
    (change : UploadBatchRow → UploadBatchRow) : Prop where
  settles : operation.settles = some batchId
  keepsId : ∀ row, (change row).batchId = row.batchId
  keepsEvents : ∀ row, (change row).events = row.events
  concluded : ∀ row, (change row).status.Concluded → operation.concludes = some batchId
  abandoned : ∀ row, (change row).status = .abandoned →
    uploadBatchAttemptCeiling ≤ (change row).attemptCount
  exhausted : ∀ row, uploadBatchAttemptCeiling ≤ row.attemptCount →
    uploadBatchAttemptCeiling ≤ (change row).attemptCount ∧ (change row).status.Terminal

def rewriteRows (rows : List UploadBatchRow) (batchId : String)
    (change : UploadBatchRow → UploadBatchRow) : List UploadBatchRow :=
  rows.map fun row => if row.batchId = batchId then change row else row

/-- What a call does to the rows of `upload_batch`. -/
inductive RowsStep {Answer : Type} (operation : UploadCall Answer) (answer : Answer)
    (rows : List UploadBatchRow) : List UploadBatchRow → Prop
  | kept (acquired : operation.settles = none → ∀ batchId ∈ operation.acquires answer,
        ∃ row ∈ rows, row.batchId = batchId ∧ ¬ row.status.Terminal) :
      RowsStep operation answer rows rows
  | inserted (row : UploadBatchRow) (noSettle : operation.settles = none)
      (isNew : row.batchId ∉ rows.map (·.batchId)) (isPending : row.status = .pending)
      (acquired : operation.acquires answer = [row.batchId]) :
      RowsStep operation answer rows (rows ++ [row])
  | rewritten (batchId : String) (change : UploadBatchRow → UploadBatchRow)
      (rewrites : Rewrites operation batchId change) :
      RowsStep operation answer rows (rewriteRows rows batchId change)

section Perform

variable {config : AssemblerConfig} {input : UploadInput} {shared after : UploadShared}

theorem command_cases {result : Except PersistenceError UploadStore}
    {answer : Except PersistenceError Unit}
    (handled : shared.command input result = some (answer, after)) :
    ((∃ error, answer = .error error) ∧ after = shared) ∨
      ∃ store, result = .ok store ∧ answer = .ok () ∧ after = { shared with store := store } := by
  unfold UploadShared.command at handled
  split at handled
  · cases handled
    exact Or.inl ⟨⟨_, rfl⟩, rfl⟩
  · cases result with
    | error error =>
      cases handled
      exact Or.inl ⟨⟨_, rfl⟩, rfl⟩
    | ok store =>
      cases handled
      exact Or.inr ⟨store, rfl, rfl, rfl⟩

theorem query_cases {Answer : Type} {value : Answer} {answer : Except PersistenceError Answer}
    (handled : shared.query input value = some (answer, after)) :
    after = shared ∧ ((∃ error, answer = .error error) ∨ answer = .ok value) := by
  unfold UploadShared.query at handled
  split at handled
  · cases handled
    exact ⟨rfl, Or.inl ⟨_, rfl⟩⟩
  · cases handled
    exact ⟨rfl, Or.inr rfl⟩

variable {batchId : String}

theorem updateBatch_batches {store changed : UploadStore} {change : UploadBatchRow → UploadBatchRow}
    (updated : store.updateBatch batchId change = .ok changed) :
    changed = { store with batches := rewriteRows store.batches batchId change } := by
  unfold UploadStore.updateBatch at updated
  split at updated
  · cases updated
    rfl
  · cases updated

theorem rowsStep_settling {operation : UploadCall (Except PersistenceError Unit)}
    {change : UploadBatchRow → UploadBatchRow}
    {answer : Except PersistenceError Unit} (rewrites : Rewrites operation batchId change)
    (handled : shared.command input (shared.store.updateBatch batchId change) =
      some (answer, after)) :
    RowsStep operation answer shared.store.batches after.store.batches := by
  rcases command_cases handled with ⟨-, rfl⟩ | ⟨store, updated, -, rfl⟩
  · refine .kept fun noSettle => ?_
    rw [rewrites.settles] at noSettle
    cases noSettle
  · rw [updateBatch_batches updated]
    exact .rewritten batchId change rewrites

theorem rewrites_retry {operation : UploadCall (Except PersistenceError Unit)}
    {retryStatus : UploadBatchStatus} {nextAttemptAt : Int}
    {errorCode : String} (settles : operation.settles = some batchId)
    (isRetry : ¬ retryStatus.Terminal) :
    Rewrites operation batchId fun row =>
      { row with
        status :=
          if uploadBatchAttemptCeiling ≤ row.attemptCount + 1 then .abandoned else retryStatus
        attemptCount := row.attemptCount + 1
        nextAttemptAt := nextAttemptAt
        lastErrorCode := some errorCode } := by
  constructor
  · exact settles
  · intro row
    rfl
  · intro row
    rfl
  · intro row concluded
    simp only at concluded
    split at concluded
    · exact concluded.elim
    · exact absurd concluded.terminal isRetry
  · intro row isAbandoned
    simp only at isAbandoned ⊢
    split at isAbandoned
    next last => exact last
    next => exact absurd (isAbandoned ▸ trivial) isRetry
  · intro row exhausted
    have last : uploadBatchAttemptCeiling ≤ row.attemptCount + 1 := by omega
    simp only [if_pos last]
    exact ⟨last, trivial⟩

/-- What a call of an upload program does to the rows of the batches. -/
theorem performUpload_rows {Answer : Type} {operation : UploadCall Answer} {answer : Answer}
    (noDiscard : ¬ operation.Discards)
    (handled : performUpload config Answer input shared operation = some (answer, after)) :
    RowsStep operation answer shared.store.batches after.store.batches ∧
      after.posted = shared.posted ++ operation.sends := by
  have unrelated {Answer : Type} {operation : UploadCall Answer} {answer : Answer}
      {after : UploadShared} (noAcquire : operation.acquires answer = [])
      (noSend : operation.sends = []) (sameRows : after.store.batches = shared.store.batches)
      (samePosted : after.posted = shared.posted) :
      RowsStep operation answer shared.store.batches after.store.batches ∧
        after.posted = shared.posted ++ operation.sends := by
    rw [sameRows, samePosted, noSend, append_nil]
    exact ⟨.kept fun _ => by simp [noAcquire], rfl⟩
  have samePosted {result : Except PersistenceError UploadStore}
      {answer : Except PersistenceError Unit} {after : UploadShared}
      (handled : shared.command input result = some (answer, after)) :
      after.posted = shared.posted := by
    rcases command_cases handled with ⟨-, rfl⟩ | ⟨store, -, -, rfl⟩
    · rfl
    · rfl
  cases operation with
  | push event now =>
    cases handled
    exact unrelated rfl rfl rfl rfl
  | flushDue now =>
    cases handled
    exact unrelated rfl rfl rfl rfl
  | flushShutdown =>
    cases handled
    exact unrelated rfl rfl rfl rfl
  | requeue batch =>
    cases handled
    exact unrelated rfl rfl rfl rfl
  | lockFlushGate =>
    simp only [performUpload] at handled
    split at handled
    · cases handled
    · cases handled
      exact unrelated rfl rfl rfl rfl
  | unlockFlushGate =>
    cases handled
    exact unrelated rfl rfl rfl rfl
  | insertBatchWithEvents batchId events =>
    refine ⟨?_, (samePosted handled).trans (append_nil _).symm⟩
    rcases command_cases handled with ⟨⟨error, rfl⟩, rfl⟩ | ⟨store, inserted, rfl, rfl⟩
    · exact .kept fun _ => by simp [UploadCall.acquires]
    · unfold UploadStore.insertBatchWithEvents at inserted
      split at inserted
      · cases inserted
      next admitted =>
        cases inserted
        simp only [not_or] at admitted
        exact .inserted _ rfl admitted.2.1 rfl rfl
  | markSent batchId =>
    refine ⟨?_, (samePosted handled).trans (append_nil _).symm⟩
    refine rowsStep_settling ?_ handled
    exact ⟨rfl, fun _ => rfl, fun _ => rfl, fun _ _ => rfl, fun _ => nofun,
      fun _ exhausted => ⟨exhausted, trivial⟩⟩
  | markFailed batchId nextAttemptAt errorCode =>
    refine ⟨?_, (samePosted handled).trans (append_nil _).symm⟩
    exact rowsStep_settling (rewrites_retry rfl id) handled
  | markPendingRetry batchId nextAttemptAt errorCode =>
    refine ⟨?_, (samePosted handled).trans (append_nil _).symm⟩
    exact rowsStep_settling (rewrites_retry rfl id) handled
  | markRejected batchId errorCode =>
    refine ⟨?_, (samePosted handled).trans (append_nil _).symm⟩
    refine rowsStep_settling ?_ handled
    exact ⟨rfl, fun _ => rfl, fun _ => rfl, fun _ _ => rfl, fun _ => nofun,
      fun _ exhausted => ⟨exhausted, trivial⟩⟩
  | discardBatch batchId => exact absurd trivial noDiscard
  | resumableBatches now =>
    obtain ⟨rfl, answered⟩ := query_cases handled
    refine ⟨.kept fun _ batchId member => ?_, (append_nil _).symm⟩
    rcases answered with ⟨error, rfl⟩ | rfl
    · simp [UploadCall.acquires] at member
    · simp only [UploadCall.acquires, UploadStore.resumableBatches, map_map,
        mem_map, mem_insertionSort, mem_filter] at member
      obtain ⟨row, ⟨isRow, queued⟩, rfl⟩ := member
      refine ⟨row, isRow, rfl, fun terminal => ?_⟩
      cases isStatus : row.status <;> simp_all [UploadBatchStatus.Terminal]
  | hostBackoffUntil =>
    obtain ⟨rfl, -⟩ := query_cases handled
    exact unrelated rfl rfl rfl rfl
  | hostBackoffAttempt =>
    obtain ⟨rfl, -⟩ := query_cases handled
    exact unrelated rfl rfl rfl rfl
  | setHostBackoff attemptCount nextAttemptAt =>
    simp only [performUpload] at handled
    refine unrelated rfl rfl ?_ (samePosted handled)
    rcases command_cases handled with ⟨-, rfl⟩ | ⟨store, isStore, -, rfl⟩
    · rfl
    · cases isStore
      rfl
  | clearHostBackoff =>
    simp only [performUpload] at handled
    refine unrelated rfl rfl ?_ (samePosted handled)
    rcases command_cases handled with ⟨-, rfl⟩ | ⟨store, isStore, -, rfl⟩
    · rfl
    · cases isStore
      rfl
  | insertRawEvent entry =>
    refine unrelated rfl rfl ?_ (samePosted handled)
    rcases command_cases handled with ⟨-, rfl⟩ | ⟨store, isStore, -, rfl⟩
    · rfl
    · unfold UploadStore.insertRawEvent at isStore
      split at isStore
      · cases isStore
      · cases isStore
        rfl
  | unbatchedEvents limit =>
    obtain ⟨rfl, -⟩ := query_cases handled
    exact unrelated rfl rfl rfl rfl
  | utcNow =>
    cases handled
    exact unrelated rfl rfl rfl rfl
  | nextDelay attempt retryAfter =>
    cases handled
    exact unrelated rfl rfl rfl rfl
  | send batch =>
    cases handled
    exact ⟨.kept fun _ => by simp [UploadCall.acquires], rfl⟩
  | receive batch =>
    cases handled
    exact unrelated rfl rfl rfl rfl
  | alert message =>
    cases handled
    exact unrelated rfl rfl rfl rfl
  | serve =>
    cases handled
    exact unrelated rfl rfl rfl rfl

end Perform

def heldBy (task : Task UploadCall) : List String :=
  match task.program with
  | .done _ => []
  | .call _ _ => holding.reached [] task.trace

/-- The batch that a task is about to record as delivered or rejected. -/
def concluding (task : Task UploadCall) : Option String :=
  match task.program with
  | .done _ => none
  | .call operation _ => operation.concludes

/-- A batch is recorded as delivered or rejected only while no other task holds it. -/
def ConcludesAlone (world : UploadWorld) : UploadOperation × UploadInput → Prop
  | (.advance task, _) =>
    ∀ batchId ∈ ((world.tasks[task]?).bind concluding).toList,
      ∀ other ∈ world.tasks.eraseIdx task, batchId ∉ heldBy other
  | _ => True

instance (world : UploadWorld) (operation : UploadOperation × UploadInput) :
    Decidable (ConcludesAlone world operation) := by
  unfold ConcludesAlone
  split <;> infer_instance

namespace UploadWorld

/-- The rows of `upload_batch`. -/
def rows (world : UploadWorld) : List UploadBatchRow := world.shared.store.batches

def posts (world : UploadWorld) (batchId : String) : Nat :=
  world.shared.posted.countP fun batch => batch.batchId == batchId

/-- No task holds a batch that is delivered or rejected. -/
structure Guarded (world : UploadWorld) : Prop where
  keys : (world.rows.map (·.batchId)).Nodup
  abandoned : ∀ row ∈ world.rows, row.status = .abandoned →
    uploadBatchAttemptCeiling ≤ row.attemptCount
  conforms : world.Conforms holding [] fun _ => True
  released : ∀ row ∈ world.rows, row.status.Concluded →
    ∀ task ∈ world.tasks, row.batchId ∉ heldBy task

/-- Terminal statuses are final, and rejected batches are not posted. -/
structure Settles (before after : UploadWorld) : Prop where
  terminal : ∀ row ∈ before.rows, ∃ later ∈ after.rows, later.batchId = row.batchId ∧
    (row.status.Terminal → later.status.Terminal)
  rejected : ∀ row ∈ before.rows, row.status = .rejected →
    row ∈ after.rows ∧ after.posts row.batchId = before.posts row.batchId

theorem Settles.refl (world : UploadWorld) : world.Settles world :=
  ⟨fun row member => ⟨row, member, rfl, id⟩, fun _ member _ => ⟨member, rfl⟩⟩

theorem Settles.trans {first middle last : UploadWorld} (one : first.Settles middle)
    (two : middle.Settles last) : first.Settles last := by
  constructor
  · intro row member
    obtain ⟨later, isLater, sameId, keeps⟩ := one.terminal row member
    obtain ⟨final, isFinal, sameFinal, keepsFinal⟩ := two.terminal later isLater
    exact ⟨final, isFinal, sameFinal.trans sameId, fun terminal => keepsFinal (keeps terminal)⟩
  · intro row member isRejected
    obtain ⟨isMiddle, posts⟩ := one.rejected row member isRejected
    obtain ⟨isLast, postsLast⟩ := two.rejected row isMiddle isRejected
    exact ⟨isLast, postsLast.trans posts⟩

theorem Guarded.row_eq {world : UploadWorld} (guarded : world.Guarded) {row other : UploadBatchRow}
    (isRow : row ∈ world.rows) (isOther : other ∈ world.rows)
    (sameId : row.batchId = other.batchId) : row = other :=
  inj_on_of_nodup_map guarded.keys isRow isOther sameId

variable {batchId : String} {Answer : Type}

theorem mem_rewriteRows {rows : List UploadBatchRow}
    {change : UploadBatchRow → UploadBatchRow} {row : UploadBatchRow} :
    row ∈ rewriteRows rows batchId change ↔
      ∃ before ∈ rows, (if before.batchId = batchId then change before else before) = row :=
  mem_map

theorem performUpload_gives (config : AssemblerConfig) :
    (performUpload config).Gives holding fun shared =>
      (shared.store.batches.map (·.batchId)).Nodup := by
  intro Answer input shared operation answer after keys handled
  cases operation with
  | resumableBatches now =>
    rcases (query_cases handled).2 with ⟨error, rfl⟩ | rfl
    · trivial
    · change (List.map _ (UploadStore.resumableBatches shared.store now)).Nodup
      unfold UploadStore.resumableBatches
      rw [map_map]
      have sorted := perm_insertionSort
        (fun first second : UploadBatchRow => first.createdAt ≤ second.createdAt)
        (shared.store.batches.filter fun row =>
          (row.status == .pending || row.status == .failed) &&
            now.all fun instant => decide (row.nextAttemptAt ≤ timestamp instant))
      refine ((sorted.map _).nodup_iff).mpr ?_
      exact keys.sublist (filter_sublist.map _)
  | _ => trivial

variable {operation : UploadCall Answer}

theorem heldBy_resumed {answer : Answer}
    {trace : List (Step UploadCall)} {program : Program UploadCall Unit}
    (holds : batchId ∈ heldBy
      { trace := trace ++ [{ operation := operation, answer := answer }], program := program }) :
    (operation.settles ≠ some batchId ∧ batchId ∈ holding.reached [] trace) ∨
      operation.settles = none ∧ batchId ∈ operation.acquires answer := by
  unfold heldBy at holds
  split at holds
  · cases holds
  · simp only [Protocol.reached_concat, holding] at holds
    cases settles : operation.settles with
    | none =>
      simp only [settles, mem_append] at holds
      rcases holds with before | acquired
      · refine Or.inl ⟨?_, before⟩
        intro settled
        cases settled
      · exact Or.inr ⟨rfl, acquired⟩
    | some settled =>
      simp only [settles, mem_release] at holds
      refine Or.inl ⟨?_, holds.1⟩
      rintro ⟨⟩
      exact holds.2 rfl

theorem names_of_settles
    (settles : operation.settles = some batchId) : operation.names = some batchId := by
  cases operation <;> first | exact settles | cases settles

theorem names_of_sends {batch : BatchPayload}
    (sends : batch ∈ operation.sends) : operation.names = some batch.batchId := by
  cases operation <;> simp_all [UploadCall.sends, UploadCall.names]

section Advance

variable {config : AssemblerConfig} {world : UploadWorld} {task : Nat} {input : UploadInput}
  {Answer : Type} {operation : UploadCall Answer} {resume : Answer → Program UploadCall Unit}
  {trace : List (Step UploadCall)} {answer : Answer} {shared : UploadShared}

theorem holder_before
    (isTask : world.tasks[task]? = some { trace, program := .call operation resume })
    {holder : Task UploadCall} (member : holder ∈ world.tasks.set task
      { trace := trace ++ [{ operation := operation, answer := answer }]
        program := resume answer })
    {batchId : String} (holds : batchId ∈ heldBy holder) :
    (∃ before ∈ world.tasks, batchId ∈ heldBy before ∧
      (operation.settles = some batchId → before ∈ world.tasks.eraseIdx task)) ∨
      operation.settles = none ∧ batchId ∈ operation.acquires answer := by
  obtain ⟨index, isHolder⟩ := mem_iff_getElem?.mp member
  by_cases same : index = task
  · subst same
    rw [List.getElem?_set_self' , isTask] at isHolder
    cases isHolder
    rcases heldBy_resumed holds with ⟨notSettled, before⟩ | acquired
    · exact Or.inl ⟨_, mem_of_getElem? isTask, before, fun settles =>
        absurd settles notSettled⟩
    · exact Or.inr acquired
  · rw [List.getElem?_set_ne (Ne.symm same)] at isHolder
    refine Or.inl ⟨holder, mem_of_getElem? isHolder, holds, fun _ => ?_⟩
    exact mem_eraseIdx_iff_getElem?.mpr ⟨index, same, isHolder⟩

end Advance

variable {config : AssemblerConfig}

/-- A step of a task leaves the concluded batches alone, where it concludes alone. -/
theorem Guarded.advance {world : UploadWorld}
    (guarded : world.Guarded) {task : Nat} {input : UploadInput}
    (alone : ConcludesAlone world (.advance task, input)) :
    Guarded (World.advance (performUpload config) world task input) ∧
      world.Settles (World.advance (performUpload config) world task input) := by
  rcases World.advance_cases (performUpload config) world task input with same |
    ⟨Answer, operation, resume, trace, answer, shared, isTask, handled, isNext⟩
  · rw [same]
    exact ⟨guarded, Settles.refl world⟩
  have conforms := guarded.conforms.advance (performUpload config) holding
    (performUpload_gives config) guarded.keys task input
  obtain ⟨noDiscard, allowed⟩ := guarded.conforms.allowed holding isTask
  have isHolder : { trace, program := .call operation resume } ∈ world.tasks :=
    mem_of_getElem? isTask
  obtain ⟨rowsStep, posted⟩ := performUpload_rows noDiscard handled
  -- what the call names is not concluded yet
  have open_ (row : UploadBatchRow) (isRow : row ∈ world.rows)
      (concluded : row.status.Concluded) : operation.names ≠ some row.batchId := by
    intro names
    exact guarded.released row isRow concluded _ isHolder (allowed _ names)
  rw [isNext] at conforms ⊢
  set next : UploadWorld :=
    { shared := shared
      tasks := world.tasks.set task
        { trace := trace ++ [{ operation := operation, answer := answer }]
          program := resume answer } } with isNextWorld
  have posts (row : UploadBatchRow) (isRow : row ∈ world.rows)
      (isRejected : row.status = .rejected) :
      next.posts row.batchId = world.posts row.batchId := by
    have notSent : ∀ batch ∈ operation.sends, batch.batchId ≠ row.batchId := by
      intro batch sends sameId
      apply open_ row isRow (by rw [isRejected]; trivial)
      rw [names_of_sends sends, sameId]
    have none : operation.sends.countP (fun batch => batch.batchId == row.batchId) = 0 := by
      rw [countP_eq_zero]
      intro batch sends
      simpa using notSent batch sends
    unfold UploadWorld.posts
    change shared.posted.countP _ = _
    rw [posted, countP_append, none, Nat.add_zero]
  obtain ⟨rows, isRows⟩ : ∃ rows, shared.store.batches = rows := ⟨_, rfl⟩
  have nextRows : next.rows = rows := isRows
  rw [isRows] at rowsStep
  cases rowsStep with
  | kept acquired =>
    constructor
    · refine ⟨?_, ?_, conforms, ?_⟩
      · rw [nextRows]
        exact guarded.keys
      · rw [nextRows]
        exact guarded.abandoned
      · rw [nextRows]
        intro row isRow concluded holder member holds
        rcases holder_before isTask member holds with ⟨before, wasHolder, held, -⟩ |
          ⟨noSettle, given⟩
        · exact guarded.released row isRow concluded before wasHolder held
        · obtain ⟨queued, isQueued, sameId, notTerminal⟩ := acquired noSettle _ given
          rw [guarded.row_eq isQueued isRow sameId] at notTerminal
          exact notTerminal concluded.terminal
    · constructor
      · rw [nextRows]
        intro row isRow
        exact ⟨row, isRow, rfl, id⟩
      · rw [nextRows]
        intro row isRow isRejected
        exact ⟨isRow, posts row isRow isRejected⟩
  | inserted row noSettle isNew isPending acquired =>
    constructor
    · refine ⟨?_, ?_, conforms, ?_⟩
      · rw [nextRows, map_append, nodup_append]
        refine ⟨guarded.keys, nodup_singleton _, ?_⟩
        rintro batchId before other isNewId rfl
        rw [map_singleton, mem_singleton] at isNewId
        exact isNew (isNewId ▸ before)
      · rw [nextRows]
        intro other member isAbandoned
        rcases mem_append.mp member with before | isLast
        · exact guarded.abandoned other before isAbandoned
        · rw [mem_singleton.mp isLast, isPending] at isAbandoned
          cases isAbandoned
      · rw [nextRows]
        intro other member concluded holder isHolderAfter holds
        rcases mem_append.mp member with before | isLast
        · rcases holder_before isTask isHolderAfter holds with ⟨earlier, wasHolder, held, -⟩ |
            ⟨-, given⟩
          · exact guarded.released other before concluded earlier wasHolder held
          · rw [acquired, mem_singleton] at given
            exact isNew (given ▸ mem_map_of_mem before)
        · rw [mem_singleton.mp isLast, isPending] at concluded
          exact concluded
    · constructor
      · rw [nextRows]
        intro other member
        exact ⟨other, mem_append_left _ member, rfl, id⟩
      · rw [nextRows]
        intro other member isRejected
        exact ⟨mem_append_left _ member, posts other member isRejected⟩
  | rewritten batchId change rewrites =>
    have names := names_of_settles rewrites.settles
    have unchanged (row : UploadBatchRow) (isRow : row ∈ world.rows)
        (concluded : row.status.Concluded) : row.batchId ≠ batchId := by
      intro same
      exact open_ row isRow concluded (same ▸ names)
    constructor
    · refine ⟨?_, ?_, conforms, ?_⟩
      · have sameKeys : next.rows.map (·.batchId) = world.rows.map (·.batchId) := by
          rw [nextRows]
          unfold rewriteRows
          rw [map_map]
          apply map_congr_left
          intro row _
          simp only [Function.comp_apply]
          split
          · exact rewrites.keepsId row
          · rfl
        rw [sameKeys]
        exact guarded.keys
      · rw [nextRows]
        intro row member isAbandoned
        obtain ⟨before, isBefore, rfl⟩ := mem_rewriteRows.mp member
        split at isAbandoned
        next same =>
          rw [if_pos same]
          exact rewrites.abandoned before isAbandoned
        next other =>
          rw [if_neg other]
          exact guarded.abandoned before isBefore isAbandoned
      · rw [nextRows]
        intro row member concluded holder isHolderAfter holds
        obtain ⟨before, isBefore, rfl⟩ := mem_rewriteRows.mp member
        split at concluded
        next same =>
          -- the batch is concluded now: the task has let go of it, and nobody else holds it
          rw [if_pos same, rewrites.keepsId, same] at holds
          have concludes := rewrites.concluded before concluded
          rcases holder_before isTask isHolderAfter holds with ⟨earlier, -, held, another⟩ |
            ⟨noSettle, -⟩
          · refine alone batchId ?_ earlier (another rewrites.settles) held
            rw [isTask]
            simpa [concluding] using concludes
          · rw [rewrites.settles] at noSettle
            cases noSettle
        next other =>
          rw [if_neg other] at holds
          rcases holder_before isTask isHolderAfter holds with ⟨earlier, wasHolder, held, -⟩ |
            ⟨noSettle, -⟩
          · exact guarded.released before isBefore concluded earlier wasHolder held
          · rw [rewrites.settles] at noSettle
            cases noSettle
    · constructor
      · rw [nextRows]
        intro row isRow
        refine ⟨_, mem_rewriteRows.mpr ⟨row, isRow, rfl⟩, ?_, ?_⟩
        · split
          · exact rewrites.keepsId row
          · rfl
        · intro terminal
          split
          next same =>
            have isAbandoned : row.status = .abandoned := by
              cases isStatus : row.status with
              | abandoned => rfl
              | sent => exact absurd same (unchanged row isRow (isStatus ▸ trivial))
              | rejected => exact absurd same (unchanged row isRow (isStatus ▸ trivial))
              | pending => exact absurd terminal (isStatus ▸ id)
              | failed => exact absurd terminal (isStatus ▸ id)
            exact (rewrites.exhausted row (guarded.abandoned row isRow isAbandoned)).2
          next => exact terminal
      · rw [nextRows]
        intro row isRow isRejected
        have other := unchanged row isRow (isRejected ▸ trivial)
        refine ⟨mem_rewriteRows.mpr ⟨row, isRow, ?_⟩, posts row isRow isRejected⟩
        rw [if_neg other]

theorem Guarded.start {world : UploadWorld}
    (guarded : world.Guarded) {program : Program UploadCall Unit}
    (follows : Follows holding EndsAnyhow program []) (input : UploadInput) :
    Guarded (World.start (performUpload config) world program input) ∧
      world.Settles (World.start (performUpload config) world program input) := by
  set begun : UploadWorld :=
    { world with tasks := world.tasks ++ [{ trace := [], program := program }] }
  have holdsNone : heldBy { trace := [], program := program } = [] := by
    cases program <;> rfl
  have begun_guarded : begun.Guarded := by
    refine ⟨guarded.keys, guarded.abandoned, ?_, ?_⟩
    · intro task member
      rcases mem_append.mp member with before | isNew
      · exact guarded.conforms task before
      · rw [mem_singleton.mp isNew]
        exact follows
    · intro row isRow concluded task member
      rcases mem_append.mp member with before | isNew
      · exact guarded.released row isRow concluded task before
      · rw [mem_singleton.mp isNew, holdsNone]
        exact not_mem_nil
  have isNew : begun.tasks[world.tasks.length]? = some { trace := [], program := program } := by
    simp [begun]
  have alone : ConcludesAlone begun (.advance world.tasks.length, input) := by
    intro batchId concludes
    exfalso
    rw [isNew, Option.bind_some] at concludes
    cases program with
    | done result => simp [concluding] at concludes
    | call operation resume =>
      have isConcluded : operation.concludes = some batchId := by
        simpa [concluding] using concludes
      have names : operation.names = some batchId := by
        cases operation <;> first | exact isConcluded | cases isConcluded
      exact not_mem_nil (follows.1.2 batchId names)
  have stepped : Guarded (World.advance (performUpload config) begun world.tasks.length input) ∧
        begun.Settles (World.advance (performUpload config) begun world.tasks.length input) :=
    begun_guarded.advance alone
  exact ⟨stepped.1, stepped.2.terminal, stepped.2.rejected⟩

/-- The operations of the claim's runs: no sweep deletes a row. -/
def NoSweep : UploadOperation × UploadInput → Prop
  | (.sweep _ _ _ _, _) => False
  | _ => True

instance (operation : UploadOperation × UploadInput) : Decidable (NoSweep operation) := by
  unfold NoSweep
  split <;> infer_instance

theorem Guarded.next {world : UploadWorld}
    (guarded : world.Guarded) {operation : UploadOperation × UploadInput}
    (noSweep : NoSweep operation) (alone : ConcludesAlone world operation) :
    Guarded ((uploadMachine config).next world operation) ∧
      world.Settles ((uploadMachine config).next world operation) := by
  obtain ⟨operation, input⟩ := operation
  change Guarded (world.next config operation input) ∧
    world.Settles (world.next config operation input)
  have stepped := world.next_stepped config operation input
  generalize world.next config operation input = after at stepped ⊢
  cases stepped with
  | refused => exact ⟨guarded, Settles.refl world⟩
  | swept serving => exact absurd noSweep id
  | advanced => exact guarded.advance alone
  | began begins admitted => exact guarded.start (begun_holding begins) input
  | @restarted limit now _ =>
    have stopped_guarded : world.stopped.Guarded := by
      refine ⟨guarded.keys, guarded.abandoned, ?_, ?_⟩
      · intro task member
        cases member
      · intro row isRow concluded task member
        cases member
    obtain ⟨started_guarded, settles⟩ :=
      show Guarded (World.start (performUpload config) world.stopped (startup limit now) input) ∧
          world.stopped.Settles
            (World.start (performUpload config) world.stopped (startup limit now) input) from
        stopped_guarded.start (startup_holding limit now) input
    exact ⟨started_guarded, settles.terminal, settles.rejected⟩

theorem guarded_opened : opened.Guarded := by
  constructor
  · exact nodup_nil
  · intro row member
    cases member
  · intro task member
    cases member
  · intro row member
    cases member

end UploadWorld

open UploadWorld

/-- Wherever batches are concluded by a task that holds them alone, terminal statuses are
final, and a rejected batch is not posted again. -/
theorem terminal_statuses_are_final (config : AssemblerConfig)
    (earlier later : List (UploadOperation × UploadInput))
    (noSweeps : ∀ operation ∈ earlier ++ later, NoSweep operation)
    (alone : (uploadMachine config).Meets ConcludesAlone opened (earlier ++ later)) :
    ∀ row ∈ ((uploadMachine config).run opened earlier).rows,
      ∀ after ∈ ((uploadMachine config).run opened (earlier ++ later)).rows,
        after.batchId = row.batchId →
        (row.status.Terminal → after.status ≠ .pending ∧ after.status ≠ .failed) ∧
          (row.status = .rejected →
            ((uploadMachine config).run opened (earlier ++ later)).posts row.batchId =
              ((uploadMachine config).run opened earlier).posts row.batchId) := by
  rw [forall_mem_append] at noSweeps
  rw [Machine.meets_append] at alone
  have keeps (ops : List (UploadOperation × UploadInput)) (allowed : ∀ op ∈ ops, NoSweep op)
      {world : UploadWorld} (guarded : world.Guarded)
      (meets : (uploadMachine config).Meets ConcludesAlone world ops) :
      ((uploadMachine config).run world ops).Guarded ∧
        world.Settles ((uploadMachine config).run world ops) := by
    induction ops generalizing world with
    | nil => exact ⟨guarded, Settles.refl world⟩
    | cons op ops ih =>
      rw [forall_mem_cons] at allowed
      have stepped : ((uploadMachine config).next world op).Guarded ∧
          world.Settles ((uploadMachine config).next world op) :=
        guarded.next allowed.1 meets.1
      obtain ⟨next_guarded, step⟩ := stepped
      obtain ⟨last_guarded, rest⟩ := ih allowed.2 next_guarded meets.2
      exact ⟨last_guarded, step.trans rest⟩
  obtain ⟨before_guarded, -⟩ := keeps earlier noSweeps.1 guarded_opened alone.1
  obtain ⟨after_guarded, settles⟩ := keeps later noSweeps.2 before_guarded alone.2
  intro row isRow after isAfter sameId
  rw [Machine.run_append] at isAfter ⊢
  constructor
  · intro terminal
    obtain ⟨last, isLast, lastId, keepsTerminal⟩ := settles.terminal row isRow
    have same := after_guarded.row_eq isAfter isLast (sameId.trans lastId.symm)
    have isTerminal := keepsTerminal terminal
    rw [← same] at isTerminal
    constructor
    · intro isPending
      rw [isPending] at isTerminal
      exact isTerminal
    · intro isFailed
      rw [isFailed] at isTerminal
      exact isTerminal
  · intro isRejected
    exact (settles.rejected row isRow isRejected).2

/-- Every event closes a batch; the digest is the one of the batch of the sample event. -/
def sampleUploadConfig : AssemblerConfig where
  sha256Hex _ := "721f58759daf7a567e9ef71b7d9b87e88119f0a2963661feaa9258b713829ec8"
  serviceVersion := "0.1.0"
  deviceId := "device-1"
  countThreshold := 1
  ageThreshold := 600

def sampleBatchId : String := sampleUploadConfig.sha256Hex []

def sampleAbstractedEvent : AbstractedEvent where
  stableId := "stable-1"
  label := "document:editing"
  category := "FOCUS_WORK"
  taxonomyVersion := "1"
  classificationTier := "local"
  occurredAt := 0

def sampleInput (second : Int) (response : Except BatchUploadError UploadOutcome) :
    UploadInput where
  now := Duration.seconds second
  delay := Duration.seconds 5
  response := response
  storeFails := false

def sampleSteps (count task : Nat) (input : UploadInput) :
    List (UploadOperation × UploadInput) :=
  List.replicate count (.advance task, input)

def submittedSample : List (UploadOperation × UploadInput) :=
  let input := sampleInput 1 (.ok .accepted)
  (.rawEvent "event-1" sampleAbstractedEvent 30 true, input) :: sampleSteps 5 0 input

/-- The server rejects the batch while no other task is under way. -/
def rejectedSample : List (UploadOperation × UploadInput) :=
  submittedSample ++ sampleSteps 3 0 (sampleInput 2 (.ok (.rawFieldRejected "raw")))

def drainedSample : List (UploadOperation × UploadInput) :=
  let input := sampleInput 20 (.ok .accepted)
  [(.flushNow, input), (.resumePending, input)] ++ sampleSteps 4 1 input ++ sampleSteps 2 2 input

def rejectedSampleRow : UploadBatchRow where
  batchId := sampleBatchId
  status := .rejected
  sentAt := none
  attemptCount := 0
  nextAttemptAt := 0
  lastErrorCode := some "raw_field_rejected"
  createdAt := 1
  events :=
    [batchEvent (BatchEventPayload.fromAbstracted "event-1" sampleAbstractedEvent 30)]

/-- A rejected batch is not sent again by the passes that follow. -/
theorem terminal_statuses_are_final_after_rejection :
    (uploadMachine sampleUploadConfig).Meets ConcludesAlone opened
        (rejectedSample ++ drainedSample) ∧
      ((uploadMachine sampleUploadConfig).run opened (rejectedSample ++ drainedSample)).posts
          sampleBatchId =
        ((uploadMachine sampleUploadConfig).run opened rejectedSample).posts sampleBatchId := by
  have alone : (uploadMachine sampleUploadConfig).Meets ConcludesAlone opened
      (rejectedSample ++ drainedSample) := by
    decide +kernel
  have isRow : rejectedSampleRow ∈
      ((uploadMachine sampleUploadConfig).run opened rejectedSample).rows := by
    decide +kernel
  have isAfter : rejectedSampleRow ∈
      ((uploadMachine sampleUploadConfig).run opened (rejectedSample ++ drainedSample)).rows := by
    decide +kernel
  have settled := terminal_statuses_are_final sampleUploadConfig rejectedSample drainedSample
    (by decide +kernel) alone rejectedSampleRow isRow rejectedSampleRow isAfter rfl
  exact ⟨alone, settled.2 rfl⟩

/-- "Send all now" posts the batch again and has it rejected while the first POST is still
under way; the first one then fails in transport. -/
def overlappingPosts : List (UploadOperation × UploadInput) :=
  let rejected := sampleInput 2 (.ok (.rawFieldRejected "raw"))
  submittedSample ++ (.flushNow, rejected) :: sampleSteps 5 1 rejected

def reopenedSample : List (UploadOperation × UploadInput) :=
  let resumed := sampleInput 20 (.ok .accepted)
  sampleSteps 6 0 (sampleInput 3 (.error .transport)) ++
    (.resumePending, resumed) :: sampleSteps 4 2 resumed

/-- The POST that fails last puts the rejected batch back, and it is sent again. -/
theorem overlapping_posts_reopen_rejected :
    (∀ operation ∈ overlappingPosts ++ reopenedSample, NoSweep operation) ∧
      ∃ row ∈ ((uploadMachine sampleUploadConfig).run opened overlappingPosts).rows,
        row.status = .rejected ∧
          ∃ after ∈ ((uploadMachine sampleUploadConfig).run opened
              (overlappingPosts ++ reopenedSample)).rows,
            after.batchId = row.batchId ∧ after.status = .pending ∧
              ((uploadMachine sampleUploadConfig).run opened
                  (overlappingPosts ++ reopenedSample)).posts row.batchId =
                ((uploadMachine sampleUploadConfig).run opened overlappingPosts).posts
                  row.batchId + 1 := by
  decide +kernel

end Velvt
