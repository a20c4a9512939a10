import Velvt.UploadCustody
import Velvt.UploadTerminal

/-!
# Conservation of events

Each call of a task moves events from one party to the next and loses none.
-/

namespace Velvt

open StepMachine TaskPrograms List

def UploadStore.placed (store : UploadStore) : List (String × String) :=
  store.batches.flatMap fun row => row.events.map fun event => (event.eventId, row.batchId)

def UploadStore.persistedIds (store : UploadStore) : List String :=
  store.placed.map (·.1)

def UploadCall.handed {Answer : Type} : UploadCall Answer → List String
  | .push event _ => [event.eventId]
  | _ => []

/-- What a call did with the events: `handed` came to the assembler and `fixed` were
persisted. -/
structure Accounted (handed : List String) (fixed : List (String × String)) (state : Custody)
    (shared : UploadShared) (next : Custody) (after : UploadShared) : Prop where
  owed : ∀ eventId, next.owed.count eventId + handed.count eventId = state.owed.count eventId
  loose : ∀ eventId,
    next.carriedIds.count eventId + after.assembler.eventIds.count eventId +
        (fixed.map (·.1)).count eventId =
      state.carriedIds.count eventId + shared.assembler.eventIds.count eventId +
        handed.count eventId
  placed : after.store.placed = shared.store.placed ++ fixed
  known : ∀ pair ∈ next.placed, pair ∈ state.placed ∨ pair ∈ after.store.placed
  answered : ∀ answer ∈ after.answered, answer ∈ shared.answered ∨ state.Knows answer.1
  rawEvents : after.store.rawEvents = shared.store.rawEvents

section Calls

variable {config : AssemblerConfig} {input : UploadInput} {state : Custody}
  {shared after : UploadShared}

theorem accounted_unmoved (assembler : after.assembler = shared.assembler)
    (placed : after.store.placed = shared.store.placed)
    (answered : after.answered = shared.answered)
    (rawEvents : after.store.rawEvents = shared.store.rawEvents) :
    Accounted [] [] state shared state after := by
  constructor
  · intro eventId
    rfl
  · intro eventId
    rw [assembler]
    rfl
  · rw [placed, append_nil]
  · intro pair member
    exact Or.inl member
  · intro answer member
    exact Or.inl (answered ▸ member)
  · exact rawEvents

theorem accounted_command {result : Except PersistenceError UploadStore}
    {answer : Except PersistenceError Unit}
    (handled : shared.command input result = some (answer, after))
    (keeps : ∀ store, result = .ok store →
      store.placed = shared.store.placed ∧ store.rawEvents = shared.store.rawEvents) :
    Accounted [] [] state shared state after := by
  rcases command_cases handled with ⟨-, rfl⟩ | ⟨store, isResult, -, rfl⟩
  · exact accounted_unmoved rfl rfl rfl rfl
  · obtain ⟨placed, rawEvents⟩ := keeps store isResult
    exact accounted_unmoved rfl placed rfl rawEvents

theorem placed_updateBatch {store changed : UploadStore} {batchId : String}
    {change : UploadBatchRow → UploadBatchRow}
    (updated : store.updateBatch batchId change = .ok changed)
    (keepsId : ∀ row, (change row).batchId = row.batchId)
    (keepsEvents : ∀ row, (change row).events = row.events) :
    changed.placed = store.placed ∧ changed.rawEvents = store.rawEvents := by
  rw [updateBatch_batches updated]
  refine ⟨?_, rfl⟩
  unfold UploadStore.placed rewriteRows
  rw [flatMap_map]
  congr 1
  funext row
  split
  · rw [keepsId, keepsEvents]
  · rfl

theorem accounted_query {Answer : Type} {value : Answer} {answer : Except PersistenceError Answer}
    (handled : shared.query input value = some (answer, after)) :
    Accounted [] [] state shared state after := by
  rw [(query_cases handled).1]
  exact accounted_unmoved rfl rfl rfl rfl

theorem accounted_assembling {handed : List String} {owed : List String}
    {result : Option BatchPayload × BatchAssembler} {batch : Option BatchPayload}
    (none : state.carried = none)
    (owes : ∀ eventId, owed.count eventId + handed.count eventId = state.owed.count eventId)
    (perm : (BatchAssembler.resultIds result).Perm (shared.assembler.eventIds ++ handed))
    (handled : shared.assembling result = some (batch, after)) :
    Accounted handed [] state shared { state with owed := owed, carried := batch } after := by
  cases handled
  constructor
  · exact owes
  · intro eventId
    have counts := perm.count_eq eventId
    rw [BatchAssembler.resultIds, count_append, count_append] at counts
    simp only [Custody.carriedIds, none, map_nil, count_nil, Option.toList_none, flatMap_nil]
    omega
  · rw [append_nil]
  · intro pair member
    exact Or.inl member
  · intro answer member
    exact Or.inl member
  · rfl

theorem accounted_requeue {batch : BatchPayload} (carries : state.carried = some batch) :
    Accounted [] [] state shared { state with carried := none }
      { shared with assembler := shared.assembler.requeue batch } := by
  constructor
  · intro eventId
    rfl
  · intro eventId
    simp only [Custody.carriedIds, carries, BatchAssembler.requeue_eventIds, count_append,
      Option.toList_none, Option.toList_some, flatMap_nil, flatMap_singleton,
      count_nil, map_nil]
    omega
  · rw [append_nil]
  · intro pair member
    exact Or.inl member
  · intro answer member
    exact Or.inl member
  · rfl

theorem insertBatchWithEvents_batches {store changed : UploadStore} {batchId : String}
    {events : List BatchEvent} {now : Int}
    (inserted : store.insertBatchWithEvents batchId events now = .ok changed) :
    changed.placed = store.placed ++ events.map (fun event => (event.eventId, batchId)) ∧
      changed.rawEvents = store.rawEvents := by
  unfold UploadStore.insertBatchWithEvents at inserted
  split at inserted
  · cases inserted
  · cases inserted
    refine ⟨?_, rfl⟩
    simp [UploadStore.placed, map_map]

theorem accounted_insert {batch : BatchPayload} {answer : Except PersistenceError Unit}
    (carries : state.carried = some batch) (handled : shared.command input
      (shared.store.insertBatchWithEvents batch.batchId (batch.events.map batchEvent) input.now) =
        some (answer, after)) :
    ∃ fixed, Accounted [] fixed state shared
      ((UploadCall.insertBatchWithEvents batch.batchId (batch.events.map batchEvent)).entrusts
        state answer) after := by
  rcases command_cases handled with ⟨⟨error, rfl⟩, rfl⟩ | ⟨store, inserted, rfl, rfl⟩
  · exact ⟨[], accounted_unmoved rfl rfl rfl rfl⟩
  · obtain ⟨placed, rawEvents⟩ := insertBatchWithEvents_batches inserted
    refine ⟨_, ?_, ?_, placed, ?_, ?_, rawEvents⟩
    · intro eventId
      rfl
    · intro eventId
      have sameIds : ((batch.events.map batchEvent).map fun event =>
          (event.eventId, batch.batchId)).map (·.1) = batch.eventIds := by
        simp [BatchPayload.eventIds, batchEvent, Function.comp_def]
      rw [sameIds]
      simp only [Custody.carriedIds, UploadCall.entrusts, carries, Option.toList_none,
        Option.toList_some, flatMap_nil, flatMap_singleton, count_nil]
      omega
    · intro pair member
      rcases mem_append.mp member with before | isNew
      · exact Or.inl before
      · refine Or.inr ?_
        rw [placed]
        exact mem_append_right _ isNew
    · intro answer member
      exact Or.inl member

theorem mem_placed_of_resumableBatches {store : UploadStore} {now : Option Int}
    {pair : String × String} (member : pair ∈ placements (store.resumableBatches now)) :
    pair ∈ store.placed := by
  obtain ⟨batch, isBatch, isEvent⟩ := mem_flatMap.mp member
  obtain ⟨row, isRow, rfl⟩ := mem_map.mp isBatch
  rw [mem_insertionSort] at isRow
  exact mem_flatMap.mpr ⟨row, mem_of_mem_filter isRow, isEvent⟩

/-- A call places, passes on or settles every event it is entrusted with. -/
theorem performUpload_accounted {Answer : Type} {operation : UploadCall Answer}
    {answer : Answer} (entrusted : operation.Entrusted state)
    (handled : performUpload config Answer input shared operation = some (answer, after)) :
    ∃ fixed, Accounted operation.handed fixed state shared (operation.entrusts state answer)
      after := by
  cases operation with
  | push event now =>
    refine ⟨[], accounted_assembling entrusted.1 ?_
      (BatchAssembler.push_perm config shared.assembler event now) handled⟩
    intro eventId
    rw [count_erase]
    have isOwed := count_pos_iff.mpr entrusted.2
    simp only [UploadCall.handed, count_singleton]
    split
    next same =>
      rw [beq_iff_eq] at same
      subst same
      omega
    · omega
  | flushDue now =>
    refine ⟨[], accounted_assembling entrusted (fun _ => rfl) ?_ handled⟩
    change List.Perm _ (shared.assembler.eventIds ++ [])
    rw [append_nil]
    exact BatchAssembler.flushDue_perm config shared.assembler now
  | flushShutdown =>
    refine ⟨[], accounted_assembling entrusted (fun _ => rfl) ?_ handled⟩
    change List.Perm _ (shared.assembler.eventIds ++ [])
    rw [append_nil]
    exact BatchAssembler.takeBatch_perm config shared.assembler
  | requeue batch =>
    cases handled
    exact ⟨[], accounted_requeue entrusted⟩
  | lockFlushGate =>
    unfold performUpload at handled
    dsimp only at handled
    split at handled
    · cases handled
    · cases handled
      exact ⟨[], accounted_unmoved rfl rfl rfl rfl⟩
  | unlockFlushGate =>
    cases handled
    exact ⟨[], accounted_unmoved rfl rfl rfl rfl⟩
  | insertBatchWithEvents batchId events =>
    obtain ⟨batch, carries, rfl, rfl⟩ := entrusted
    exact accounted_insert carries handled
  | markSent batchId =>
    exact ⟨[], accounted_command handled fun store updated =>
      placed_updateBatch updated (fun _ => rfl) fun _ => rfl⟩
  | markFailed batchId nextAttemptAt errorCode =>
    exact ⟨[], accounted_command handled fun store updated =>
      placed_updateBatch updated (fun _ => rfl) fun _ => rfl⟩
  | markPendingRetry batchId nextAttemptAt errorCode =>
    exact ⟨[], accounted_command handled fun store updated =>
      placed_updateBatch updated (fun _ => rfl) fun _ => rfl⟩
  | markRejected batchId errorCode =>
    exact ⟨[], accounted_command handled fun store updated =>
      placed_updateBatch updated (fun _ => rfl) fun _ => rfl⟩
  | discardBatch batchId => exact absurd entrusted id
  | resumableBatches now =>
    obtain ⟨rfl, isAnswer⟩ := query_cases handled
    have same := @accounted_unmoved state after after rfl rfl rfl rfl
    rcases isAnswer with ⟨error, rfl⟩ | rfl
    · exact ⟨[], same⟩
    · refine ⟨[], same.owed, same.loose, same.placed, ?_, same.answered, same.rawEvents⟩
      intro pair member
      rcases mem_append.mp member with before | listed
      · exact Or.inl before
      · exact Or.inr (mem_placed_of_resumableBatches listed)
  | hostBackoffUntil => exact ⟨[], accounted_query handled⟩
  | hostBackoffAttempt => exact ⟨[], accounted_query handled⟩
  | setHostBackoff attemptCount nextAttemptAt =>
    change shared.command input (.ok (shared.store.setHostBackoff attemptCount nextAttemptAt)) =
      _ at handled
    refine ⟨[], accounted_command handled ?_⟩
    rintro store ⟨⟩
    exact ⟨rfl, rfl⟩
  | clearHostBackoff =>
    change shared.command input (.ok shared.store.clearHostBackoff) = _ at handled
    refine ⟨[], accounted_command handled ?_⟩
    rintro store ⟨⟩
    exact ⟨rfl, rfl⟩
  | insertRawEvent entry => exact absurd entrusted id
  | unbatchedEvents limit => exact absurd entrusted id
  | utcNow =>
    cases handled
    exact ⟨[], accounted_unmoved rfl rfl rfl rfl⟩
  | nextDelay attempt retryAfter =>
    cases handled
    exact ⟨[], accounted_unmoved rfl rfl rfl rfl⟩
  | send batch =>
    cases handled
    exact ⟨[], accounted_unmoved rfl rfl rfl rfl⟩
  | receive batch =>
    cases handled
    have same := @accounted_unmoved state shared shared rfl rfl rfl rfl
    refine ⟨[], same.owed, same.loose, same.placed, same.known, ?_, same.rawEvents⟩
    intro answer member
    rcases mem_append.mp member with before | isNew
    · exact Or.inl before
    · rw [mem_singleton.mp isNew]
      exact Or.inr entrusted
  | alert message =>
    cases handled
    exact ⟨[], accounted_unmoved rfl rfl rfl rfl⟩
  | serve =>
    cases handled
    exact ⟨[], accounted_unmoved rfl rfl rfl rfl⟩

end Calls

def custodyOf (task : Task UploadCall) : Custody :=
  custody.reached .fresh task.trace

/-- The events of the batch that a task carries; a task that has ended carries none. -/
def carriedBy (task : Task UploadCall) : List String :=
  match task.program with
  | .done _ => []
  | .call _ _ => (custodyOf task).carriedIds

/-- The events of the persisted batches that a running task knows. -/
def knownBy (task : Task UploadCall) : List (String × String) :=
  match task.program with
  | .done _ => []
  | .call _ _ => (custodyOf task).placed

/-- An answer by which the server has taken a batch in, or turned it down for good. -/
def SettlesBatch : Except BatchUploadError UploadOutcome → Bool
  | .ok .accepted | .ok .duplicate | .ok (.rawFieldRejected _) => true
  | _ => false

namespace UploadWorld

variable (world : UploadWorld)

def owed : List String := world.tasks.flatMap fun task => (custodyOf task).owed

def carried : List String := world.tasks.flatMap carriedBy

def buffered : List String := world.shared.assembler.eventIds

def placed : List (String × String) := world.shared.store.placed

def persisted : List String := world.shared.store.persistedIds

def handed : List String :=
  world.tasks.flatMap fun task => task.trace.flatMap fun step => step.operation.handed

/-- The events of the batches that the server has settled, and of those that a running task
has persisted or read. -/
def known : List (String × String) :=
  (world.shared.answered.flatMap fun answer =>
      if SettlesBatch answer.2 then
        answer.1.eventIds.map fun eventId => (eventId, answer.1.batchId)
      else []) ++
    world.tasks.flatMap knownBy

def eligibleIds : List String :=
  (world.shared.store.rawEvents.filter (·.uploadEligible)).map (·.eventId)

/-- What one step did with the events. -/
structure Moved (world : UploadWorld) (handed : List String) (fixed : List (String × String))
    (after : UploadWorld) : Prop where
  owed : ∀ eventId, after.owed.count eventId + handed.count eventId = world.owed.count eventId
  loose : ∀ eventId,
    after.carried.count eventId + after.buffered.count eventId + (fixed.map (·.1)).count eventId =
      world.carried.count eventId + world.buffered.count eventId + handed.count eventId
  handed : ∀ eventId, after.handed.count eventId = world.handed.count eventId + handed.count eventId
  placed : after.placed = world.placed ++ fixed
  known : ∀ pair ∈ after.known, pair ∈ world.known ∨ pair ∈ after.placed
  rawEvents : after.shared.store.rawEvents = world.shared.store.rawEvents

theorem Moved.refl : world.Moved [] [] world := by
  constructor
  · intro eventId
    rfl
  · intro eventId
    rfl
  · intro eventId
    rfl
  · rw [append_nil]
  · intro pair member
    exact Or.inl member
  · rfl

/-- Every task carries its batch through, and each event is with one party. -/
structure Custodied (world : UploadWorld) : Prop where
  conforms : world.Conforms custody .fresh fun last => last.carried = none
  once : ∀ eventId,
    world.owed.count eventId + world.carried.count eventId + world.buffered.count eventId +
      world.persisted.count eventId ≤ 1
  eligible : ∀ eventId,
    0 < world.owed.count eventId + world.carried.count eventId +
      world.buffered.count eventId → eventId ∈ world.eligibleIds
  rawKeys : (world.shared.store.rawEvents.map (·.eventId)).Nodup

theorem custody_gives (config : AssemblerConfig) :
    (performUpload config).Gives custody fun _ => True := by
  intro _ _ _ _ _ _ _ _
  trivial

theorem carriedBy_eq {task : Task UploadCall}
    (follows : Follows custody EndsEmpty task.program (custodyOf task)) :
    carriedBy task = (custodyOf task).carriedIds := by
  obtain ⟨trace, program⟩ := task
  cases program with
  | done result =>
    have isNone : (custodyOf { trace := trace, program := .done result }).carried = none :=
      follows
    rw [Custody.carriedIds, isNone]
    rfl
  | call operation resume => rfl

theorem knownBy_subset (task : Task UploadCall) :
    ∀ pair ∈ knownBy task, pair ∈ (custodyOf task).placed := by
  obtain ⟨trace, program⟩ := task
  intro pair member
  cases program with
  | done result => cases member
  | call operation resume => exact member

variable {world : UploadWorld}

/-- A task that goes on moves events, and loses none. -/
theorem moved_advance (config : AssemblerConfig)
    (conforms : world.Conforms custody .fresh fun last => last.carried = none)
    (task : Nat) (input : UploadInput) :
    ∃ handed fixed, world.Moved handed fixed
      (World.advance (performUpload config) world task input) := by
  rcases World.advance_cases (performUpload config) world task input with same |
    ⟨Answer, operation, resume, trace, answer, shared, isTask, handled, isNext⟩
  · rw [same]
    exact ⟨[], [], Moved.refl world⟩
  have later := conforms.advance (performUpload config) custody (custody_gives config) trivial
    task input
  have isMember := mem_of_getElem? isTask
  obtain ⟨entrusted, -⟩ := conforms _ isMember
  obtain ⟨fixed, accounted⟩ := performUpload_accounted entrusted handled
  rw [isNext] at later ⊢
  refine ⟨operation.handed, fixed, ?_⟩
  set before : Task UploadCall := { trace := trace, program := .call operation resume }
  set next : Task UploadCall :=
    { trace := trace ++ [{ operation := operation, answer := answer }], program := resume answer }
  have isCustody : custodyOf next = operation.entrusts (custodyOf before) answer :=
    custody.reached_concat _ _ _
  change Accounted operation.handed fixed (custodyOf before) world.shared
    (operation.entrusts (custodyOf before) answer) shared at accounted
  rw [← isCustody] at accounted
  have bound := (List.getElem?_eq_some_iff.mp isTask).1
  have carriedAfter : carriedBy next = (custodyOf next).carriedIds :=
    carriedBy_eq (later next (mem_set bound next))
  constructor
  · intro eventId
    have counts := count_flatMap_set isTask next (fun task => (custodyOf task).owed) eventId
    have owes := accounted.owed eventId
    simp only [UploadWorld.owed]
    omega
  · intro eventId
    have counts := count_flatMap_set isTask next carriedBy eventId
    have loose := accounted.loose eventId
    rw [← carriedAfter] at loose
    change _ + (carriedBy before).count eventId = _ at counts
    change _ = (carriedBy before).count eventId + _ + _ at loose
    simp only [UploadWorld.carried, UploadWorld.buffered]
    omega
  · intro eventId
    have counts := count_flatMap_set isTask next
      (fun task => task.trace.flatMap fun step => step.operation.handed) eventId
    have isHanded : next.trace.flatMap (fun step => step.operation.handed) =
        before.trace.flatMap (fun step => step.operation.handed) ++ operation.handed := by
      simp [next, before]
    simp only [isHanded, count_append] at counts
    simp only [UploadWorld.handed]
    omega
  · exact accounted.placed
  · intro pair member
    have inHand (isPlaced : pair ∈ (custodyOf before).placed) : pair ∈ world.known :=
      mem_append_right _ (mem_flatMap.mpr ⟨before, isMember, isPlaced⟩)
    rcases mem_append.mp member with isAnswered | isKnown
    · obtain ⟨answered, isAnswer, isEvent⟩ := mem_flatMap.mp isAnswered
      split at isEvent
      next settles =>
        obtain ⟨eventId, isPart, rfl⟩ := mem_map.mp isEvent
        rcases accounted.answered answered isAnswer with before | knows
        · refine Or.inl (mem_append_left _ (mem_flatMap.mpr ⟨answered, before, ?_⟩))
          rw [if_pos settles]
          exact isEvent
        · exact Or.inl (inHand (knows eventId isPart))
      next => cases isEvent
    · obtain ⟨knower, isKnower, knows⟩ := mem_flatMap.mp isKnown
      rcases mem_or_eq_of_mem_set isKnower with wasKnower | rfl
      · exact Or.inl (mem_append_right _ (mem_flatMap.mpr ⟨knower, wasKnower, knows⟩))
      · have isPlaced := knownBy_subset next pair knows
        rcases accounted.known pair isPlaced with before | persisted
        · exact Or.inl (inHand before)
        · exact Or.inr persisted
  · exact accounted.rawEvents

variable {handed : List String} {fixed : List (String × String)} {entry : RawEventEntry}

variable {world after : UploadWorld}

theorem Moved.persisted (moved : world.Moved handed fixed after) (eventId : String) :
    after.persisted.count eventId =
      world.persisted.count eventId + (fixed.map (·.1)).count eventId := by
  change (after.placed.map (·.1)).count eventId = (world.placed.map (·.1)).count eventId + _
  rw [moved.placed, map_append, count_append]

theorem Moved.trans {first middle last : UploadWorld} {handed after : List String}
    {fixed later : List (String × String)} (one : first.Moved handed fixed middle)
    (two : middle.Moved after later last) :
    first.Moved (handed ++ after) (fixed ++ later) last := by
  constructor
  · intro eventId
    have firstCount := one.owed eventId
    have secondCount := two.owed eventId
    rw [count_append]
    omega
  · intro eventId
    have firstCount := one.loose eventId
    have secondCount := two.loose eventId
    rw [map_append, count_append, count_append]
    omega
  · intro eventId
    have firstCount := one.handed eventId
    have secondCount := two.handed eventId
    rw [count_append]
    omega
  · rw [two.placed, one.placed, append_assoc]
  · intro pair member
    rcases two.known pair member with isKnown | isPlaced
    · rcases one.known pair isKnown with before | wasPlaced
      · exact Or.inl before
      · refine Or.inr ?_
        rw [two.placed]
        exact mem_append_left _ wasPlaced
    · exact Or.inr isPlaced
  · rw [two.rawEvents, one.rawEvents]

theorem Custodied.moved (custodied : world.Custodied)
    (moved : world.Moved handed fixed after)
    (conforms : after.Conforms custody .fresh fun last => last.carried = none) :
    after.Custodied := by
  refine ⟨conforms, ?_, ?_, ?_⟩
  · intro eventId
    have once := custodied.once eventId
    have owed := moved.owed eventId
    have loose := moved.loose eventId
    have persisted := moved.persisted eventId
    omega
  · intro eventId isLoose
    have owed := moved.owed eventId
    have loose := moved.loose eventId
    have eligible := custodied.eligible eventId (by omega)
    unfold eligibleIds at eligible ⊢
    rw [moved.rawEvents]
    exact eligible
  · rw [moved.rawEvents]
    exact custodied.rawKeys

theorem moved_added (world : UploadWorld) (task : Task UploadCall)
    (isFresh : custodyOf task = .fresh)
    (noneHanded : task.trace.flatMap (fun step => step.operation.handed) = []) :
    world.Moved [] [] { world with tasks := world.tasks ++ [task] } := by
  have carriesNone : carriedBy task = [] := by
    unfold carriedBy
    split
    · rfl
    · rw [isFresh]
      rfl
  have knowsNone : knownBy task = [] := by
    unfold knownBy
    split
    · rfl
    · rw [isFresh]
      rfl
  constructor
  · intro eventId
    simp [UploadWorld.owed, isFresh, Custody.fresh]
  · intro eventId
    simp [UploadWorld.carried, UploadWorld.buffered, carriesNone]
  · intro eventId
    simp [UploadWorld.handed, noneHanded]
  · rw [append_nil]
    rfl
  · intro pair member
    refine Or.inl ?_
    simpa [UploadWorld.known, knowsNone] using member
  · rfl

theorem moved_start (config : AssemblerConfig)
    (conforms : world.Conforms custody .fresh fun last => last.carried = none)
    {program : Program UploadCall Unit} (follows : Follows custody EndsEmpty program .fresh)
    (input : UploadInput) :
    ∃ handed fixed, world.Moved handed fixed
      (World.start (performUpload config) world program input) := by
  have added := moved_added world { trace := [], program := program } rfl rfl
  have started : World.Conforms custody .fresh (fun last => last.carried = none)
      { world with tasks := world.tasks ++ [{ trace := [], program := program }] } := by
    intro task member
    rcases mem_append.mp member with before | isNew
    · exact conforms task before
    · rw [mem_singleton.mp isNew]
      exact follows
  obtain ⟨handed, fixed, moved⟩ := moved_advance config started world.tasks.length input
  exact ⟨_, _, added.trans moved⟩

/-- An event is observed: its row is stored, and its task owes it. -/
structure Observed (world : UploadWorld) (entry : RawEventEntry) (after : UploadWorld) : Prop where
  isNew : entry.eventId ∉ world.shared.store.rawEvents.map (·.eventId)
  owed : after.owed = world.owed ++ if entry.uploadEligible then [entry.eventId] else []
  carried : after.carried = world.carried
  buffered : after.buffered = world.buffered
  placed : after.placed = world.placed
  known : after.known = world.known
  handed : after.handed = world.handed
  rawEvents : ∃ row : RawEventBufferRow, row.eventId = entry.eventId ∧
    row.uploadEligible = entry.uploadEligible ∧
    after.shared.store.rawEvents = world.shared.store.rawEvents ++ [row]

theorem conforms_added (shared : UploadShared)
    (conforms : world.Conforms custody .fresh fun last => last.carried = none)
    {task : Task UploadCall} (follows : Follows custody EndsEmpty task.program (custodyOf task)) :
    World.Conforms custody .fresh (fun last => last.carried = none)
      { shared := shared, tasks := world.tasks ++ [task] } := by
  intro other member
  rcases mem_append.mp member with before | isNew
  · exact conforms other before
  · rw [mem_singleton.mp isNew]
    exact follows

theorem insertRawEvent_rows {store stored : UploadStore} {now : Int}
    (inserted : store.insertRawEvent entry now = .ok stored) :
    entry.eventId ∉ store.rawEvents.map (·.eventId) ∧
      ∃ row : RawEventBufferRow, row.eventId = entry.eventId ∧
        row.uploadEligible = entry.uploadEligible ∧
        stored = { store with rawEvents := store.rawEvents ++ [row] } := by
  unfold UploadStore.insertRawEvent at inserted
  split at inserted
  · cases inserted
  next admissible =>
    cases inserted
    refine ⟨fun known => admissible ?_, _, rfl, rfl, rfl⟩
    exact Or.inr (Or.inr (Or.inr (Or.inr (Or.inr known))))

/-- A program that begins by inserting the event observes it, or moves nothing. -/
theorem observed_start (config : AssemblerConfig)
    {program : Program UploadCall Unit} (opens : Opens (.insertRawEvent entry) program)
    (conforms : world.Conforms custody .fresh fun last => last.carried = none)
    (input : UploadInput) :
    (World.start (performUpload config) world program input).Conforms custody .fresh
        (fun last => last.carried = none) ∧
      (world.Moved [] [] (World.start (performUpload config) world program input) ∨
        world.Observed entry (World.start (performUpload config) world program input)) := by
  obtain ⟨resume, rfl, follows⟩ := opens
  obtain ⟨⟨answer, shared⟩, handled⟩ : ∃ result, performUpload config _ input world.shared
      (.insertRawEvent entry) = some result := by
    change ∃ result, world.shared.command input _ = some result
    unfold UploadShared.command
    split
    · exact ⟨_, rfl⟩
    · split
      · exact ⟨_, rfl⟩
      · exact ⟨_, rfl⟩
  rw [World.start_call (performUpload config) handled]
  refine ⟨conforms_added shared conforms (follows answer), ?_⟩
  rcases command_cases handled with ⟨⟨error, rfl⟩, rfl⟩ | ⟨store, inserted, rfl, rfl⟩
  · exact Or.inl (moved_added world _ rfl rfl)
  · obtain ⟨isNew, row, sameId, sameEligible, rfl⟩ := insertRawEvent_rows inserted
    refine Or.inr ⟨isNew, ?_, ?_, rfl, rfl, ?_, ?_, row, sameId, sameEligible, rfl⟩
    · have owes : (custodyOf
          { trace := [{ operation := .insertRawEvent entry, answer := .ok () }]
            program := resume (.ok ()) }).owed =
              if entry.uploadEligible then [entry.eventId] else [] := rfl
      simp [UploadWorld.owed, owes]
    · have carriesNone : carriedBy
          { trace := [{ operation := .insertRawEvent entry, answer := .ok () }]
            program := resume (.ok ()) } = [] := by
        unfold carriedBy
        split
        · rfl
        · rfl
      simp [UploadWorld.carried, carriesNone]
    · have knowsNone : knownBy
          { trace := [{ operation := .insertRawEvent entry, answer := .ok () }]
            program := resume (.ok ()) } = [] := by
        unfold knownBy
        split
        · rfl
        · rfl
      simp [UploadWorld.known, knowsNone]
    · simp [UploadWorld.handed, UploadCall.handed]

/-- A new event comes to one party. -/
theorem Custodied.observed (custodied : world.Custodied) (observed : world.Observed entry after)
    (unplaced : entry.eventId ∉ world.persisted)
    (conforms : after.Conforms custody .fresh fun last => last.carried = none) :
    after.Custodied := by
  obtain ⟨row, sameId, sameEligible, rawEvents⟩ := observed.rawEvents
  have isUnheld : world.owed.count entry.eventId + world.carried.count entry.eventId +
      world.buffered.count entry.eventId = 0 := by
    by_contra held
    have eligible := custodied.eligible entry.eventId (by omega)
    exact observed.isNew ((filter_sublist.map _).subset eligible)
  have persisted : after.persisted = world.persisted := by
    change after.placed.map (·.1) = world.placed.map (·.1)
    rw [observed.placed]
  have noneOf : world.persisted.count entry.eventId = 0 := count_eq_zero.mpr unplaced
  refine ⟨conforms, ?_, ?_, ?_⟩
  · intro eventId
    have once := custodied.once eventId
    rw [observed.owed, observed.carried, observed.buffered, persisted, count_append]
    by_cases same : eventId = entry.eventId
    · subst same
      have atMost : (if entry.uploadEligible then [entry.eventId] else []).count entry.eventId ≤
          1 := by
        split <;> simp
      omega
    · have noneNew : (if entry.uploadEligible then [entry.eventId] else []).count eventId = 0 := by
        split <;> simp [Ne.symm same]
      omega
  · intro eventId isHeld
    rw [observed.owed, observed.carried, observed.buffered, count_append] at isHeld
    unfold UploadWorld.eligibleIds
    rw [rawEvents, filter_append, map_append, mem_append]
    by_cases before : 0 < world.owed.count eventId + world.carried.count eventId +
        world.buffered.count eventId
    · exact Or.inl (custodied.eligible eventId before)
    · have isNew : 0 < (if entry.uploadEligible then [entry.eventId] else []).count eventId := by
        omega
      split at isNew
      next eligible =>
        have same := mem_singleton.mp (count_pos_iff.mp isNew)
        refine Or.inr ?_
        rw [← sameEligible] at eligible
        simp [eligible, sameId, same]
      next => simp at isNew
  · rw [rawEvents, map_append, nodup_append]
    refine ⟨custodied.rawKeys, nodup_singleton _, ?_⟩
    intro before isBefore new isNew same
    rw [map_singleton, mem_singleton] at isNew
    exact observed.isNew (by rw [← sameId, ← isNew, ← same]; exact isBefore)

theorem mem_rawEvents_of_eligible {eventId : String}
    (eligible : eventId ∈ world.eligibleIds) :
    eventId ∈ world.shared.store.rawEvents.map (·.eventId) :=
  (filter_sublist.map _).subset eligible

/-- As long as nothing is deleted, the handed events are in the buffer, carried or
persisted. -/
structure Conserved (world : UploadWorld) : Prop where
  custodied : world.Custodied
  observed : ∀ eventId ∈ world.persisted, eventId ∈ world.shared.store.rawEvents.map (·.eventId)
  accounted : ∀ eventId,
    world.handed.count eventId =
      world.carried.count eventId + world.buffered.count eventId + world.persisted.count eventId

theorem Conserved.moved (conserved : world.Conserved)
    (moved : world.Moved handed fixed after)
    (conforms : after.Conforms custody .fresh fun last => last.carried = none) :
    after.Conserved := by
  refine ⟨conserved.custodied.moved moved conforms, ?_, ?_⟩
  · intro eventId isPersisted
    rw [moved.rawEvents]
    by_cases before : eventId ∈ world.persisted
    · exact conserved.observed eventId before
    · have isCounted := count_pos_iff.mpr isPersisted
      have noneBefore := count_eq_zero.mpr before
      have owed := moved.owed eventId
      have loose := moved.loose eventId
      have persisted := moved.persisted eventId
      exact mem_rawEvents_of_eligible (conserved.custodied.eligible eventId (by omega))
  · intro eventId
    have accounted := conserved.accounted eventId
    have isHanded := moved.handed eventId
    have loose := moved.loose eventId
    have persisted := moved.persisted eventId
    omega

theorem Conserved.seen (conserved : world.Conserved) (observed : world.Observed entry after)
    (conforms : after.Conforms custody .fresh fun last => last.carried = none) :
    after.Conserved := by
  have unplaced : entry.eventId ∉ world.persisted := fun isPersisted =>
    observed.isNew (conserved.observed entry.eventId isPersisted)
  have persisted : after.persisted = world.persisted := by
    change after.placed.map (·.1) = world.placed.map (·.1)
    rw [observed.placed]
  refine ⟨conserved.custodied.observed observed unplaced conforms, ?_, ?_⟩
  · intro eventId isPersisted
    rw [persisted] at isPersisted
    obtain ⟨row, -, -, rawEvents⟩ := observed.rawEvents
    rw [rawEvents, map_append]
    exact mem_append_left _ (conserved.observed eventId isPersisted)
  · intro eventId
    rw [observed.handed, observed.carried, observed.buffered, persisted]
    exact conserved.accounted eventId

/-- The operations of a run that nothing ends and that deletes nothing. -/
def Uninterrupted : UploadOperation × UploadInput → Prop
  | (.sweep _ _ _ _, _) | (.restart _ _, _) => False
  | _ => True

instance (operation : UploadOperation × UploadInput) : Decidable (Uninterrupted operation) := by
  obtain ⟨operation, input⟩ := operation
  induction operation using UploadOperation.casesOn <;> dsimp only [Uninterrupted] <;> infer_instance

theorem Conserved.next {config : AssemblerConfig}
    (conserved : world.Conserved) {operation : UploadOperation × UploadInput}
    (uninterrupted : Uninterrupted operation) :
    ((uploadMachine config).next world operation).Conserved := by
  obtain ⟨operation, input⟩ := operation
  change (world.next config operation input).Conserved
  have conforms := conserved.custodied.conforms
  have stepped := world.next_stepped config operation input
  generalize world.next config operation input = after at stepped ⊢
  cases stepped with
  | refused => exact conserved
  | swept serving => exact absurd uninterrupted id
  | restarted => exact absurd uninterrupted id
  | advanced =>
    obtain ⟨handed, fixed, moved⟩ := moved_advance config conforms _ input
    exact conserved.moved moved (conforms.advance (performUpload config) custody
      (custody_gives config) trivial _ input)
  | @began operation input waits program begins admitted =>
    rcases begun_empty begins with follows |
      ⟨eventId, event, durationSeconds, uploadEligible, rfl, opens⟩
    · obtain ⟨handed, fixed, moved⟩ := moved_start config conforms follows input
      exact conserved.moved moved (conforms.start (performUpload config) custody
        (custody_gives config) trivial follows input)
    · obtain ⟨later, moved | observed⟩ := observed_start config opens conforms input
      · exact conserved.moved moved later
      · exact conserved.seen observed later

theorem conserved_opened : opened.Conserved := by
  refine ⟨⟨?_, ?_, ?_, ?_⟩, ?_, ?_⟩
  · intro task member
    cases member
  · intro eventId
    exact Nat.zero_le 1
  · intro eventId isHeld
    exact absurd isHeld (Nat.lt_irrefl 0)
  · exact nodup_nil
  · intro eventId member
    cases member
  · intro eventId
    rfl

/-- Where an event that was handed over can be. -/
inductive Place
  | buffer
  | taken (task : Nat)
  | persisted (batchId : String)

/-- A place has an event. -/
def Has (world : UploadWorld) : Place → String → Prop
  | .buffer, eventId => eventId ∈ world.buffered
  | .taken task, eventId => ∃ carrier ∈ world.tasks[task]?, eventId ∈ carriedBy carrier
  | .persisted batchId, eventId => (eventId, batchId) ∈ world.placed

section Places

variable {world : UploadWorld} {eventId : String}

theorem mem_carried : eventId ∈ world.carried ↔ ∃ task, world.Has (.taken task) eventId := by
  unfold UploadWorld.carried Has
  rw [mem_flatMap]
  constructor
  · rintro ⟨carrier, isCarrier, carries⟩
    obtain ⟨task, isTask⟩ := mem_iff_getElem?.mp isCarrier
    exact ⟨task, carrier, isTask, carries⟩
  · rintro ⟨task, carrier, isTask, carries⟩
    exact ⟨carrier, mem_of_getElem? isTask, carries⟩

theorem mem_persisted : eventId ∈ world.persisted ↔
    ∃ batchId, world.Has (.persisted batchId) eventId := by
  unfold UploadWorld.persisted UploadStore.persistedIds Has UploadWorld.placed
  rw [mem_map]
  constructor
  · rintro ⟨⟨_, batchId⟩, isPlaced, rfl⟩
    exact ⟨batchId, isPlaced⟩
  · rintro ⟨batchId, isPlaced⟩
    exact ⟨_, isPlaced, rfl⟩

theorem Custodied.task_eq (custodied : world.Custodied) {task other : Nat}
    (has : world.Has (.taken task) eventId) (alsoHas : world.Has (.taken other) eventId) :
    task = other := by
  have distinct : world.carried.Nodup := by
    rw [nodup_iff_count_le_one]
    intro eventId
    have once := custodied.once eventId
    omega
  have apart := pairwise_iff_getElem.mp (nodup_flatMap.mp distinct).2
  obtain ⟨carrier, isTask, carries⟩ := has
  obtain ⟨otherCarrier, isOther, alsoCarries⟩ := alsoHas
  obtain ⟨inBounds, rfl⟩ := List.getElem?_eq_some_iff.mp isTask
  obtain ⟨otherInBounds, rfl⟩ := List.getElem?_eq_some_iff.mp isOther
  rcases Nat.lt_trichotomy task other with before | same | after
  · exact absurd alsoCarries (apart task other inBounds otherInBounds before carries)
  · exact same
  · exact absurd carries (apart other task otherInBounds inBounds after alsoCarries)

theorem Custodied.batch_eq (custodied : world.Custodied) {batchId other : String}
    (has : world.Has (.persisted batchId) eventId)
    (alsoHas : world.Has (.persisted other) eventId) : batchId = other := by
  have distinct : (world.placed.map (·.1)).Nodup := by
    rw [nodup_iff_count_le_one]
    intro eventId
    have once : _ + world.persisted.count eventId ≤ 1 := custodied.once eventId
    change world.persisted.count eventId ≤ 1
    omega
  have same := inj_on_of_nodup_map distinct has alsoHas rfl
  exact congrArg Prod.snd same

end Places

end UploadWorld

open UploadWorld

/-- In every interleaving an event that was handed to the assembler is in one place, once. -/
theorem handed_event_in_one_place (config : AssemblerConfig)
    (operations : List (UploadOperation × UploadInput))
    (uninterrupted : ∀ operation ∈ operations, Uninterrupted operation) :
    let world := (uploadMachine config).run opened operations
    ∀ eventId ∈ world.handed,
      (∃! place, world.Has place eventId) ∧
        (world.buffered ++ world.carried ++ world.persisted).count eventId = 1 := by
  intro world eventId isHanded
  have conserved : world.Conserved :=
    (uploadMachine config).invariant_run
      (fun _ _ conserved condition => conserved.next condition) conserved_opened
      ((uploadMachine config).meets_of_mem (fun operation member _ =>
        uninterrupted operation member) opened)
  have once := conserved.custodied.once eventId
  have accounted := conserved.accounted eventId
  have isCounted := count_pos_iff.mpr isHanded
  have inOne : world.buffered.count eventId + world.carried.count eventId +
      world.persisted.count eventId = 1 := by omega
  refine ⟨?_, by rw [count_append, count_append]; exact inOne⟩
  have notBoth (first second : List String) (counts : first.count eventId +
      second.count eventId ≤ 1) (inFirst : eventId ∈ first) : eventId ∉ second := by
    intro inSecond
    have firstCount := count_pos_iff.mpr inFirst
    have secondCount := count_pos_iff.mpr inSecond
    omega
  by_cases isBuffered : eventId ∈ world.buffered
  · have notCarried := notBoth world.buffered world.carried (by omega) isBuffered
    have notPersisted := notBoth world.buffered world.persisted (by omega) isBuffered
    refine ⟨.buffer, isBuffered, ?_⟩
    rintro (_ | task | batchId) has
    · rfl
    · exact absurd (mem_carried.mpr ⟨task, has⟩) notCarried
    · exact absurd (mem_persisted.mpr ⟨batchId, has⟩) notPersisted
  by_cases isCarried : eventId ∈ world.carried
  · have notPersisted := notBoth world.carried world.persisted (by omega) isCarried
    obtain ⟨task, has⟩ := mem_carried.mp isCarried
    refine ⟨.taken task, has, ?_⟩
    rintro (_ | other | batchId) alsoHas
    · exact absurd alsoHas isBuffered
    · rw [conserved.custodied.task_eq has alsoHas]
    · exact absurd (mem_persisted.mpr ⟨batchId, alsoHas⟩) notPersisted
  · have isPersisted : eventId ∈ world.persisted := by
      rw [count_eq_zero.mpr isBuffered, count_eq_zero.mpr isCarried] at inOne
      exact count_pos_iff.mp (by omega)
    obtain ⟨batchId, has⟩ := mem_persisted.mp isPersisted
    refine ⟨.persisted batchId, has, ?_⟩
    rintro (_ | task | other) alsoHas
    · exact absurd alsoHas isBuffered
    · exact absurd (mem_carried.mpr ⟨task, alsoHas⟩) isCarried
    · rw [conserved.custodied.batch_eq has alsoHas]

/-- The insert of a batch fails, and its event goes back to the buffer. -/
def requeuedSample : List (UploadOperation × UploadInput) :=
  let input := sampleInput 1 (.ok .accepted)
  [(.rawEvent "event-1" sampleAbstractedEvent 30 true, input), (.advance 0, input),
    (.advance 0, input), (.advance 0, { input with storeFails := true }), (.advance 0, input)]

/-- The insert of the batch fails, and its event is back in the buffer. -/
theorem handed_event_in_one_place_requeued :
    let world := (uploadMachine sampleUploadConfig).run opened requeuedSample
    world.Has .buffer "event-1" ∧ (∃! place, world.Has place "event-1") := by
  have inBuffer : ((uploadMachine sampleUploadConfig).run opened requeuedSample).Has .buffer
      "event-1" := by
    change "event-1" ∈ _
    decide +kernel
  refine ⟨inBuffer, (handed_event_in_one_place sampleUploadConfig requeuedSample ?_ "event-1"
    ?_).1⟩
  · decide +kernel
  · decide +kernel

end Velvt
