import Mathlib.Data.List.Flatten
import Velvt.UploadConservation

/-!
# Placement of settled events

What keeps an event in its batch is that its row in `raw_event_buffer` has a `batch_event`, or is
gone: recovery queues every other eligible row again.
-/

namespace Velvt

open StepMachine TaskPrograms List

def UploadSweep.horizon : UploadSweep → Int
  | .expiredRawEvents => Duration.days 14
  | .sentBatches => Duration.days 30
  | .rejectedBatches => Duration.days 7
  | .staleBatches => Duration.days 30

/-- The sweeps of the retention scheduler take their cutoff from their horizon. -/
def AtHorizon : UploadOperation × UploadInput → Prop
  | (.sweep kind cutoff _ _, input) => cutoff = input.now - kind.horizon
  | _ => True

instance (operation : UploadOperation × UploadInput) : Decidable (AtHorizon operation) := by
  obtain ⟨operation, input⟩ := operation
  induction operation using UploadOperation.casesOn <;> dsimp only [AtHorizon] <;> infer_instance

namespace UploadWorld

/-- The event is in this batch or in none, and recovery does not find it. -/
structure PlacedAt (world : UploadWorld) (eventId batchId : String) : Prop where
  unheld : world.owed.count eventId + world.carried.count eventId + world.buffered.count eventId = 0
  only : ∀ other, (eventId, other) ∈ world.placed → other = batchId
  batched : eventId ∈ world.eligibleIds → eventId ∈ world.persisted

/-- Every event of a known batch stays with it. -/
structure Settled (world : UploadWorld) : Prop where
  custodied : world.Custodied
  known : ∀ pair ∈ world.known, world.PlacedAt pair.1 pair.2

/-- The event is new, and a deleted batch that is settled or known to a running task
leaves no eligible row of its events. -/
def SparesSettled (world : UploadWorld) : UploadOperation × UploadInput → Prop
  | (.rawEvent eventId _ _ _, _) =>
    eventId ∉ world.persisted ∧ eventId ∉ world.known.map (·.1)
  | (.sweep kind cutoff limit picked, _) =>
    ∀ pair ∈ world.known, pair ∈ world.placed →
      pair ∉ (world.shared.store.sweep cutoff limit picked kind).placed → pair.1 ∉ world.eligibleIds
  | _ => True

instance (world : UploadWorld) (operation : UploadOperation × UploadInput) :
    Decidable (SparesSettled world operation) := by
  obtain ⟨operation, input⟩ := operation
  induction operation using UploadOperation.casesOn <;> dsimp only [SparesSettled] <;> infer_instance

section Moves

variable {world after : UploadWorld}

theorem Custodied.placedAt (custodied : world.Custodied) {eventId batchId : String}
    (isPlaced : (eventId, batchId) ∈ world.placed) : world.PlacedAt eventId batchId := by
  have isPersisted : eventId ∈ world.persisted := mem_map.mpr ⟨_, isPlaced, rfl⟩
  constructor
  · have isCounted := count_pos_iff.mpr isPersisted
    have once := custodied.once eventId
    omega
  · intro other alsoPlaced
    exact custodied.batch_eq alsoPlaced isPlaced
  · intro _
    exact isPersisted

theorem PlacedAt.moved {eventId batchId : String} {handed : List String}
    {fixed : List (String × String)} (placedAt : world.PlacedAt eventId batchId)
    (moved : world.Moved handed fixed after) : after.PlacedAt eventId batchId := by
  have unheld := placedAt.unheld
  have owed := moved.owed eventId
  have loose := moved.loose eventId
  have notFixed : eventId ∉ fixed.map (·.1) := count_eq_zero.mp (by omega)
  constructor
  · omega
  · intro other isPlaced
    rw [moved.placed] at isPlaced
    rcases mem_append.mp isPlaced with before | isNew
    · exact placedAt.only other before
    · exact absurd (mem_map.mpr ⟨_, isNew, rfl⟩) notFixed
  · intro eligible
    unfold UploadWorld.eligibleIds at eligible
    rw [moved.rawEvents] at eligible
    have before := placedAt.batched eligible
    change eventId ∈ after.placed.map (·.1)
    rw [moved.placed, map_append]
    exact mem_append_left _ before

theorem Settled.moved {handed : List String} {fixed : List (String × String)}
    (settled : world.Settled) (moved : world.Moved handed fixed after)
    (conforms : after.Conforms custody .fresh fun last => last.carried = none) :
    after.Settled := by
  have custodied := settled.custodied.moved moved conforms
  refine ⟨custodied, ?_⟩
  intro pair member
  rcases moved.known pair member with before | isPlaced
  · exact (settled.known pair before).moved moved
  · exact custodied.placedAt isPlaced

theorem Settled.observed {entry : RawEventEntry} (settled : world.Settled)
    (observed : world.Observed entry after) (unplaced : entry.eventId ∉ world.persisted)
    (unknown : entry.eventId ∉ world.known.map (·.1))
    (conforms : after.Conforms custody .fresh fun last => last.carried = none) :
    after.Settled := by
  refine ⟨settled.custodied.observed observed unplaced conforms, ?_⟩
  rintro ⟨eventId, batchId⟩ member
  rw [observed.known] at member
  have placedAt : world.PlacedAt eventId batchId := settled.known _ member
  have other : eventId ≠ entry.eventId := fun same =>
    unknown (same ▸ mem_map.mpr ⟨_, member, rfl⟩)
  have persisted : after.persisted = world.persisted := by
    change after.placed.map (·.1) = world.placed.map (·.1)
    rw [observed.placed]
  have noneNew : (if entry.uploadEligible then [entry.eventId] else []).count eventId = 0 := by
    split <;> simp [Ne.symm other]
  change after.PlacedAt eventId batchId
  constructor
  · have unheld := placedAt.unheld
    rw [observed.owed, observed.carried, observed.buffered, count_append]
    omega
  · intro batch isPlaced
    rw [observed.placed] at isPlaced
    exact placedAt.only batch isPlaced
  · intro eligible
    obtain ⟨row, sameId, -, rawEvents⟩ := observed.rawEvents
    unfold UploadWorld.eligibleIds at eligible
    rw [rawEvents, filter_append, map_append, mem_append] at eligible
    rw [persisted]
    rcases eligible with before | isNew
    · exact placedAt.batched before
    · obtain ⟨found, isFound, isEvent⟩ := mem_map.mp isNew
      rw [mem_singleton.mp (mem_of_mem_filter isFound), sameId] at isEvent
      exact absurd isEvent.symm other

end Moves

section Sweeps

variable {world : UploadWorld} {kind : UploadSweep} {cutoff : Int} {limit : Nat}
  {picked : List String}

def swept (world : UploadWorld) (kind : UploadSweep) (cutoff : Int) (limit : Nat)
    (picked : List String) : UploadWorld :=
  { world with
    shared := { world.shared with
      store := world.shared.store.sweep cutoff limit picked kind } }

/-- A sweep deletes rows of batches, and rows of events that recovery does not look for. -/
structure Sweeps (store after : UploadStore) : Prop where
  batches : after.batches.Sublist store.batches
  rawEvents : after.rawEvents.Sublist store.rawEvents
  spared : ∀ row ∈ store.rawEvents, store.Unbatched row → row ∈ after.rawEvents

theorem deleteSome_sublist {Row : Type} (rows : List Row) (key : Row → String)
    (selected : Row → Bool) (limit : Nat) (picked : List String) :
    (UploadStore.deleteSome rows key selected limit picked).Sublist rows :=
  filter_sublist

theorem sweeps_sweep (store : UploadStore) (kind : UploadSweep) (cutoff : Int) (limit : Nat)
    (picked : List String) : Sweeps store (store.sweep cutoff limit picked kind) := by
  cases kind with
  | expiredRawEvents =>
    refine ⟨List.Sublist.refl _, deleteSome_sublist _ _ _ _ _, ?_⟩
    intro row isRow unbatched
    refine mem_filter.mpr ⟨isRow, ?_⟩
    simp [unbatched]
  | sentBatches =>
    exact ⟨deleteSome_sublist _ _ _ _ _, List.Sublist.refl _, fun _ isRow _ => isRow⟩
  | rejectedBatches =>
    exact ⟨deleteSome_sublist _ _ _ _ _, List.Sublist.refl _, fun _ isRow _ => isRow⟩
  | staleBatches =>
    exact ⟨deleteSome_sublist _ _ _ _ _, List.Sublist.refl _, fun _ isRow _ => isRow⟩

theorem Sweeps.placed {store after : UploadStore} (sweeps : Sweeps store after) :
    after.placed.Sublist store.placed :=
  sweeps.batches.flatMap _

theorem persistedIds_eq (store : UploadStore) :
    store.persistedIds = store.batchEvents.map (·.eventId) := by
  simp [UploadStore.persistedIds, UploadStore.placed, UploadStore.batchEvents,
    map_flatMap, Function.comp_def]

theorem exists_unbatched {eventId : String} (eligible : eventId ∈ world.eligibleIds)
    (unplaced : eventId ∉ world.persisted) :
    ∃ row ∈ world.shared.store.rawEvents, row.eventId = eventId ∧
      row.uploadEligible = true ∧ world.shared.store.Unbatched row := by
  obtain ⟨row, isEligible, rfl⟩ := mem_map.mp eligible
  rw [mem_filter] at isEligible
  refine ⟨row, isEligible.1, rfl, isEligible.2, isEligible.2, ?_⟩
  rw [← persistedIds_eq]
  exact unplaced

theorem Custodied.swept (custodied : world.Custodied) :
    (world.swept kind cutoff limit picked).Custodied := by
  have sweeps := sweeps_sweep world.shared.store kind cutoff limit picked
  have persisted := sweeps.placed.map Prod.fst
  refine ⟨custodied.conforms, ?_, ?_, ?_⟩
  · intro eventId
    have once := custodied.once eventId
    have fewer : (world.swept kind cutoff limit picked).persisted.count eventId ≤
        world.persisted.count eventId := persisted.count_le eventId
    change world.owed.count eventId + world.carried.count eventId +
      world.buffered.count eventId + _ ≤ 1
    omega
  · intro eventId isHeld
    have eligible := custodied.eligible eventId isHeld
    have unplaced : eventId ∉ world.persisted := by
      intro isPersisted
      have isCounted := count_pos_iff.mpr isPersisted
      have once := custodied.once eventId
      change 0 < world.owed.count eventId + world.carried.count eventId +
        world.buffered.count eventId at isHeld
      omega
    obtain ⟨row, isRow, sameId, isEligible, unbatched⟩ := exists_unbatched eligible unplaced
    exact mem_map.mpr ⟨row, mem_filter.mpr ⟨sweeps.spared row isRow unbatched, isEligible⟩, sameId⟩
  · exact custodied.rawKeys.sublist (sweeps.rawEvents.map _)

theorem Settled.swept (settled : world.Settled) {input : UploadInput}
    (spares : world.SparesSettled (.sweep kind cutoff limit picked, input)) :
    (world.swept kind cutoff limit picked).Settled := by
  have sweeps := sweeps_sweep world.shared.store kind cutoff limit picked
  refine ⟨settled.custodied.swept, ?_⟩
  rintro ⟨eventId, batchId⟩ member
  have placedAt : world.PlacedAt eventId batchId := settled.known _ member
  constructor
  · exact placedAt.unheld
  · intro other isPlaced
    exact placedAt.only other (sweeps.placed.subset isPlaced)
  · intro eligible
    have wasEligible : eventId ∈ world.eligibleIds :=
      ((sweeps.rawEvents.filter _).map _).subset eligible
    obtain ⟨batch, isPlaced⟩ := mem_persisted.mp (placedAt.batched wasEligible)
    have isBatch := placedAt.only batch isPlaced
    subst isBatch
    by_contra deleted
    refine spares _ member isPlaced ?_ wasEligible
    intro remains
    exact deleted (mem_persisted.mpr ⟨batch, remains⟩)

end Sweeps

section Restarts

variable (config : AssemblerConfig) {world : UploadWorld}

theorem count_unbatchedEvents (store : UploadStore) (limit : Nat) (eventId : String) :
    ((store.unbatchedEvents limit).map (·.eventId)).count eventId ≤
      ((store.rawEvents.filter fun row => decide (store.Unbatched row)).map
        (·.eventId)).count eventId := by
  have sorted := perm_insertionSort
    (fun first second : RawEventBufferRow => second.occurredAt ≤ first.occurredAt)
    (store.rawEvents.filter fun row => decide (store.Unbatched row))
  rw [← (sorted.map (·.eventId)).count_eq eventId]
  unfold UploadStore.unbatchedEvents
  rw [map_map]
  exact ((take_sublist limit _).map _).count_le eventId

/-- A restart keeps the tables, and owes what recovery finds. -/
structure Restarted (world after : UploadWorld) : Prop where
  owed : ∀ eventId, after.owed.count eventId ≤
    ((world.shared.store.rawEvents.filter fun row =>
      decide (world.shared.store.Unbatched row)).map (·.eventId)).count eventId
  carried : after.carried = []
  buffered : after.buffered = []
  store : after.shared.store = world.shared.store
  known : ∀ pair ∈ after.known, pair ∈ world.known

theorem restarted_start (limit : Nat) (now : Int) (input : UploadInput) :
    let after := World.start (performUpload config) world.stopped (startup limit now) input
    after.Conforms custody .fresh (fun last => last.carried = none) ∧
      world.Restarted after := by
  intro after
  obtain ⟨resume, isCall, follows⟩ := startup_opens limit now
  obtain ⟨⟨answer, shared⟩, handled⟩ : ∃ result, performUpload config _ input
      world.stopped.shared (.unbatchedEvents limit) = some result := by
    change ∃ result, world.stopped.shared.query input _ = some result
    unfold UploadShared.query
    split
    · exact ⟨_, rfl⟩
    · exact ⟨_, rfl⟩
  have isAfter : after =
      { shared := shared
        tasks := [{ trace := [{ operation := .unbatchedEvents limit, answer := answer }]
                    program := resume answer }] } := by
    change World.start (performUpload config) world.stopped (startup limit now) input = _
    rw [isCall, World.start_call (performUpload config) handled]
    rfl
  obtain ⟨rfl, isAnswer⟩ := query_cases handled
  have stopped_conforms : world.stopped.Conforms custody .fresh
      fun last => last.carried = none := by
    intro task member
    cases member
  have carriesNone : carriedBy
      { trace := [{ operation := .unbatchedEvents limit, answer := answer }]
        program := resume answer } = [] := by
    unfold carriedBy
    split
    · rfl
    · rcases isAnswer with ⟨error, rfl⟩ | rfl
      · rfl
      · rfl
  have knowsNone : knownBy
      { trace := [{ operation := .unbatchedEvents limit, answer := answer }]
        program := resume answer } = [] := by
    unfold knownBy
    split
    · rfl
    · rcases isAnswer with ⟨error, rfl⟩ | rfl
      · rfl
      · rfl
  rw [isAfter]
  refine ⟨conforms_added world.stopped.shared stopped_conforms (follows answer), ?_, ?_, rfl,
    rfl, ?_⟩
  · intro eventId
    rcases isAnswer with ⟨error, rfl⟩ | rfl
    · exact Nat.zero_le _
    · have owes : (custodyOf
          { trace := [{ operation := .unbatchedEvents limit
                        answer := .ok (world.stopped.shared.store.unbatchedEvents limit) }]
            program := resume (.ok (world.stopped.shared.store.unbatchedEvents limit)) }).owed =
          (world.shared.store.unbatchedEvents limit).map (·.eventId) := rfl
      have counts := count_unbatchedEvents world.shared.store limit eventId
      simpa [UploadWorld.owed, owes] using counts
  · simp [UploadWorld.carried, carriesNone]
  · intro pair member
    simp only [UploadWorld.known, knowsNone, flatMap_singleton, append_nil] at member
    exact mem_append_left _ member

/-- A restart leaves the settled events where they are. -/
theorem Settled.restarted {after : UploadWorld} (settled : world.Settled)
    (restarted : world.Restarted after)
    (conforms : after.Conforms custody .fresh fun last => last.carried = none) :
    after.Settled := by
  have persisted : after.persisted = world.persisted := by
    change after.shared.store.persistedIds = world.shared.store.persistedIds
    rw [restarted.store]
  have eligibleIds : after.eligibleIds = world.eligibleIds := by
    unfold UploadWorld.eligibleIds
    rw [restarted.store]
  have unbatched (eventId : String) (isOwed : 0 < after.owed.count eventId) :
      eventId ∈ world.eligibleIds ∧ eventId ∉ world.persisted := by
    have counts := restarted.owed eventId
    obtain ⟨row, isUnbatched, rfl⟩ := mem_map.mp (count_pos_iff.mp
      (Nat.lt_of_lt_of_le isOwed counts))
    obtain ⟨isRow, unbatched⟩ := mem_filter.mp isUnbatched
    obtain ⟨isEligible, unplaced⟩ := of_decide_eq_true unbatched
    refine ⟨mem_map.mpr ⟨row, mem_filter.mpr ⟨isRow, isEligible⟩, rfl⟩, ?_⟩
    rw [← persistedIds_eq] at unplaced
    exact unplaced
  refine ⟨⟨conforms, ?_, ?_, ?_⟩, ?_⟩
  · intro eventId
    rw [restarted.carried, restarted.buffered, persisted, count_nil]
    have atMost : after.owed.count eventId ≤ 1 := by
      refine Nat.le_trans (restarted.owed eventId) ?_
      exact nodup_iff_count_le_one.mp
        (settled.custodied.rawKeys.sublist (filter_sublist.map _)) eventId
    have once := settled.custodied.once eventId
    by_cases isOwed : 0 < after.owed.count eventId
    · have noneOf := count_eq_zero.mpr (unbatched eventId isOwed).2
      omega
    · omega
  · intro eventId isHeld
    rw [restarted.carried, restarted.buffered, count_nil] at isHeld
    rw [eligibleIds]
    exact (unbatched eventId (by omega)).1
  · rw [restarted.store]
    exact settled.custodied.rawKeys
  · rintro ⟨eventId, batchId⟩ member
    have placedAt : world.PlacedAt eventId batchId :=
      settled.known _ (restarted.known _ member)
    change after.PlacedAt eventId batchId
    constructor
    · rw [restarted.carried, restarted.buffered, count_nil]
      by_contra isOwed
      obtain ⟨eligible, unplaced⟩ := unbatched eventId (by omega)
      exact unplaced (placedAt.batched eligible)
    · intro other isPlaced
      unfold UploadWorld.placed at isPlaced
      rw [restarted.store] at isPlaced
      exact placedAt.only other isPlaced
    · rw [persisted, eligibleIds]
      exact placedAt.batched

end Restarts

theorem Settled.next {config : AssemblerConfig} {world : UploadWorld} (settled : world.Settled)
    {operation : UploadOperation × UploadInput} (spares : world.SparesSettled operation) :
    ((uploadMachine config).next world operation).Settled := by
  obtain ⟨operation, input⟩ := operation
  change (world.next config operation input).Settled
  have conforms := settled.custodied.conforms
  have stepped := world.next_stepped config operation input
  generalize world.next config operation input = after at stepped ⊢
  cases stepped with
  | refused => exact settled
  | swept serving => exact settled.swept spares
  | restarted =>
    obtain ⟨later, restarted⟩ := restarted_start config _ _ input
    exact settled.restarted restarted later
  | advanced =>
    obtain ⟨handed, fixed, moved⟩ := moved_advance config conforms _ input
    exact settled.moved moved (conforms.advance (performUpload config) custody
      (custody_gives config) trivial _ input)
  | @began operation input waits program begins admitted =>
    rcases begun_empty begins with follows |
      ⟨eventId, event, durationSeconds, uploadEligible, rfl, opens⟩
    · obtain ⟨handed, fixed, moved⟩ := moved_start config conforms follows input
      exact settled.moved moved (conforms.start (performUpload config) custody
        (custody_gives config) trivial follows input)
    · obtain ⟨later, moved | observed⟩ := observed_start config opens conforms input
      · exact settled.moved moved later
      · exact settled.observed observed spares.1 spares.2 later

theorem settled_opened : opened.Settled := by
  refine ⟨conserved_opened.custodied, ?_⟩
  intro pair member
  cases member

end UploadWorld

open UploadWorld

/-- Wherever no sweep takes a settled batch away before the rows of its events, an event of
a batch that the server has taken in or turned down is in no other batch, and not on its
way to one. -/
theorem settled_events_stay_in_batch (config : AssemblerConfig)
    (operations : List (UploadOperation × UploadInput))
    (spares : (uploadMachine config).Meets SparesSettled opened operations) :
    let world := (uploadMachine config).run opened operations
    ∀ answer ∈ world.shared.answered, SettlesBatch answer.2 = true →
      ∀ eventId ∈ answer.1.eventIds, ∀ place, world.Has place eventId →
        place = .persisted answer.1.batchId := by
  intro world answer isAnswer settles eventId isEvent place has
  have settled : world.Settled :=
    (uploadMachine config).invariant_run (fun _ _ settled spares => settled.next spares)
      settled_opened spares
  have isKnown : (eventId, answer.1.batchId) ∈ world.known := by
    refine mem_append_left _ (mem_flatMap.mpr ⟨answer, isAnswer, ?_⟩)
    rw [if_pos settles]
    exact mem_map_of_mem isEvent
  have placedAt : world.PlacedAt eventId answer.1.batchId := settled.known _ isKnown
  have unheld := placedAt.unheld
  cases place with
  | buffer =>
    have isCounted := count_pos_iff.mpr (show eventId ∈ world.buffered from has)
    omega
  | taken task =>
    have isCounted := count_pos_iff.mpr (mem_carried.mpr ⟨task, has⟩)
    omega
  | persisted batchId => rw [placedAt.only batchId has]

/-- The digests are those of the batch of the first event, and of both events. -/
def pairUploadConfig : AssemblerConfig where
  sha256Hex bytes :=
    if bytes.length = 52 then
      "721f58759daf7a567e9ef71b7d9b87e88119f0a2963661feaa9258b713829ec8"
    else
      "28ce2f4952e53c0d875d36aa5b42b652f683e970f7e3dc284d5263685ca67588"
  serviceVersion := "0.1.0"
  deviceId := "device-1"
  countThreshold := 2
  ageThreshold := 600

def secondsOfDays (count : Int) : Int := count * 86400

def answeredSample (outcome : UploadOutcome) : List (UploadOperation × UploadInput) :=
  let input := sampleInput 1 (.ok outcome)
  let due := sampleInput 700 (.ok outcome)
  (.rawEvent "event-1" sampleAbstractedEvent 30 true, input) :: sampleSteps 2 0 input ++
    (.flushDue due.now, due) :: sampleSteps 6 1 due

/-- The raw rows go before the batch, and the process starts again. -/
def keptSample : List (UploadOperation × UploadInput) :=
  let swept := sampleInput (secondsOfDays 15) (.ok .accepted)
  answeredSample .accepted ++
    [(.sweep .expiredRawEvents (swept.now - UploadSweep.expiredRawEvents.horizon) 100
        ["event-1"], swept),
      (.restart 100 swept.now, swept)]

/-- The raw row of an accepted event is swept, and the restart leaves the event alone. -/
theorem settled_events_stay_in_batch_after_restart :
    (uploadMachine pairUploadConfig).Meets SparesSettled opened keptSample ∧
      ¬ ((uploadMachine pairUploadConfig).run opened keptSample).Has .buffer "event-1" := by
  have spares : (uploadMachine pairUploadConfig).Meets SparesSettled opened keptSample := by
    decide +kernel
  have isAnswer : (BatchPayload.new sampleBatchId "1" "0.1.0" [] "1"
      [BatchEventPayload.fromAbstracted "event-1" sampleAbstractedEvent 30],
        (.ok .accepted : Except BatchUploadError UploadOutcome)) ∈
      ((uploadMachine pairUploadConfig).run opened keptSample).shared.answered := by
    decide +kernel
  refine ⟨spares, fun isBuffered => ?_⟩
  have inBatch := settled_events_stay_in_batch pairUploadConfig keptSample spares _ isAnswer rfl
    "event-1" mem_cons_self .buffer isBuffered
  cases inBatch

/-- The rejected batch is deleted after seven days, while the row of its event stays for
fourteen; another event follows, and the process starts again. -/
def requeuedAfterRejection : List (UploadOperation × UploadInput) :=
  let later := sampleInput (secondsOfDays 8) (.ok .accepted)
  let laterEvent := { sampleAbstractedEvent with occurredAt := later.now }
  answeredSample (.rawFieldRejected "raw") ++
    ((.rawEvent "event-2" laterEvent 30 true, later) :: sampleSteps 2 2 later) ++
    [(.sweep .rejectedBatches (later.now - UploadSweep.rejectedBatches.horizon) 100
        [sampleBatchId], later),
      (.restart 100 later.now, later)] ++
    sampleSteps 3 0 later

/-- An event of a rejected batch is in another batch after the sweep and the restart. -/
theorem rejected_event_placed_again :
    (∀ operation ∈ requeuedAfterRejection, AtHorizon operation) ∧
      ∃ answer ∈ ((uploadMachine pairUploadConfig).run opened
          requeuedAfterRejection).shared.answered,
        answer.2 = .ok (.rawFieldRejected "raw") ∧
          "event-1" ∈ answer.1.eventIds ∧
            ∃ row ∈ ((uploadMachine pairUploadConfig).run opened requeuedAfterRejection).rows,
              "event-1" ∈ row.events.map (·.eventId) ∧ row.batchId ≠ answer.1.batchId := by
  decide +kernel

end Velvt
