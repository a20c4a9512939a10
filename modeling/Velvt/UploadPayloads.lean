import Velvt.Instants

/-!
# Upload payloads and the batch assembler

The payloads of the upload path and the in-memory assembler that groups events into
batches.  `sha256Hex` stands for the hex digest of a list of bytes, and `serviceVersion`
for the version the build was given.
-/

namespace Velvt

open List

/-- One abstracted event, as far as the upload path reads it. -/
structure AbstractedEvent where
  stableId : String
  label : String
  category : String
  taxonomyVersion : String
  classificationTier : String
  occurredAt : Int

structure BatchEventPayload where
  eventId : String
  stableId : String
  label : String
  category : String
  taxonomyVersion : String
  classificationTier : String
  occurredAt : Int
  durationSeconds : Nat
  deriving DecidableEq

def BatchEventPayload.fromAbstracted (eventId : String) (event : AbstractedEvent)
    (durationSeconds : Nat) : BatchEventPayload where
  eventId := eventId
  stableId := event.stableId
  label := event.label
  category := event.category
  taxonomyVersion := event.taxonomyVersion
  classificationTier := event.classificationTier
  occurredAt := event.occurredAt
  durationSeconds := durationSeconds

structure BatchPayload where
  batchId : String
  schemaVersion : String
  clientVersion : String
  supportedAbstractionTypes : List String
  categoryTaxonomyVersion : String
  events : List BatchEventPayload
  deriving DecidableEq

def cloudAbstractionType (category : String) : String :=
  match category with
  | "FOCUS_WORK" => "document:inferred"
  | "PASSIVE_CONSUMPTION" => "video:inferred"
  | "SOCIAL_FEED" => "social:inferred"
  | "COMMUNICATION" => "communication:inferred"
  | "TASK_MANAGEMENT" => "task:inferred"
  | "REFERENCE" => "reference:inferred"
  | "SYSTEM" => "system:inferred"
  | "UNLOGGED" => "unlogged"
  | _ => "system:unknown"

def pushUnique (values : List String) (value : String) : List String :=
  if values.contains value then values else values ++ [value]

/-- `BatchPayload::new`, which derives the supported types from the events. -/
def BatchPayload.new (batchId schemaVersion clientVersion : String)
    (_supportedAbstractionTypes : List String) (categoryTaxonomyVersion : String)
    (events : List BatchEventPayload) : BatchPayload where
  batchId := batchId
  schemaVersion := schemaVersion
  clientVersion := clientVersion
  supportedAbstractionTypes :=
    events.foldl (fun types event => pushUnique types (cloudAbstractionType event.category)) []
  categoryTaxonomyVersion := categoryTaxonomyVersion
  events := events

def uniqueAbstractionTypes (events : List BatchEventPayload) : List String :=
  events.foldl (fun types event => pushUnique types event.label) []

def toBeBytes (number : Nat) : List UInt8 :=
  (List.range 8).map fun index => UInt8.ofNat (number / 256 ^ (7 - index))

def asBytes (text : String) : List UInt8 :=
  text.toList.flatMap String.utf8EncodeChar

/-- The identity of a batch: a digest over the device and the events, in order. -/
def deterministicBatchId (sha256Hex : List UInt8 → String) (deviceId : String)
    (events : List BatchEventPayload) : String :=
  sha256Hex (asBytes "velvt:upload-batch:v1" ++
    toBeBytes (asBytes deviceId).length ++ asBytes deviceId ++
    events.flatMap fun event =>
      toBeBytes (asBytes event.eventId).length ++ asBytes event.eventId)

/-- What the assembler is built with. -/
structure AssemblerConfig where
  sha256Hex : List UInt8 → String
  serviceVersion : String
  deviceId : String
  countThreshold : Nat
  /-- In whole seconds. -/
  ageThreshold : Nat

/-- The open batch. -/
structure BatchAssembler where
  openedAt : Option Int
  events : List BatchEventPayload

namespace BatchAssembler

def empty : BatchAssembler where
  openedAt := none
  events := []

variable (config : AssemblerConfig) (assembler : BatchAssembler)

def takeBatch : Option BatchPayload × BatchAssembler :=
  match assembler.events.head? with
  | none => (none, assembler)
  | some first =>
    let taxonomy := first.taxonomyVersion
    let (events, remainder) :=
      assembler.events.partition fun event => event.taxonomyVersion == taxonomy
    (some (BatchPayload.new (deterministicBatchId config.sha256Hex config.deviceId events) "1"
        config.serviceVersion (uniqueAbstractionTypes events) taxonomy events),
      { openedAt := if remainder.isEmpty then none else assembler.openedAt
        events := remainder })

/-- Buffers an event.  A taxonomy upgrade closes the open batch, and so does its length. -/
def push (event : BatchEventPayload) (now : Int) : Option BatchPayload × BatchAssembler :=
  if assembler.events.head?.any fun first =>
      first.taxonomyVersion != event.taxonomyVersion then
    let (closed, rest) := assembler.takeBatch config
    (closed, { openedAt := some (rest.openedAt.getD now), events := rest.events ++ [event] })
  else
    let pushed : BatchAssembler :=
      { openedAt := some (assembler.openedAt.getD now), events := assembler.events ++ [event] }
    if config.countThreshold ≤ pushed.events.length then
      pushed.takeBatch config
    else
      (none, pushed)

def flushDue (now : Int) : Option BatchPayload × BatchAssembler :=
  match assembler.openedAt with
  | none => (none, assembler)
  | some openedAt =>
    if config.ageThreshold ≤ numSeconds (now - openedAt) then
      assembler.takeBatch config
    else
      (none, assembler)

def flushShutdown : Option BatchPayload × BatchAssembler :=
  assembler.takeBatch config

def requeue (batch : BatchPayload) : BatchAssembler :=
  if batch.events.isEmpty then
    assembler
  else
    { openedAt :=
        match assembler.openedAt, (batch.events.map (·.occurredAt)).min? with
        | some current, some reopened => some (min current reopened)
        | current, reopened => current.or reopened
      events := batch.events ++ assembler.events }

end BatchAssembler

def BatchPayload.eventIds (batch : BatchPayload) : List String :=
  batch.events.map (·.eventId)

namespace BatchAssembler

def eventIds (assembler : BatchAssembler) : List String :=
  assembler.events.map (·.eventId)

/-- The events that a section under the lock leaves, in the batch and in the buffer. -/
def resultIds (result : Option BatchPayload × BatchAssembler) : List String :=
  result.1.toList.flatMap (·.eventIds) ++ result.2.eventIds

variable (config : AssemblerConfig) (assembler : BatchAssembler)

theorem takeBatch_perm : (resultIds (assembler.takeBatch config)).Perm assembler.eventIds := by
  unfold takeBatch
  split
  · exact List.Perm.refl _
  next first isFirst =>
    have parts := filter_append_perm
      (fun event : BatchEventPayload => event.taxonomyVersion == first.taxonomyVersion)
      assembler.events
    have ids := parts.map (·.eventId)
    rw [map_append] at ids
    simp only [resultIds, eventIds, BatchPayload.eventIds, BatchPayload.new,
      partition_eq_filter_filter, Option.toList_some, flatMap_singleton]
    exact ids

theorem push_perm (event : BatchEventPayload) (now : Int) :
    (resultIds (assembler.push config event now)).Perm (assembler.eventIds ++ [event.eventId]) := by
  unfold push
  split
  · have taken := takeBatch_perm config assembler
    simp only [resultIds, eventIds, map_append, map_cons, map_nil, ← append_assoc] at taken ⊢
    exact taken.append_right _
  · dsimp only
    split
    · simpa [eventIds] using takeBatch_perm config
        { openedAt := some (assembler.openedAt.getD now), events := assembler.events ++ [event] }
    · simp [resultIds, eventIds]

theorem flushDue_perm (now : Int) :
    (resultIds (assembler.flushDue config now)).Perm assembler.eventIds := by
  unfold flushDue
  split
  · exact List.Perm.refl _
  · split
    · exact takeBatch_perm config assembler
    · exact List.Perm.refl _

theorem requeue_eventIds (batch : BatchPayload) :
    (assembler.requeue batch).eventIds = batch.eventIds ++ assembler.eventIds := by
  unfold requeue
  split
  next isEmpty =>
    simp [BatchPayload.eventIds, isEmpty_iff.mp isEmpty]
  · simp [eventIds, BatchPayload.eventIds]

end BatchAssembler

end Velvt
