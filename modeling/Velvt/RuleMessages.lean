import Velvt.RuleEngine
import Velvt.StepMachine

/-!
# Requests that read or write rules

The router's handlers for raw events, corrections, edits, teachings, removals and resets, and
the sweeps that age the tables out.  A request is handled as one step: each call on the store
is a transaction of its own, which commits or fails and leaves the tables as they are.
-/

namespace Velvt.Rules

inductive RawEventStatus
  | accepted
  | dropped
  deriving DecidableEq

/-- `ServerMessage`, as far as these requests are answered with one. -/
inductive ServerMessage
  | errorResponse (code message : String) (relatedEventId : Option String)
  | menuStatus
  | rawEventAck (eventId : String) (status : RawEventStatus) (dropReason : Option String)
  | nothing
  deriving DecidableEq

def classificationCorrectionError (code : String) : ServerMessage :=
  .errorResponse code "Unable to save this classification. Try again later." none

/-- `CorrectEventClassification`. -/
structure EventCorrection where
  eventId : String
  stableId : String
  category : String
  localActivityName : Option String

/-- `UpdateClassificationOverride`. -/
structure OverrideUpdate where
  stableId : String
  category : String
  localActivityName : Option String

/-- `SetApplicationCategory`, and `SetSiteCategory` for a site key. -/
structure CategoryTeaching where
  keyHash : String
  category : String
  activityName : Option String

/-- The tables with a retention sweep that the rules depend on. -/
inductive RetentionTarget
  | rawEventBuffer
  | abstractionMap
  | localSiteName
  | semanticEmbeddingCache

/-- One pass of a sweep. -/
structure RetentionSweep where
  target : RetentionTarget
  cutoff : Int
  batchSize : Nat
  picked : List String

inductive Request
  | rawEvent (event : RawEvent) (perception : Perception) (uploadEligible hasActiveBlock : Bool)
  | correctEventClassification (correction : EventCorrection)
  | updateClassificationOverride (update : OverrideUpdate)
  | setApplicationCategory (teaching : CategoryTeaching)
  | setSiteCategory (teaching : CategoryTeaching)
  | removeClassificationOverride (stableId : String)
  | resetClassificationOverrides
  | sweep (pass : RetentionSweep)
  /-- The upload path rewrites its queue. -/
  | queueBatchEvents (batchEvent : List BatchEventRow)
  | restart

structure Call where
  moment : Moment
  request : Request

/-- The router of one install, with the parts it was built with. -/
structure Router where
  engine : AbstractionEngine
  fingerprint : RawEvent → UInt64
  hasAbstractionMap : Bool
  hasUploadBatches : Bool
  hasCorrectionHttp : Bool

/-- What the service holds: the store, and the dwells reported in progress. -/
structure Service where
  tables : Tables
  inProgressDwells : List (UInt64 × AbstractedEvent)

def Service.started : Service where
  tables := Tables.empty
  inProgressDwells := []

section Transactions

variable {Value Other : Type}

/-- One call on the store: it commits, or fails and changes nothing. -/
def attempt (fails : Bool) (change : Tables → Except PersistenceError (Value × Tables))
    (tables : Tables) : Except PersistenceError Value × Tables :=
  if fails then (.error .storage, tables)
  else
    match change tables with
    | .ok (value, changed) => (.ok value, changed)
    | .error error => (.error error, tables)

def andThen (first : Except PersistenceError Value × Tables)
    (next : Value → Tables → Except PersistenceError Other × Tables) :
    Except PersistenceError Other × Tables :=
  match first with
  | (.ok value, tables) => next value tables
  | (.error error, tables) => (.error error, tables)

def write (change : Tables → Except PersistenceError Tables) (tables : Tables) :
    Except PersistenceError (Unit × Tables) :=
  (change tables).map fun changed => ((), changed)

def correctionAnswer (outcome : Except PersistenceError Value × Tables) :
    ServerMessage × Tables :=
  match outcome with
  | (.ok _, tables) => (.menuStatus, tables)
  | (.error _, tables) =>
    (classificationCorrectionError "classification_correction_persistence_failed", tables)

end Transactions

/-- A typed name is trimmed, and refused when nothing is left, when it is long, or when it
holds a control character. -/
def normalizedLocalActivityName (value : Option String) : Except Unit (Option String) :=
  match value with
  | none => .ok none
  | some value =>
    let trimmed := trimText value
    if trimmed.isEmpty || 48 < trimmed.length || trimmed.toList.any isControl then
      .error ()
    else
      .ok (some trimmed)

/-- The writes of a correction after the application rung: the window rule, the event and the
queued event. -/
def saveCorrection (moment : Moment) (correction : EventCorrection) (label : String)
    (name : Option String) (tables : Tables) : Except PersistenceError Unit × Tables :=
  andThen (andThen
    (attempt (moment.fails .savePersonalOverride)
      (write fun current =>
        current.savePersonalOverride correction.stableId correction.category name moment.now)
      tables)
    fun _ => attempt (moment.fails .updateClassification) (write fun current =>
      .ok (current.updateClassification correction.eventId label correction.category name)))
    fun _ => attempt (moment.fails .updateEventClassification) (write fun current =>
      .ok (current.updateEventClassification correction.eventId label correction.category))

/-- Generalizes a correction to every window of the application, best effort. -/
def generalizeCorrection (moment : Moment) (correction : EventCorrection)
    (name : Option String) (tables : Tables) : Tables :=
  (attempt (moment.fails .savePersonalAppOverride) (fun current =>
    .ok (current.savePersonalAppOverride correction.eventId correction.category name
      moment.now)) tables).2

def correctEventClassification (router : Router) (moment : Moment)
    (correction : EventCorrection) (tables : Tables) : ServerMessage × Tables :=
  match overrideLabelForCategory correction.category with
  | none => (classificationCorrectionError "invalid_classification_category", tables)
  | some label =>
    if !(router.hasAbstractionMap && router.hasUploadBatches && router.hasCorrectionHttp) then
      (classificationCorrectionError "classification_correction_unavailable", tables)
    else
      match normalizedLocalActivityName correction.localActivityName with
      | .error _ => (classificationCorrectionError "invalid_local_activity_name", tables)
      | .ok name =>
        correctionAnswer (saveCorrection moment correction label name
          (generalizeCorrection moment correction name tables))

/-- Moves the application rung with an edited window rule, best effort. -/
def generalizeUpdate (moment : Moment) (update : OverrideUpdate) (name : Option String)
    (tables : Tables) : Tables :=
  (attempt (moment.fails .savePersonalAppOverride) (fun current =>
    .ok (current.savePersonalAppOverrideByStableId update.stableId update.category name
      moment.now)) tables).2

def editingAppRule (moment : Moment) (stableId : String) (tables : Tables) : Bool :=
  !moment.fails .appScopeOverride && (tables.appScopeOverride stableId).isSome

def editingSiteRule (moment : Moment) (stableId : String) (tables : Tables) : Bool :=
  !editingAppRule moment stableId tables && !moment.fails .siteScopeOverride &&
    (tables.siteScopeOverride stableId).isSome

def updateClassificationOverride (router : Router) (moment : Moment) (update : OverrideUpdate)
    (tables : Tables) : ServerMessage × Tables :=
  if (overrideLabelForCategory update.category).isNone then
    (classificationCorrectionError "invalid_classification_category", tables)
  else if !router.hasAbstractionMap then
    (classificationCorrectionError "classification_correction_unavailable", tables)
  else
    match normalizedLocalActivityName update.localActivityName with
    | .error _ => (classificationCorrectionError "invalid_local_activity_name", tables)
    | .ok name =>
      if editingSiteRule moment update.stableId tables then
        correctionAnswer (attempt (moment.fails .editSiteScopeOverride) (write fun current =>
          .ok (current.editSiteScopeOverride update.stableId update.category name moment.now))
          tables)
      else if editingAppRule moment update.stableId tables then
        correctionAnswer (attempt (moment.fails .saveAppScopeOverride) (write fun current =>
          current.saveAppScopeOverride update.stableId none update.category name moment.now)
          tables)
      else
        correctionAnswer (attempt (moment.fails .savePersonalOverride) (write fun current =>
          current.savePersonalOverride update.stableId update.category name moment.now)
          (generalizeUpdate moment update name tables))

def setApplicationCategory (router : Router) (moment : Moment) (teaching : CategoryTeaching)
    (tables : Tables) : ServerMessage × Tables :=
  if (overrideLabelForCategory teaching.category).isNone then
    (classificationCorrectionError "invalid_classification_category", tables)
  else if !router.hasAbstractionMap then
    (classificationCorrectionError "classification_correction_unavailable", tables)
  else
    match normalizedAppStableId teaching.keyHash with
    | none => (classificationCorrectionError "invalid_app_stable_id", tables)
    | some appStableId =>
      match normalizedLocalActivityName teaching.activityName with
      | .error _ => (classificationCorrectionError "invalid_local_activity_name", tables)
      | .ok name =>
        let bundle :=
          if moment.fails .unclassifiedAppBundleKey then none
          else tables.unclassifiedAppBundleKey appStableId
        correctionAnswer (attempt (moment.fails .saveAppScopeOverride) (write fun current =>
          current.saveAppScopeOverride appStableId bundle teaching.category name moment.now)
          tables)

def setSiteCategory (router : Router) (moment : Moment) (teaching : CategoryTeaching)
    (tables : Tables) : ServerMessage × Tables :=
  if (overrideLabelForCategory teaching.category).isNone then
    (classificationCorrectionError "invalid_classification_category", tables)
  else if !router.hasAbstractionMap then
    (classificationCorrectionError "classification_correction_unavailable", tables)
  else
    match normalizedAppStableId teaching.keyHash with
    | none => (classificationCorrectionError "invalid_site_stable_id", tables)
    | some siteStableId =>
      match normalizedLocalActivityName teaching.activityName with
      | .error _ => (classificationCorrectionError "invalid_local_activity_name", tables)
      | .ok name =>
        correctionAnswer (attempt (moment.fails .saveSiteScopeOverride) (write fun current =>
          .ok (current.saveSiteScopeOverride siteStableId teaching.category name moment.now))
          tables)

/-- The next rung of a removal, where the ones before removed nothing. -/
def orRemove (moment : Moment) (call : StoreCall) (remove : Tables → Bool × Tables)
    (removed : Bool) (tables : Tables) : Except PersistenceError Bool × Tables :=
  if removed then (.ok true, tables)
  else attempt (moment.fails call) (fun current => .ok (remove current)) tables

def removeRule (moment : Moment) (stableId : String) (tables : Tables) :
    Except PersistenceError Bool × Tables :=
  andThen (andThen
    (orRemove moment .removePersonalOverride (·.removePersonalOverride stableId) false tables)
    (orRemove moment .removeAppScopeOverride (·.removeAppScopeOverride stableId)))
    (orRemove moment .removeSiteScopeOverride (·.removeSiteScopeOverride stableId))

def removeClassificationOverride (router : Router) (moment : Moment) (stableId : String)
    (tables : Tables) : ServerMessage × Tables :=
  if !router.hasAbstractionMap then
    (classificationCorrectionError "classification_correction_unavailable", tables)
  else
    correctionAnswer (removeRule moment stableId tables)

def resetClassificationOverrides (router : Router) (moment : Moment) (tables : Tables) :
    ServerMessage × Tables :=
  if !router.hasAbstractionMap then
    (classificationCorrectionError "classification_correction_unavailable", tables)
  else
    correctionAnswer (attempt (moment.fails .resetPersonalOverrides)
      (write fun current => .ok current.resetPersonalOverrides) tables)

def sweep (moment : Moment) (pass : RetentionSweep) (tables : Tables) : Tables :=
  if moment.fails .sweep then tables
  else
    match pass.target with
    | .rawEventBuffer => tables.deleteExpiredBatch pass.cutoff pass.batchSize pass.picked
    | .abstractionMap => tables.deleteExpiredMappings pass.cutoff pass.batchSize pass.picked
    | .localSiteName => tables.deleteExpiredSiteNames pass.cutoff pass.batchSize pass.picked
    | .semanticEmbeddingCache =>
      tables.deleteExpiredSemanticEmbeddings pass.cutoff pass.batchSize pass.picked

section RawEvents

def inProgressDwellCapacity : Nat := 32

/-- Clears a declaration of document types that breaks its published bounds. -/
def clearDeclaredMetadataBeyondBounds (event : RawEvent) : RawEvent :=
  if 256 < event.documentTypeIds.length ∨
      ∃ identifier ∈ event.documentTypeIds, identifier = "" ∨ 64 < identifier.utf8ByteSize then
    { event with documentTypeIds := [] }
  else
    event

def declaredBundle (engine : AbstractionEngine) (event : RawEvent) : Option String :=
  (event.bundleId.filter fun bundle => !(trimText bundle).isEmpty).map engine.appBundleKey

def rawEventRow (engine : AbstractionEngine) (moment : Moment) (event : RawEvent)
    (abstracted : AbstractedEvent) (uploadEligible : Bool) : RawEventRow where
  eventId := event.eventId
  stableId := abstracted.stableId
  label := abstracted.label
  localDisplayLabel := abstracted.localDisplayLabel
  localNameSuggestion := abstracted.localNameSuggestion
  category := abstracted.category
  classificationTier := abstracted.classificationTier
  classificationStatus := abstracted.classificationStatus
  classificationConfidence := abstracted.classificationConfidence
  classificationSource := abstracted.classificationSource
  occurredAt := timestamp event.occurredAt
  durationSeconds := min event.durationSeconds (30 * 60)
  uploadEligible := uploadEligible
  appStableId := some abstracted.appStableId
  appScopeEligible := abstracted.appScopeEligible
  appBundleStableId := declaredBundle engine event
  siteStableId := abstracted.siteStableId
  createdAt := timestamp moment.now

def remember (fingerprint : UInt64) (abstracted : AbstractedEvent)
    (dwells : List (UInt64 × AbstractedEvent)) : List (UInt64 × AbstractedEvent) :=
  let others := dwells.filter fun dwell => dwell.1 != fingerprint
  (if inProgressDwellCapacity ≤ others.length then others.tail else others) ++
    [(fingerprint, abstracted)]

variable (router : Router) (moment : Moment)

def recordSiteName (row : RawEventRow) (abstracted : AbstractedEvent) (tables : Tables) :
    Tables :=
  match abstracted.localSiteName with
  | some host =>
    (attempt (moment.fails .recordLocalSiteName) (fun current =>
      .ok (current.recordLocalSiteName row.eventId host moment.now)) tables).2
  | none => tables

def storeRawEvent (event : RawEvent) (abstracted : AbstractedEvent) (uploadEligible : Bool)
    (tables : Tables) : ServerMessage × Tables :=
  let row := rawEventRow router.engine moment event abstracted uploadEligible
  match attempt (moment.fails .insertRawEvent) (write (·.insertRawEvent row)) tables with
  | (.error _, failed) =>
    (.rawEventAck event.eventId .dropped (some "persistence_failed"), failed)
  | (.ok _, inserted) =>
    (.rawEventAck event.eventId .accepted none, recordSiteName moment row abstracted inserted)

def observeDwellInProgress (event : RawEvent) (perception : Perception)
    (hasActiveBlock : Bool) (service : Service) : ServerMessage × Service :=
  if !hasActiveBlock then (.rawEventAck event.eventId .accepted none, service)
  else
    match router.engine.process moment event perception service.tables with
    | (.ok abstracted, processed) =>
      (.rawEventAck event.eventId .accepted none,
        { tables := processed
          inProgressDwells :=
            remember (router.fingerprint event) abstracted service.inProgressDwells })
    | (.error _, processed) =>
      (.rawEventAck event.eventId .dropped (some "abstraction_failed"),
        { service with tables := processed })

def observeClosedDwell (event : RawEvent) (perception : Perception) (uploadEligible : Bool)
    (service : Service) : ServerMessage × Service :=
  match service.inProgressDwells.find? fun dwell => dwell.1 == router.fingerprint event with
  | some dwell =>
    let (answer, stored) :=
      storeRawEvent router moment event dwell.2 uploadEligible service.tables
    (answer,
      { tables := stored
        inProgressDwells := service.inProgressDwells.eraseP fun other =>
          other.1 == router.fingerprint event })
  | none =>
    match router.engine.process moment event perception service.tables with
    | (.ok abstracted, processed) =>
      let (answer, stored) :=
        storeRawEvent router moment event abstracted uploadEligible processed
      (answer, { service with tables := stored })
    | (.error _, processed) =>
      (.rawEventAck event.eventId .dropped (some "abstraction_failed"),
        { service with tables := processed })

def handleRawEvent (event : RawEvent) (perception : Perception)
    (uploadEligible hasActiveBlock : Bool) (service : Service) : ServerMessage × Service :=
  let event := clearDeclaredMetadataBeyondBounds event
  if event.inProgress then
    observeDwellInProgress router moment event perception hasActiveBlock service
  else
    observeClosedDwell router moment event perception uploadEligible service

end RawEvents

def Service.withTables (service : Service) (handler : Tables → ServerMessage × Tables) :
    ServerMessage × Service :=
  ((handler service.tables).1, { service with tables := (handler service.tables).2 })

def handle (router : Router) (service : Service) (call : Call) : ServerMessage × Service :=
  match call.request with
  | .rawEvent event perception uploadEligible hasActiveBlock =>
    handleRawEvent router call.moment event perception uploadEligible hasActiveBlock service
  | .correctEventClassification correction =>
    service.withTables (correctEventClassification router call.moment correction)
  | .updateClassificationOverride update =>
    service.withTables (updateClassificationOverride router call.moment update)
  | .setApplicationCategory teaching =>
    service.withTables (setApplicationCategory router call.moment teaching)
  | .setSiteCategory teaching =>
    service.withTables (setSiteCategory router call.moment teaching)
  | .removeClassificationOverride stableId =>
    service.withTables (removeClassificationOverride router call.moment stableId)
  | .resetClassificationOverrides =>
    service.withTables (resetClassificationOverrides router call.moment)
  | .sweep pass => service.withTables fun tables => (.nothing, sweep call.moment pass tables)
  | .queueBatchEvents batchEvent =>
    service.withTables fun tables => (.nothing, { tables with batchEvent := batchEvent })
  | .restart => (.nothing, { service with inProgressDwells := [] })

def Router.machine (router : Router) : StepMachine.Machine Service Call ServerMessage where
  step := handle router

def checksum (message : List UInt8) : List UInt8 :=
  let total := message.foldl (fun total byte => total * 257 + byte.toNat + 1) 0
  (List.range 32).map fun place => UInt8.ofNat (total / 256 ^ place)

def workingRouter : Router where
  engine := { sha256 := checksum, salt := [] }
  fingerprint := fun event => UInt64.ofNat event.windowTitle.length
  hasAbstractionMap := true
  hasUploadBatches := true
  hasCorrectionHttp := true

def Request.at (request : Request) (now : Int) : Call where
  moment := { now := now, fails := fun _ => false }
  request := request

/-- A closed dwell in a window of an editor, which a plugin classifies. -/
def editorWindow (eventId windowTitle uuid : String) : Request :=
  .rawEvent
    { eventId := eventId
      occurredAt := 0
      durationSeconds := 60
      appName := "Editor"
      windowTitle := windowTitle
      bundleId := none
      declaredAppCategory := none
      documentTypeIds := []
      focusedDocumentUrl := none
      inProgress := false }
    { embedding := none
      classification := some
        { label := "document:inferred"
          category := "FOCUS_WORK"
          taxonomyVersion := taxonomyVersion
          tier := .localPurposeHeuristic
          status := .classified
          confidence := .medium
          source := .heuristic }
      uuid := uuid }
    false false

end Velvt.Rules
