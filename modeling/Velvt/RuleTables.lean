import Mathlib.Data.String.Basic
import Velvt.TableRows
import Velvt.UploadStore
import Velvt.WindowKeys

/-!
# The rule tables

The tables that the user's corrections live in, and the tables they are read from and written
to along the way, with one function for each statement or transaction.  Instants in a row are
whole seconds.  Where a transaction answers a flag, it comes first.
-/

namespace Velvt.Rules

/-- `PersistenceError`, as the rule tables report it. -/
inductive PersistenceError
  | notFound (entity : String)
  | appScopeIneligible
  | storage

inductive ClassificationTier
  | exactMatch
  | localPurposeHeuristic
  | embeddingSimilarity
  | fallback
  deriving DecidableEq

inductive ClassificationSource
  | seed
  | heuristic
  | embedding
  | userRule
  | declaredDocumentTypes
  | declaredAppCategory
  | fallback
  deriving DecidableEq

/-- One row of `abstraction_map`: a window and its last classification. -/
structure AbstractionMapping where
  keyHash : String
  stableId : String
  label : String
  category : String
  classificationTier : ClassificationTier
  classificationStatus : ClassificationStatus
  classificationConfidence : ClassificationConfidence
  classificationSource : ClassificationSource
  displayName : Option String
  updatedAt : Int

/-- One row of `personal_override`: a rule about one window. -/
structure PersonalOverrideRow where
  keyHash : String
  category : String
  activityName : Option String
  appKeyHash : Option String
  updatedAt : Int

/-- One row of `personal_app_override`: a rule about one application. -/
structure AppOverrideRow where
  appKeyHash : String
  bundleKeyHash : Option String
  category : String
  activityName : Option String
  appOnly : Bool
  correctionCount : Nat
  updatedAt : Int
  deriving DecidableEq

/-- One row of `personal_site_override`: a rule about one site. -/
structure SiteOverrideRow where
  siteKeyHash : String
  category : String
  activityName : Option String
  correctionCount : Nat
  updatedAt : Int

structure Embedding where
  bytes : List UInt8
  dimensions : Nat
  deriving DecidableEq

/-- One row of `semantic_embedding_cache`. -/
structure CachedEmbedding where
  keyHash : String
  embedding : Embedding
  updatedAt : Int

/-- One row of `personal_semantic_prototype`: what a correction teaches the classifier. -/
structure SemanticPrototype where
  keyHash : String
  category : String
  embedding : Embedding
  correctionCount : Nat
  updatedAt : Int
  deriving DecidableEq

/-- One row of `raw_event_buffer`. -/
structure RawEventRow where
  eventId : String
  stableId : String
  label : String
  localDisplayLabel : Option String
  localNameSuggestion : Option String
  category : String
  classificationTier : ClassificationTier
  classificationStatus : ClassificationStatus
  classificationConfidence : ClassificationConfidence
  classificationSource : ClassificationSource
  occurredAt : Int
  durationSeconds : Nat
  uploadEligible : Bool
  appStableId : Option String
  appScopeEligible : Bool
  appBundleStableId : Option String
  siteStableId : Option String
  createdAt : Int

/-- The identity that an event allows a rule to be generalized to, before the application is
asked. -/
def RawEventRow.appIdentity (event : RawEventRow) : Option (String × Option String) :=
  if event.appScopeEligible then
    event.appStableId.map fun app => (app, event.appBundleStableId)
  else
    none

theorem RawEventRow.appStableId_of_appIdentity {event : RawEventRow} {app : String}
    {bundle : Option String} (identity : event.appIdentity = some (app, bundle)) :
    event.appStableId = some app := by
  rw [appIdentity, Option.ite_none_right_eq_some, Option.map_eq_some_iff] at identity
  obtain ⟨-, seen, inApp, same⟩ := identity
  rw [inApp, (Prod.mk.inj same).1]

/-- One row of `batch_event`, as far as a correction reads or writes it. -/
structure BatchEventRow where
  eventId : String
  label : String
  category : String
  classificationTier : ClassificationTier

/-- One row of `local_site_name`. -/
structure LocalSiteName where
  siteKeyHash : String
  host : String
  lastSeenAt : Int

structure Tables where
  abstractionMap : List AbstractionMapping
  personalOverride : List PersonalOverrideRow
  personalAppOverride : List AppOverrideRow
  personalSiteOverride : List SiteOverrideRow
  semanticEmbeddingCache : List CachedEmbedding
  personalSemanticPrototype : List SemanticPrototype
  rawEventBuffer : List RawEventRow
  batchEvent : List BatchEventRow
  localSiteName : List LocalSiteName

/-- `PersonalOverride`: what a rule answers. -/
structure PersonalOverride where
  category : String
  localActivityName : Option String

inductive CorrectionScope
  | window
  | app
  | site

/-- `PersonalOverrideRecord`: a rule as the correction history lists it. -/
structure PersonalOverrideRecord where
  scope : CorrectionScope
  stableId : String
  label : String
  localActivityName : Option String
  category : String
  updatedAt : Int

namespace Tables

def empty : Tables where
  abstractionMap := []
  personalOverride := []
  personalAppOverride := []
  personalSiteOverride := []
  semanticEmbeddingCache := []
  personalSemanticPrototype := []
  rawEventBuffer := []
  batchEvent := []
  localSiteName := []

variable (tables : Tables)

/-- `AbstractionMapRepo::upsert`.  The name a mapping holds is kept where none is given, and
so are its key and its stable id. -/
def upsertMapping (mapping : AbstractionMapping) : Except PersistenceError Tables :=
  if (∀ row ∈ tables.abstractionMap, row.keyHash ≠ mapping.keyHash) ∧
      ∃ row ∈ tables.abstractionMap, row.stableId = mapping.stableId then
    .error .storage
  else
    .ok { tables with
      abstractionMap := TableRows.upsert (·.keyHash) mapping (fun row =>
        { mapping with
          keyHash := row.keyHash
          stableId := row.stableId
          displayName := mapping.displayName <|> row.displayName }) tables.abstractionMap }

theorem upsertMapping_eq_ok {mapping : AbstractionMapping} {mapped : Tables}
    (upserted : tables.upsertMapping mapping = .ok mapped) :
    ((∃ row ∈ tables.abstractionMap, row.keyHash = mapping.keyHash) ∨
        ∀ row ∈ tables.abstractionMap, row.stableId ≠ mapping.stableId) ∧
      mapped = { tables with
        abstractionMap := TableRows.upsert (·.keyHash) mapping (fun row =>
          { mapping with
            keyHash := row.keyHash
            stableId := row.stableId
            displayName := mapping.displayName <|> row.displayName })
          tables.abstractionMap } := by
  rw [upsertMapping] at upserted
  split at upserted
  · cases upserted
  · rename_i accepted
    refine ⟨?_, (Except.ok.inj upserted).symm⟩
    by_contra refused
    push Not at refused
    exact accepted ⟨refused.1, refused.2⟩

def mappingOfKey (keyHash : String) : Option AbstractionMapping :=
  tables.abstractionMap.find? fun row => row.keyHash == keyHash

def mappingOfStableId (stableId : String) : Option AbstractionMapping :=
  tables.abstractionMap.find? fun row => row.stableId == stableId

/-- `UPDATE abstraction_map SET display_name = NULL`, of the rows that a condition
selects. -/
def clearDisplayNames (selected : AbstractionMapping → Bool) : Tables :=
  { tables with
    abstractionMap := TableRows.update selected (fun row => { row with displayName := none })
      tables.abstractionMap }

/-- Whether a buffered event links the window of a stable id to an application. -/
def seenInApp (appKeyHash stableId : String) : Bool :=
  tables.rawEventBuffer.any fun event =>
    event.appStableId == some appKeyHash && event.stableId == stableId

/-- Whether a buffered event links the window of a stable id to a site. -/
def seenOnSite (siteKeyHash stableId : String) : Bool :=
  tables.rawEventBuffer.any fun event =>
    event.siteStableId == some siteKeyHash && event.stableId == stableId

def embeddingBefore (first second : CachedEmbedding) : Bool :=
  decide (second.updatedAt < first.updatedAt) ||
    (first.updatedAt == second.updatedAt && decide (first.keyHash < second.keyHash))

def recordEmbedding (keyHash : String) (embedding : Embedding) (now : Int) : Tables :=
  { tables with
    semanticEmbeddingCache :=
      TableRows.keepFirst (fun _ => true) embeddingBefore 512
        (TableRows.upsert (·.keyHash)
          { keyHash := keyHash, embedding := embedding, updatedAt := timestamp now }
          (fun row => { row with embedding := embedding, updatedAt := timestamp now })
          tables.semanticEmbeddingCache) }

def personalOverrideFor (stableKey : String) : Option PersonalOverride :=
  (tables.personalOverride.find? fun rule => rule.keyHash == stableKey).map fun rule =>
    { category := rule.category, localActivityName := rule.activityName }

/-- `personal_app_override`, which answers for either identity of an application. -/
def personalAppOverrideFor (appStableKey : String) : Option PersonalOverride :=
  (tables.personalAppOverride.find? fun rule =>
      rule.appKeyHash == appStableKey || rule.bundleKeyHash == some appStableKey).map
    fun rule => { category := rule.category, localActivityName := rule.activityName }

def personalSiteOverrideFor (siteKey : String) : Option PersonalOverride :=
  (tables.personalSiteOverride.find? fun rule => rule.siteKeyHash == siteKey).map
    fun rule => { category := rule.category, localActivityName := rule.activityName }

/-- An application that has produced a window whose identity came from a site. -/
def appScopeIdentityIsIneligible (appKeyHash : String) (bundleKeyHash : Option String) : Bool :=
  tables.rawEventBuffer.any fun event =>
    !event.appScopeEligible &&
      (event.appStableId == some appKeyHash ||
        (bundleKeyHash.isSome && event.appBundleStableId == bundleKeyHash))

def eligibleAppIdentity (identity : Option (String × Option String)) :
    Option (String × Option String) :=
  identity.filter fun (app, bundle) => !tables.appScopeIdentityIsIneligible app bundle

theorem eq_some_of_eligibleAppIdentity {identity : Option (String × Option String)}
    {pair : String × Option String} (eligible : tables.eligibleAppIdentity identity = some pair) :
    identity = some pair :=
  (Option.filter_eq_some_iff.mp eligible).1

def appIdentityForEvent (eventId : String) : Option (String × Option String) :=
  tables.eligibleAppIdentity
    ((tables.rawEventBuffer.find? fun event =>
      event.eventId == eventId && event.appIdentity.isSome).bind (·.appIdentity))

/-- The identity of the newest event of a window that can be generalized. -/
def appIdentityForStableId (stableId : String) : Option (String × Option String) :=
  tables.eligibleAppIdentity
    ((TableRows.newest (·.occurredAt) (tables.rawEventBuffer.filter fun event =>
      event.stableId == stableId && event.appIdentity.isSome)).bind (·.appIdentity))

/-- Folds the rows that claim a bundle under another name: the row is re-keyed to the name in
use, or deleted where that name has a row. -/
def foldBundleAlias (appKeyHash bundleKeyHash : String) : List AppOverrideRow → Int →
    List AppOverrideRow
  | rules, now =>
    let isAlias := fun rule : AppOverrideRow =>
      rule.bundleKeyHash == some bundleKeyHash && rule.appKeyHash != appKeyHash
    let rekeyed :=
      if rules.any fun rule => rule.appKeyHash == appKeyHash then
        rules
      else
        TableRows.update isAlias (fun rule =>
          { rule with appKeyHash := appKeyHash, updatedAt := timestamp now }) rules
    rekeyed.filter fun rule => !isAlias rule

def upsertAppScopeRule (appKeyHash : String) (bundleKeyHash : Option String) (category : String)
    (localActivityName : Option String) (appOnly : Bool) (now : Int) : Tables :=
  let folded :=
    match bundleKeyHash with
    | some bundle => foldBundleAlias appKeyHash bundle tables.personalAppOverride now
    | none => tables.personalAppOverride
  { tables with
    personalAppOverride := TableRows.upsert (·.appKeyHash)
      { appKeyHash := appKeyHash
        bundleKeyHash := bundleKeyHash
        category := category
        activityName := localActivityName
        appOnly := appOnly
        correctionCount := 1
        updatedAt := timestamp now }
      (fun rule =>
        { rule with
          bundleKeyHash := bundleKeyHash <|> rule.bundleKeyHash
          category := category
          activityName := localActivityName <|> rule.activityName
          appOnly := rule.appOnly || appOnly
          correctionCount := rule.correctionCount + 1
          updatedAt := timestamp now }) folded }

variable {localActivityName : Option String}

theorem mem_upsertAppScopeRule {appKeyHash : String} {bundleKeyHash : Option String}
    {category : String} {appOnly : Bool} {now : Int}
    {rule : AppOverrideRow}
    (member : rule ∈ (tables.upsertAppScopeRule appKeyHash bundleKeyHash category
      localActivityName appOnly now).personalAppOverride) :
    rule.appKeyHash = appKeyHash ∧ (appOnly = true → rule.appOnly = true) ∨
      rule ∈ tables.personalAppOverride := by
  have folded : ∀ other ∈ (match bundleKeyHash with
      | some bundle => foldBundleAlias appKeyHash bundle tables.personalAppOverride now
      | none => tables.personalAppOverride),
      other.appKeyHash ≠ appKeyHash → other ∈ tables.personalAppOverride := by
    cases bundleKeyHash with
    | none => exact fun other held _ => held
    | some bundle =>
      intro other held elsewhere
      have before := List.mem_of_mem_filter held
      split at before
      · exact before
      · rcases TableRows.mem_update.mp before with ⟨old, -⟩ | ⟨old, -, -, rfl⟩
        · exact old
        · exact absurd rfl elsewhere
  rcases TableRows.mem_upsert.mp member with
    ⟨before, elsewhere⟩ | ⟨old, -, atKey, rfl⟩ | ⟨-, rfl⟩
  · exact .inr (folded rule before elsewhere)
  · exact .inl ⟨atKey, fun raised => by simp [raised]⟩
  · exact .inl ⟨rfl, id⟩

/-- The rung of a correction that reaches every window of the application. -/
def saveRung (identity : Option (String × Option String)) (category : String)
    (localActivityName : Option String) (now : Int) : Bool × Tables :=
  match identity with
  | some (app, bundle) =>
    (true, tables.upsertAppScopeRule app bundle category localActivityName false now)
  | none => (false, tables)

def savePersonalAppOverride (eventId category : String) (localActivityName : Option String)
    (now : Int) : Bool × Tables :=
  tables.saveRung (tables.appIdentityForEvent eventId) category localActivityName now

def savePersonalAppOverrideByStableId (stableId category : String)
    (localActivityName : Option String) (now : Int) : Bool × Tables :=
  tables.saveRung (tables.appIdentityForStableId stableId) category localActivityName now

def saveAppScopeOverride (appKeyHash : String) (bundleKeyHash : Option String)
    (category : String) (localActivityName : Option String) (now : Int) :
    Except PersistenceError Tables :=
  if tables.appScopeIdentityIsIneligible appKeyHash bundleKeyHash then
    .error .appScopeIneligible
  else
    .ok (tables.upsertAppScopeRule appKeyHash bundleKeyHash category localActivityName true now)

theorem saveAppScopeOverride_eq_ok {appKeyHash : String} {bundleKeyHash : Option String}
    {category : String} {now : Int} {saved : Tables}
    (saves : tables.saveAppScopeOverride appKeyHash bundleKeyHash category localActivityName
      now = .ok saved) :
    saved = tables.upsertAppScopeRule appKeyHash bundleKeyHash category localActivityName true
      now := by
  rw [saveAppScopeOverride] at saves
  split at saves
  · cases saves
  · exact (Except.ok.inj saves).symm

def appScopeOverride (appKeyHash : String) : Option AppOverrideRow :=
  tables.personalAppOverride.find? fun rule => rule.appKeyHash == appKeyHash

def removeAppScopeOverride (appKeyHash : String) : Bool × Tables :=
  (tables.personalAppOverride.any fun rule => rule.appKeyHash == appKeyHash,
    { tables with
      personalAppOverride := tables.personalAppOverride.filter fun rule =>
        rule.appKeyHash != appKeyHash }.clearDisplayNames fun row =>
      tables.seenInApp appKeyHash row.stableId)

/-- The upsert of a site rule, which writes the name that `named` makes of the name given and
the name held. -/
def upsertSiteRule (siteKeyHash category : String) (localActivityName : Option String)
    (named : Option String → Option String) (now : Int) : Tables :=
  { tables with
    personalSiteOverride := TableRows.upsert (·.siteKeyHash)
      { siteKeyHash := siteKeyHash
        category := category
        activityName := localActivityName
        correctionCount := 1
        updatedAt := timestamp now }
      (fun rule =>
        { rule with
          category := category
          activityName := named rule.activityName
          correctionCount := rule.correctionCount + 1
          updatedAt := timestamp now }) tables.personalSiteOverride }

/-- Teaches a site, and forgets the hostname that was kept to ask about it. -/
def saveSiteScopeOverride (siteKeyHash category : String) (localActivityName : Option String)
    (now : Int) : Tables :=
  let saved := tables.upsertSiteRule siteKeyHash category localActivityName
    (fun held => localActivityName <|> held) now
  { saved with
    localSiteName := saved.localSiteName.filter fun name => name.siteKeyHash != siteKeyHash }

/-- Edits a site rule.  The name is written as given: an empty field means no name. -/
def editSiteScopeOverride (siteKeyHash category : String) (localActivityName : Option String)
    (now : Int) : Tables :=
  let saved := tables.upsertSiteRule siteKeyHash category localActivityName
    (fun _ => localActivityName) now
  if localActivityName.isNone then
    saved.clearDisplayNames fun row => saved.seenOnSite siteKeyHash row.stableId
  else
    saved

def siteScopeOverride (siteKeyHash : String) : Option SiteOverrideRow :=
  tables.personalSiteOverride.find? fun rule => rule.siteKeyHash == siteKeyHash

def removeSiteScopeOverride (siteKeyHash : String) : Bool × Tables :=
  (tables.personalSiteOverride.any fun rule => rule.siteKeyHash == siteKeyHash,
    { tables with
      personalSiteOverride := tables.personalSiteOverride.filter fun rule =>
        rule.siteKeyHash != siteKeyHash }.clearDisplayNames fun row =>
      tables.seenOnSite siteKeyHash row.stableId)

/-- The application rung that a rule about a window is recorded with: that of the window's
newest event that can be generalized. -/
def pairedAppKey (stableId : String) : Option String :=
  (TableRows.newest (·.occurredAt) (tables.rawEventBuffer.filter fun event =>
    event.stableId == stableId &&
      (tables.eligibleAppIdentity event.appIdentity).isSome)).bind (·.appStableId)

def prototypeBefore (first second : SemanticPrototype) : Bool :=
  decide (second.correctionCount < first.correctionCount) ||
    (first.correctionCount == second.correctionCount &&
      (decide (second.updatedAt < first.updatedAt) ||
        (first.updatedAt == second.updatedAt && decide (first.keyHash < second.keyHash))))

/-- The limits of the learned prototypes: twelve of a category and sixty-four in all. -/
def trimPrototypes (category : String) (prototypes : List SemanticPrototype) :
    List SemanticPrototype :=
  TableRows.keepFirst (fun _ => true) prototypeBefore 64
    (TableRows.keepFirst (fun row => row.category == category) prototypeBefore 12 prototypes)

theorem trimPrototypes_sublist (category : String) (prototypes : List SemanticPrototype) :
    (trimPrototypes category prototypes).Sublist prototypes :=
  TableRows.keepFirst_sublist.trans TableRows.keepFirst_sublist

/-- Learns a prototype from the window's embedding, when one is cached. -/
def learnPrototype (keyHash category : String) (now : Int) : List SemanticPrototype :=
  match tables.semanticEmbeddingCache.find? fun cached => cached.keyHash == keyHash with
  | some cached =>
    TableRows.upsert (·.keyHash)
      { keyHash := keyHash
        category := category
        embedding := cached.embedding
        correctionCount := 1
        updatedAt := timestamp now }
      (fun row =>
        { row with
          category := category
          embedding := cached.embedding
          correctionCount := row.correctionCount + 1
          updatedAt := timestamp now }) tables.personalSemanticPrototype
  | none => tables.personalSemanticPrototype

def savePersonalOverride (stableId category : String) (localActivityName : Option String)
    (now : Int) : Except PersistenceError Tables :=
  match tables.mappingOfStableId stableId with
  | none => .error (.notFound "abstraction_map")
  | some mapping =>
    let paired := tables.pairedAppKey mapping.stableId
    .ok { tables with
      personalOverride := TableRows.upsert (·.keyHash)
        { keyHash := mapping.keyHash
          category := category
          activityName := localActivityName
          appKeyHash := paired
          updatedAt := timestamp now }
        (fun rule =>
          { rule with
            category := category
            activityName := localActivityName <|> rule.activityName
            appKeyHash := paired <|> rule.appKeyHash
            updatedAt := timestamp now }) tables.personalOverride
      personalSemanticPrototype :=
        trimPrototypes category (tables.learnPrototype mapping.keyHash category now) }

theorem savePersonalOverride_eq_ok {stableId category : String} {now : Int} {saved : Tables}
    (saves : tables.savePersonalOverride stableId category localActivityName now = .ok saved) :
    ∃ mapping, tables.mappingOfStableId stableId = some mapping ∧ saved = { tables with
        personalOverride := TableRows.upsert (·.keyHash)
          { keyHash := mapping.keyHash
            category := category
            activityName := localActivityName
            appKeyHash := tables.pairedAppKey mapping.stableId
            updatedAt := timestamp now }
          (fun rule =>
            { rule with
              category := category
              activityName := localActivityName <|> rule.activityName
              appKeyHash := tables.pairedAppKey mapping.stableId <|> rule.appKeyHash
              updatedAt := timestamp now }) tables.personalOverride
        personalSemanticPrototype :=
          trimPrototypes category (tables.learnPrototype mapping.keyHash category now) } := by
  rw [savePersonalOverride] at saves
  split at saves
  · cases saves
  · rename_i mapping found
    exact ⟨mapping, found, (Except.ok.inj saves).symm⟩

def windowRule (stableId : String) : Option PersonalOverrideRow :=
  (tables.mappingOfStableId stableId).bind fun mapping =>
    tables.personalOverride.find? fun rule => rule.keyHash == mapping.keyHash

/-- Removes the rule of a window with the application rung that the correction wrote. -/
def removePersonalOverride (stableId : String) : Bool × Tables :=
  let keyHash := (tables.mappingOfStableId stableId).map (·.keyHash)
  let pairedAppKey := (tables.windowRule stableId).bind (·.appKeyHash)
  ((tables.windowRule stableId).isSome,
    { tables with
      personalOverride := tables.personalOverride.filter fun rule =>
        some rule.keyHash != keyHash
      personalSemanticPrototype := tables.personalSemanticPrototype.filter fun row =>
        some row.keyHash != keyHash
      personalAppOverride := tables.personalAppOverride.filter fun rule =>
        !(some rule.appKeyHash == pairedAppKey && !rule.appOnly) }.clearDisplayNames fun row =>
      row.stableId == stableId || pairedAppKey.any fun app => tables.seenInApp app row.stableId)

def resetPersonalOverrides : Tables :=
  { tables with
    personalOverride := []
    personalSemanticPrototype := []
    personalAppOverride := []
    personalSiteOverride := [] }.clearDisplayNames fun _ => true

def insertRawEvent (event : RawEventRow) : Except PersistenceError Tables :=
  if event.eventId ∈ tables.rawEventBuffer.map (·.eventId) then
    .error .storage
  else
    .ok { tables with rawEventBuffer := tables.rawEventBuffer ++ [event] }

theorem insertRawEvent_eq_ok {event : RawEventRow} {inserted : Tables}
    (inserts : tables.insertRawEvent event = .ok inserted) :
    inserted = { tables with rawEventBuffer := tables.rawEventBuffer ++ [event] } := by
  rw [insertRawEvent] at inserts
  split at inserts
  · cases inserts
  · exact (Except.ok.inj inserts).symm

def updateClassification (eventId label category : String) (localActivityName : Option String) :
    Tables :=
  { tables with
    rawEventBuffer := TableRows.update (fun event => event.eventId == eventId) (fun event =>
      { event with
        label := label
        category := category
        classificationTier := .exactMatch
        classificationStatus := .classified
        classificationConfidence := .high
        classificationSource := .userRule
        localDisplayLabel := localActivityName <|> event.localDisplayLabel })
      tables.rawEventBuffer }

def updateEventClassification (eventId label category : String) : Tables :=
  { tables with
    batchEvent := TableRows.update (fun event => event.eventId == eventId) (fun event =>
      { event with
        label := label
        category := category
        classificationTier := .exactMatch }) tables.batchEvent }

def unclassifiedAppBundleKey (appStableId : String) : Option String :=
  ((tables.rawEventBuffer.filter fun event =>
    event.category == "UNLOGGED" && event.appStableId == some appStableId).filterMap
      (·.appBundleStableId)).max?

/-- `SITE_VISIT_NEEDS_A_CATEGORY`, of a row of `raw_event_buffer`. -/
def siteVisitNeedsACategory (visit : RawEventRow) : Bool :=
  visit.siteStableId.isSome &&
    !(visit.classificationStatus == .classified &&
      (visit.classificationConfidence == .high || visit.classificationConfidence == .medium) &&
      !(["unclassified", "unlogged"].contains visit.category.toLower)) &&
    !(visit.classificationSource == .userRule && visit.classificationTier == .exactMatch)

def hasSiteRule (siteKeyHash : String) : Bool :=
  tables.personalSiteOverride.any fun rule => rule.siteKeyHash == siteKeyHash

theorem hasSiteRule_iff {siteKeyHash : String} : tables.hasSiteRule siteKeyHash = true ↔
      siteKeyHash ∈ tables.personalSiteOverride.map (·.siteKeyHash) := by
  simp [hasSiteRule]

/-- Keeps the hostname of a visit that needs a category, on a site without a rule. -/
def recordLocalSiteName (eventId host : String) (seenAt : Int) : Bool × Tables :=
  match (tables.rawEventBuffer.find? fun visit =>
      visit.eventId == eventId && siteVisitNeedsACategory visit).bind (·.siteStableId) with
  | some site =>
    if tables.hasSiteRule site then
      (false, tables)
    else
      let name := { siteKeyHash := site, host := host, lastSeenAt := timestamp seenAt }
      (true,
        { tables with
          localSiteName :=
            TableRows.upsert (·.siteKeyHash) name (fun _ => name) tables.localSiteName })
  | none => (false, tables)

theorem recordLocalSiteName_spec (eventId host : String) (seenAt : Int) :
    (tables.recordLocalSiteName eventId host seenAt).2 = tables ∨
      ∃ visit ∈ tables.rawEventBuffer, visit.eventId = eventId ∧
        siteVisitNeedsACategory visit = true ∧
        ∃ site, visit.siteStableId = some site ∧ tables.hasSiteRule site = false ∧
          (tables.recordLocalSiteName eventId host seenAt).2 = { tables with
              localSiteName := TableRows.upsert (·.siteKeyHash)
                { siteKeyHash := site, host := host, lastSeenAt := timestamp seenAt }
                (fun _ => { siteKeyHash := site, host := host, lastSeenAt := timestamp seenAt })
                tables.localSiteName } := by
  unfold recordLocalSiteName
  split
  · rename_i site found
    obtain ⟨visit, visited, onSite⟩ := Option.bind_eq_some_iff.mp found
    have selected := List.find?_some visited
    rw [Bool.and_eq_true, beq_iff_eq] at selected
    split
    · exact .inl rfl
    · rename_i untaught
      exact .inr ⟨visit, List.mem_of_find?_eq_some visited, selected.1, selected.2, site, onSite,
        by simpa using untaught, rfl⟩
  · exact .inl rfl

/-- `UnclassifiedSiteEntry`. -/
structure UnclassifiedSiteEntry where
  siteStableId : String
  displayName : String
  secondsObserved : Nat
  eventCount : Nat

def countedVisits (name : LocalSiteName) (cutoff : Int) : List RawEventRow :=
  tables.rawEventBuffer.filter fun visit =>
    visit.siteStableId == some name.siteKeyHash && decide (cutoff ≤ visit.occurredAt) &&
      siteVisitNeedsACategory visit && !tables.hasSiteRule name.siteKeyHash

/-- The row of the site list for a name, where it has been visited for long enough. -/
def siteEntry (floor : Nat) (cutoff : Int) (name : LocalSiteName) :
    Option UnclassifiedSiteEntry :=
  let visits := tables.countedVisits name cutoff
  let seconds := (visits.map (·.durationSeconds)).sum
  if !visits.isEmpty && floor ≤ seconds then
    some
      { siteStableId := name.siteKeyHash
        displayName := name.host
        secondsObserved := seconds
        eventCount := visits.length }
  else
    none

/-- The site list's query, with `none` for no cap. -/
def unclassifiedSites (lookbackDays minSeconds : Nat) (limit : Option Nat) (now : Int) :
    List UnclassifiedSiteEntry :=
  let cutoff := timestamp (now - Duration.days (max 1 (min lookbackDays 14)))
  let grouped := tables.localSiteName.filterMap (tables.siteEntry (max minSeconds 300) cutoff)
  let ranked := grouped.insertionSort fun first second =>
    second.secondsObserved < first.secondsObserved ∨
      (first.secondsObserved = second.secondsObserved ∧ ¬ second.siteStableId < first.siteStableId)
  match limit with
  | some limit => ranked.take limit
  | none => ranked

def unclassifiedSiteTriage (lookbackDays minSeconds limit : Nat) (now : Int) :
    List UnclassifiedSiteEntry :=
  if min limit 8 = 0 then []
  else tables.unclassifiedSites lookbackDays minSeconds (some (min limit 8)) now

def everyUnclassifiedSite (lookbackDays : Nat) (now : Int) : List UnclassifiedSiteEntry :=
  tables.unclassifiedSites lookbackDays 300 none now

def recentLabel (selected : RawEventRow → Bool) (otherwise : String) : String :=
  ((TableRows.newest (·.occurredAt) (tables.rawEventBuffer.filter selected)).map
    (·.label)).getD otherwise

def recentAppName (appKeyHash : String) : Option String :=
  (TableRows.newest (·.occurredAt) (tables.rawEventBuffer.filter fun event =>
    event.appStableId == some appKeyHash &&
      (event.localDisplayLabel <|> event.localNameSuggestion).isSome)).bind fun event =>
    event.localDisplayLabel <|> event.localNameSuggestion

/-- `RULE_SOURCE`: every rule that the correction history lists. -/
def ruleSource : List PersonalOverrideRecord :=
  (tables.personalOverride.flatMap fun rule =>
    (tables.abstractionMap.filter fun row => row.keyHash == rule.keyHash).map fun row =>
      { scope := .window
        stableId := row.stableId
        label := row.label
        localActivityName := rule.activityName <|> row.displayName
        category := rule.category
        updatedAt := rule.updatedAt }) ++
  ((tables.personalAppOverride.filter (·.appOnly)).map fun rule =>
    { scope := .app
      stableId := rule.appKeyHash
      label := tables.recentLabel (fun event => event.appStableId == some rule.appKeyHash)
        "application"
      localActivityName := rule.activityName <|> tables.recentAppName rule.appKeyHash
      category := rule.category
      updatedAt := rule.updatedAt }) ++
  tables.personalSiteOverride.map fun rule =>
    { scope := .site
      stableId := rule.siteKeyHash
      label := tables.recentLabel (fun event => event.siteStableId == some rule.siteKeyHash) "site"
      localActivityName := rule.activityName
      category := rule.category
      updatedAt := rule.updatedAt }

theorem mem_of_mem_deleteSome {Row : Type} {rows : List Row} {key : Row → String}
    {selected : Row → Bool} {limit : Nat} {picked : List String} {row : Row}
    (member : row ∈ UploadStore.deleteSome rows key selected limit picked) : row ∈ rows :=
  List.mem_of_mem_filter member

def deleteExpiredSemanticEmbeddings (cutoff : Int) (limit : Nat) (picked : List String) :
    Tables :=
  { tables with
    semanticEmbeddingCache := UploadStore.deleteSome tables.semanticEmbeddingCache (·.keyHash)
      (fun row => row.updatedAt < timestamp cutoff) limit picked }

def mappingInUse (row : AbstractionMapping) : Bool :=
  (tables.personalOverride.any fun rule => rule.keyHash == row.keyHash) ||
    tables.rawEventBuffer.any fun event => event.stableId == row.stableId

def deleteExpiredMappings (cutoff : Int) (limit : Nat) (picked : List String) : Tables :=
  { tables with
    abstractionMap := UploadStore.deleteSome tables.abstractionMap (·.keyHash)
      (fun row => row.updatedAt < timestamp cutoff && !tables.mappingInUse row) limit picked }

def deleteExpiredSiteNames (cutoff : Int) (limit : Nat) (picked : List String) : Tables :=
  { tables with
    localSiteName := UploadStore.deleteSome tables.localSiteName (·.siteKeyHash)
      (fun row => row.lastSeenAt < timestamp cutoff) limit picked }

/-- The raw-event sweep, which spares what the upload path still owes. -/
def deleteExpiredBatch (cutoff : Int) (limit : Nat) (picked : List String) : Tables :=
  { tables with
    rawEventBuffer := UploadStore.deleteSome tables.rawEventBuffer (·.eventId)
      (fun row => row.createdAt < timestamp cutoff &&
        !(row.uploadEligible &&
          !tables.batchEvent.any fun event => event.eventId == row.eventId)) limit picked }

end Tables

end Velvt.Rules
