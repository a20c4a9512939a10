import Velvt.RuleTables

/-!
# The abstraction engine

How a raw event becomes an abstracted one: the keys of its window, the rungs on which a rule of the
user is looked up, the classification, and the mapping it is stored under.  The plugins' answers,
the semantic inference and the drawn UUID are inputs of an observation.
-/

namespace Velvt.Rules

/-- `RawEvent`: one activity, as the client reports it. -/
structure RawEvent where
  eventId : String
  occurredAt : Int
  durationSeconds : Nat
  appName : String
  windowTitle : String
  bundleId : Option String
  declaredAppCategory : Option String
  documentTypeIds : List String
  focusedDocumentUrl : Option String
  inProgress : Bool

/-- `ClassificationResult`: what a plugin answers. -/
structure ClassificationResult where
  label : String
  category : String
  taxonomyVersion : String
  tier : ClassificationTier
  status : ClassificationStatus
  confidence : ClassificationConfidence
  source : ClassificationSource
  deriving DecidableEq

structure AbstractedEvent where
  stableId : String
  label : String
  category : String
  occurredAt : Int
  classificationTier : ClassificationTier
  classificationStatus : ClassificationStatus
  classificationConfidence : ClassificationConfidence
  classificationSource : ClassificationSource
  localDisplayLabel : Option String
  localNameSuggestion : Option String
  appStableId : String
  appScopeEligible : Bool
  siteStableId : Option String
  localSiteName : Option String

inductive AbstractionError
  | store
  | noPluginMatch
  | invalidPluginResult

/-- The calls on the store, any of which can fail. -/
inductive StoreCall
  | recordEmbedding
  | personalOverride
  | personalSiteOverride
  | personalAppOverrideByBundle
  | personalAppOverrideByName
  | upsertMapping
  | readStableId
  | incrementClassificationCount
  | insertRawEvent
  | recordLocalSiteName
  | savePersonalAppOverride
  | savePersonalOverride
  | updateClassification
  | updateEventClassification
  | appScopeOverride
  | siteScopeOverride
  | editSiteScopeOverride
  | saveAppScopeOverride
  | unclassifiedAppBundleKey
  | saveSiteScopeOverride
  | removePersonalOverride
  | removeAppScopeOverride
  | removeSiteScopeOverride
  | resetPersonalOverrides
  | sweep

/-- When a request is handled, and which calls on the store fail while it is. -/
structure Moment where
  now : Int
  fails : StoreCall → Bool

/-- What the parts of the engine other than the store answer for one event. -/
structure Perception where
  embedding : Option Embedding
  classification : Option ClassificationResult
  uuid : String

def Perception.freshId (perception : Perception) : String := "abs_" ++ perception.uuid

/-- `category_taxonomy_version` of the shipped taxonomy. -/
def taxonomyVersion : String := "mvp-2"

/-- `Taxonomy::contains_category`, of the shipped taxonomy. -/
def containsCategory (category : String) : Bool :=
  ["FOCUS_WORK", "PASSIVE_CONSUMPTION", "SOCIAL_FEED", "COMMUNICATION", "TASK_MANAGEMENT",
    "REFERENCE", "SYSTEM", "UNLOGGED"].contains category

def overrideLabelForCategory : String → Option String
  | "FOCUS_WORK" => some "document:inferred"
  | "PASSIVE_CONSUMPTION" => some "video:inferred"
  | "SOCIAL_FEED" => some "social:inferred"
  | "COMMUNICATION" => some "communication:inferred"
  | "TASK_MANAGEMENT" => some "task:inferred"
  | "REFERENCE" => some "reference:inferred"
  | "SYSTEM" => some "system:inferred"
  | "UNLOGGED" => some "unlogged"
  | _ => none

/-- A label is `unlogged`, or a family and an action. -/
def isValidLabel (label : String) : Bool :=
  let isValidPart := fun part : List Char =>
    !part.isEmpty && part.all fun letter => letter.isLower || letter.isDigit || letter == '_'
  label == "unlogged" ||
    match label.toList.splitOn ':' with
    | [family, action] => isValidPart family && isValidPart action
    | _ => false

def eqIgnoreAsciiCase (first second : String) : Bool :=
  asciiLower first.toList == asciiLower second.toList

def matchesRawInput (label appName stableContext originalWindowTitle : String) : Bool :=
  eqIgnoreAsciiCase label appName || eqIgnoreAsciiCase label stableContext ||
    eqIgnoreAsciiCase label originalWindowTitle

def responsibleLocalNameSuggestion (appName : String) (source : ClassificationSource) :
    Option String :=
  let trimmed := trimText appName
  if source = .seed ∨ source = .userRule ∨ trimmed.isEmpty ∨ 48 < trimmed.length ∨
      trimmed.toList.any isControl ∨
      (["unknown", "unknown app", "application", "app", "browser", "unclassifiable"].any
        fun value => eqIgnoreAsciiCase trimmed value) then
    none
  else
    some trimmed

def curatedLabels : List (String × String) :=
  [("communication:slack", "Slack"), ("communication:gmail", "Gmail"),
    ("communication:outlook", "Outlook"), ("communication:calendar", "Calendar"),
    ("communication:email", "Email"), ("communication:chat", "Chat"),
    ("meeting:meet", "Google Meet"), ("meeting:zoom", "Zoom"),
    ("meeting:teams", "Microsoft Teams"), ("meeting:video", "Video meeting"),
    ("reference:github", "GitHub"), ("reference:gitlab", "GitLab"),
    ("reference:stack_overflow", "Stack Overflow"), ("reference:wikipedia", "Wikipedia"),
    ("reference:mdn", "MDN"), ("reference:contacts", "Contacts"),
    ("reference:read", "Reading"), ("reference:ai_assistant", "AI Assistant"),
    ("reference:browser", "Browser"), ("document:docs", "Docs"),
    ("document:sheets", "Spreadsheet"), ("document:spreadsheet", "Spreadsheet"),
    ("document:slides", "Presentation"), ("document:presentation", "Presentation"),
    ("document:drive", "Drive"), ("document:notion", "Notion"),
    ("document:obsidian", "Obsidian"), ("document:overleaf", "Overleaf"),
    ("document:word", "Word"), ("document:excel", "Excel"),
    ("document:powerpoint", "PowerPoint"), ("document:pages", "Pages"),
    ("document:numbers", "Numbers"), ("document:keynote", "Keynote"),
    ("document:write", "Writing"), ("document:edit", "Document editing"),
    ("document:code", "Coding"), ("video:youtube", "YouTube"), ("video:netflix", "Netflix"),
    ("video:tiktok", "TikTok"), ("video:twitch", "Twitch"),
    ("video:streaming", "Streaming video"), ("audio:spotify", "Spotify"),
    ("audio:music", "Audio"), ("audio:listen", "Audio"), ("social:reddit", "Reddit"),
    ("social:twitter", "X"), ("social:x", "X"), ("social:instagram", "Instagram"),
    ("social:facebook", "Facebook"), ("social:threads", "Threads"),
    ("social:linkedin", "LinkedIn"), ("social:feed", "Social feed"),
    ("task:manage", "Task management"), ("task:finance", "Finance task"),
    ("design:cad", "CAD"), ("design:3d", "3D design"), ("design:visual", "Visual design"),
    ("creative:edit", "Creative editing"), ("system:manage", "System management")]

def containsText (text : String) (part : String) : Bool :=
  decide (part.toList <:+: asciiLower text.toList)

def curatedDisplayLabel (appName windowTitle label : String) : Option String :=
  if label = "document:write" ∧ containsText windowTitle "docs" then
    some "Docs"
  else if (label = "document:edit" ∨ label = "document:code") ∧
      (containsText appName "vs code" ∨ containsText appName "visual studio code") then
    some "VS Code"
  else
    curatedLabels.lookup label

/-- The engine of one install. -/
structure AbstractionEngine where
  sha256 : List UInt8 → List UInt8
  salt : List UInt8

/-- The keys under which an event's rules are looked up. -/
structure WindowIdentity where
  stableKey : String
  siteStableKey : Option String
  appBundleKey : Option String
  appStableKey : String

/-- The keys of the rungs, most specific first. -/
structure ClassifiedWindow where
  result : ClassificationResult
  localDisplayLabel : Option String
  localNameSuggestion : Option String

/-- What a window is called and classified as when one of the user's rules answers. -/
def ruleResult (label category : String) : ClassificationResult where
  label := label
  category := category
  taxonomyVersion := taxonomyVersion
  tier := .exactMatch
  status := .classified
  confidence := .high
  source := .userRule

namespace RawEvent

variable (event : RawEvent)

def focusedSite : Option String := focusedSiteContext event.focusedDocumentUrl

/-- `stable_context`: the focused site, or the raw window title. -/
def stableContext : String := event.focusedSite.getD event.windowTitle

def site : Option String :=
  (event.focusedSite.filter fun _ => isBrowserApp event.appName).bind siteIdentity

end RawEvent

namespace AbstractionEngine

variable (engine : AbstractionEngine)

def stableKey (appName stableContext : String) : String :=
  saltedKey engine.sha256 engine.salt (windowDigest engine.sha256 appName stableContext)

def appStableKey (appName : String) : String :=
  saltedKey engine.sha256 engine.salt (appDigest engine.sha256 appName)

def appBundleKey (bundleId : String) : String :=
  saltedKey engine.sha256 engine.salt (bundleDigest engine.sha256 bundleId)

def siteStableKey (site : String) : String :=
  saltedKey engine.sha256 engine.salt (siteDigest engine.sha256 site)

def identityOf (event : RawEvent) : WindowIdentity where
  stableKey := engine.stableKey event.appName event.stableContext
  siteStableKey := event.site.map engine.siteStableKey
  appBundleKey := event.bundleId.map engine.appBundleKey
  appStableKey := engine.appStableKey event.appName

end AbstractionEngine

/-- One rung: its lookup may fail, and answers before the rungs below it. -/
def rung (fails : Bool) (answer : Option PersonalOverride)
    (below : Except AbstractionError (Option PersonalOverride)) :
    Except AbstractionError (Option PersonalOverride) :=
  if fails then .error .store
  else
    match answer with
    | some rule => .ok (some rule)
    | none => below

theorem rung_eq_ok {fails : Bool} {answer found lower : Option PersonalOverride}
    {below : Except AbstractionError (Option PersonalOverride)}
    (belowAnswers : below = .ok found → found = lower)
    (read : rung fails answer below = .ok found) : found = (answer <|> lower) := by
  cases fails with
  | true => cases read
  | false =>
    cases answer with
    | none => simpa using belowAnswers read
    | some rule =>
      cases read
      rfl

namespace Tables

variable (tables : Tables)

/-- Correction precedence, most specific first: the window, its site, its application by
bundle identifier and by name. -/
def personalOverrideOf (identity : WindowIdentity) : Option PersonalOverride :=
  tables.personalOverrideFor identity.stableKey <|>
    identity.siteStableKey.bind tables.personalSiteOverrideFor <|>
      identity.appBundleKey.bind tables.personalAppOverrideFor <|>
        tables.personalAppOverrideFor identity.appStableKey

def readPersonalOverride (identity : WindowIdentity) (fails : StoreCall → Bool) :
    Except AbstractionError (Option PersonalOverride) :=
  rung (fails .personalOverride) (tables.personalOverrideFor identity.stableKey)
    (rung (identity.siteStableKey.isSome && fails .personalSiteOverride)
      (identity.siteStableKey.bind tables.personalSiteOverrideFor)
      (rung (identity.appBundleKey.isSome && fails .personalAppOverrideByBundle)
        (identity.appBundleKey.bind tables.personalAppOverrideFor)
        (rung (fails .personalAppOverrideByName)
          (tables.personalAppOverrideFor identity.appStableKey) (.ok none))))

theorem readPersonalOverride_eq_ok {identity : WindowIdentity} {fails : StoreCall → Bool}
    {answer : Option PersonalOverride}
    (read : tables.readPersonalOverride identity fails = .ok answer) :
    answer = tables.personalOverrideOf identity := by
  refine rung_eq_ok (fun site => ?_) read
  refine rung_eq_ok (fun bundle => ?_) site
  refine rung_eq_ok (fun app => ?_) bundle
  have last : answer = (tables.personalAppOverrideFor identity.appStableKey <|> none) :=
    rung_eq_ok (fun nothing => by cases nothing; rfl) app
  simpa using last

end Tables

/-- Classifies a window by the rule that answers for it, or else by what a plugin
answered. -/
def classify (event : RawEvent) (perception : Perception) (rule : Option PersonalOverride) :
    Except AbstractionError ClassifiedWindow := do
  let result ←
    match rule with
    | some rule =>
      match overrideLabelForCategory rule.category with
      | some label => .ok (ruleResult label rule.category)
      | none => .error .invalidPluginResult
    | none =>
      match perception.classification with
      | some result => .ok result
      | none => .error .noPluginMatch
  if !isValidLabel result.label || !containsCategory result.category ||
      result.taxonomyVersion != taxonomyVersion ||
      matchesRawInput result.label event.appName event.stableContext event.windowTitle then
    .error .invalidPluginResult
  else
    .ok
      { result := result
        localDisplayLabel := (rule.bind (·.localActivityName)) <|>
          curatedDisplayLabel event.appName event.windowTitle result.label
        localNameSuggestion :=
          if rule.isNone then responsibleLocalNameSuggestion event.appName result.source
          else none }

namespace AbstractionEngine

variable (engine : AbstractionEngine)

def mappingOf (event : RawEvent) (perception : Perception) (classified : ClassifiedWindow)
    (now : Int) : AbstractionMapping where
  keyHash := (engine.identityOf event).stableKey
  stableId := perception.freshId
  label := classified.result.label
  category := classified.result.category
  classificationTier := classified.result.tier
  classificationStatus := classified.result.status
  classificationConfidence := classified.result.confidence
  classificationSource := classified.result.source
  displayName := classified.localDisplayLabel
  updatedAt := timestamp now

def abstracted (event : RawEvent) (classified : ClassifiedWindow) (stableId : String) :
    AbstractedEvent where
  stableId := stableId
  label := classified.result.label
  category := classified.result.category
  occurredAt := event.occurredAt
  classificationTier := classified.result.tier
  classificationStatus := classified.result.status
  classificationConfidence := classified.result.confidence
  classificationSource := classified.result.source
  localDisplayLabel := classified.localDisplayLabel
  localNameSuggestion := classified.localNameSuggestion
  appStableId := (engine.identityOf event).appStableKey
  appScopeEligible := event.focusedSite.isNone
  siteStableId := (engine.identityOf event).siteStableKey
  localSiteName := event.site

def observe (moment : Moment) (event : RawEvent) (perception : Perception) (tables : Tables) :
    Tables :=
  match perception.embedding with
  | some embedding =>
    if moment.fails .recordEmbedding then tables
    else tables.recordEmbedding (engine.identityOf event).stableKey embedding moment.now
  | none => tables

def resolveId (moment : Moment) (event : RawEvent) (perception : Perception)
    (classified : ClassifiedWindow) (tables : Tables) :
    Except AbstractionError String × Tables :=
  if moment.fails .upsertMapping then (.error .store, tables)
  else
    match tables.upsertMapping (engine.mappingOf event perception classified moment.now) with
    | .error _ => (.error .store, tables)
    | .ok upserted =>
      match upserted.mappingOfKey (engine.identityOf event).stableKey with
      | some row =>
        if moment.fails .readStableId then (.error .store, upserted)
        else (.ok row.stableId, upserted)
      | none => (.error .store, upserted)

def process (moment : Moment) (event : RawEvent) (perception : Perception) (tables : Tables) :
    Except AbstractionError AbstractedEvent × Tables :=
  let observed := engine.observe moment event perception tables
  match (observed.readPersonalOverride (engine.identityOf event) moment.fails).bind
      (classify event perception) with
  | .error error => (.error error, observed)
  | .ok classified =>
    match engine.resolveId moment event perception classified observed with
    | (.error error, resolved) => (.error error, resolved)
    | (.ok stableId, resolved) =>
      if moment.fails .incrementClassificationCount then (.error .store, resolved)
      else (.ok (engine.abstracted event classified stableId), resolved)

end AbstractionEngine

end Velvt.Rules
