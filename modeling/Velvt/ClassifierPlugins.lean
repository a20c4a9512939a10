import Mathlib.Data.List.Dedup
import Velvt.RuleEngine

/-!
# The classifier plugins

The built-in plugins in the order in which the engine asks them.  The curated tables (sites,
bundles, applications, keyword rules) are data of a plugin, and so are the sketches that the
embedding tier compares.  A number of the embedding tier is an `f32`, whose arithmetic is that of
the machine.
-/

namespace Velvt.Rules

namespace ClassificationResult

/-- `ClassificationResult::new`: the quality that goes with a tier. -/
def ofTier (label category : String) (tier : ClassificationTier) : ClassificationResult where
  label := label
  category := category
  taxonomyVersion := Rules.taxonomyVersion
  tier := tier
  status :=
    match tier with
    | .fallback => .unclassified
    | _ => .classified
  confidence :=
    match tier with
    | .exactMatch => .high
    | .localPurposeHeuristic => .medium
    | .embeddingSimilarity => .medium
    | .fallback => .none
  source :=
    match tier with
    | .exactMatch => .seed
    | .localPurposeHeuristic => .heuristic
    | .embeddingSimilarity => .embedding
    | .fallback => .fallback

/-- `with_quality`, in the version of the shipped taxonomy. -/
def withQuality (label category : String) (tier : ClassificationTier)
    (status : ClassificationStatus) (confidence : ClassificationConfidence)
    (source : ClassificationSource) : ClassificationResult where
  label := label
  category := category
  taxonomyVersion := Rules.taxonomyVersion
  tier := tier
  status := status
  confidence := confidence
  source := source

def precedence (result : ClassificationResult) : Nat :=
  match result.source, result.status with
  | .userRule, _ => 8
  | .seed, _ => 7
  | .heuristic, _ => 6
  | .declaredDocumentTypes, _ => 5
  | .declaredAppCategory, _ => 4
  | .embedding, _ => 3
  | .fallback, .ambiguous => 2
  | .fallback, _ => 1

end ClassificationResult

/-- What the application declares about itself, and the host of a browser window. -/
structure DeclaredMetadata where
  bundleId : Option String
  declaredAppCategory : Option String
  documentTypeIds : List String
  site : Option String

def normalizeClassifierInput (appName windowTitle : String) : List Char :=
  normalizeClassifierText (appName ++ " " ++ windowTitle)

structure PurposeRule where
  keywords : List String
  label : String
  category : String

def PurposeRule.matchesText (rule : PurposeRule) (haystack : List Char) : Bool :=
  rule.keywords.any fun keyword => containsTokenPhrase haystack keyword

/-- The first rule that matches answers, unless a rule of another category matches too. -/
def classifyMatchingRules (haystack : List Char) (rules : List PurposeRule) :
    Option ClassificationResult :=
  match rules.filter fun rule => rule.matchesText haystack with
  | [] => none
  | first :: others =>
    if others.any fun rule => rule.category != first.category then
      some (.withQuality "unlogged" "UNLOGGED" .localPurposeHeuristic .ambiguous .low .heuristic)
    else
      some (.ofTier first.label first.category .localPurposeHeuristic)

inductive SiteScope
  | hostOnly
  | withSubdomains
  deriving DecidableEq

structure SiteSeed where
  host : String
  scope : SiteScope
  label : String
  category : String

/-- `SiteMatcher::lookup`: the site's suffixes at dot boundaries, from the longest on. -/
def lookupSite (seeds : List SiteSeed) (site : String) : Option SiteSeed :=
  (site.toList.splitOn '.').tails.dropLast.findSome? fun labels =>
    let suffix := ['.'].intercalate labels
    (seeds.find? fun seed => seed.host.toList == suffix).filter fun seed =>
      suffix.length == site.length || seed.scope == .withSubdomains

/-- `SEED_LABEL_REFINEMENTS`. -/
def refinesSeedLabel (seedLabel label : String) : Bool :=
  seedLabel == "document:docs" && ["document:sheets", "document:slides"].contains label

def subdomainLabelVotes : List (String × List String) :=
  [("COMMUNICATION", ["mail", "webmail", "email", "inbox", "calendar", "meet", "chat", "messages"]),
    ("REFERENCE",
      ["docs", "doc", "documentation", "developer", "developers", "reference", "learn", "wiki",
        "kb", "knowledge", "knowledgebase", "help", "support", "manual", "guide", "guides",
        "handbook", "github", "gitlab"]),
    ("TASK_MANAGEMENT", ["jira", "tasks", "tracker", "issues"])]

def referenceTopLevelDomains : List String := ["edu", "gov", "mil"]

def referenceSecondLevelDomains : List String := ["ac", "edu", "gov"]

def accessLabels : List String :=
  ["login", "logon", "signin", "sso", "auth", "idp", "shibboleth", "cas", "weblogin", "vpn",
    "webauth"]

def registrableTokenVotes : List (String × List String) :=
  [("REFERENCE", ["wiki", "docs"]), ("COMMUNICATION", ["mail"])]

def multiLabelPublicSuffixes : List String :=
  ["co.uk", "ac.uk", "gov.uk", "org.uk", "me.uk", "nhs.uk", "com.au", "net.au", "org.au",
    "edu.au", "gov.au", "co.jp", "ac.jp", "go.jp", "or.jp", "ne.jp", "co.nz", "ac.nz", "govt.nz",
    "org.nz", "co.in", "ac.in", "gov.in", "org.in", "com.br", "gov.br", "org.br", "com.cn",
    "edu.cn", "gov.cn", "org.cn", "co.kr", "ac.kr", "go.kr", "com.sg", "edu.sg", "gov.sg",
    "com.hk", "edu.hk", "gov.hk", "com.tw", "edu.tw", "gov.tw", "co.za", "ac.za", "gov.za",
    "com.mx", "edu.mx", "com.tr", "edu.tr", "gov.tr", "co.il", "ac.il", "gov.il"]

def holdsLabel (texts : List String) (label : List Char) : Bool :=
  texts.any fun text => text.toList == label

def vote (table : List (String × List String)) (token : List Char) : Option String :=
  (table.find? fun entry => holdsLabel entry.2 token).map Prod.fst

/-- The labels left of the registrable domain, and the label that the registrant chose. -/
def splitSite (site : String) (labels : List (List Char)) :
    Option (List (List Char) × List Char) :=
  let suffixLabels :=
    if multiLabelPublicSuffixes.any fun suffix =>
        ('.' :: suffix.toList).isSuffixOf site.toList then 2 else 1
  match labels.reverse.drop suffixLabels with
  | [] => none
  | registrable :: subdomains => some (subdomains.reverse, registrable)

def institutionalSuffix (labels : List (List Char)) : Bool :=
  match labels.reverse with
  | [] => false
  | last :: rest =>
    holdsLabel referenceTopLevelDomains last ||
      (last.length == 2 && last.all Char.isLower &&
        rest.head?.any (holdsLabel referenceSecondLevelDomains))

def inferredSiteCategory (site : String) : Option String :=
  let labels := site.toList.splitOn '.'
  match splitSite site labels with
  | none => none
  | some (subdomainLabels, registrableLabel) =>
    if subdomainLabels.any (holdsLabel accessLabels) then
      some "SYSTEM"
    else
      let votes := subdomainLabels.filterMap (vote subdomainLabelVotes) ++
        (if institutionalSuffix labels then ["REFERENCE"] else []) ++
        (registrableLabel.splitOn '-').filterMap (vote registrableTokenVotes)
      match votes with
      | [] => none
      | first :: others => if others.all (· == first) then some first else none

structure SeedBundle where
  bundleIdentifier : String
  label : String
  category : String

structure SeedApplication where
  appNamePattern : String
  label : String
  category : String

/-- `str::find`: where a part first stands in a text, and the text after it. -/
def findText (part : List Char) : Nat → List Char → Option (Nat × List Char)
  | position, [] => if part.isEmpty then some (position, []) else none
  | position, letter :: rest =>
    if part.isPrefixOf (letter :: rest) then
      some (position, (letter :: rest).drop part.length)
    else
      findText part (position + 1) rest

/-- The loop of `pattern_matches` over the parts of a pattern with a star. -/
def matchesParts : Bool → List (List Char) → List Char → Option (List Char)
  | _, [], remainder => some remainder
  | isFirst, part :: parts, remainder =>
    if part.isEmpty then
      matchesParts false parts remainder
    else
      match findText part 0 remainder with
      | none => none
      | some (position, rest) =>
        if isFirst && position != 0 then none else matchesParts false parts rest

/-- Whether a pattern, in which `*` stands for any text, covers a name. -/
def patternMatches (pattern value : String) : Bool :=
  let parts := (pattern.toList.splitOn '*').map fun part =>
    normalizeClassifierText (String.ofList part)
  let value := normalizeClassifierText value
  match parts with
  | [part] => part == value
  | parts =>
    match matchesParts true parts value with
    | none => false
    | some remainder => (parts.getLastD []).isEmpty || remainder.isEmpty

def categoryForDocumentType (identifier : List Char) : Option String :=
  let isOneOf := fun texts : List String => texts.any fun text => text.toList == identifier
  if isOneOf ["public.source-code", "public.shell-script", "public.swift-source",
      "public.python-script"] then
    some "FOCUS_WORK"
  else if isOneOf ["public.plain-text", "public.rtf", "net.daringfireball.markdown",
      "com.adobe.pdf", "public.composite-content"] then
    some "REFERENCE"
  else if isOneOf ["public.movie", "public.audio", "public.audiovisual-content"] then
    some "PASSIVE_CONSUMPTION"
  else if "public.c-".toList.isPrefixOf identifier ||
      "public.objective-c-".toList.isPrefixOf identifier then
    some "FOCUS_WORK"
  else
    none

def unambiguousDocumentTypeMajority : Nat := 7

def unambiguousDocumentTypeCategory (documentTypeIds : List String) : Option String :=
  let mapped := documentTypeIds.filterMap fun identifier =>
    categoryForDocumentType (asciiLower (trimmedLetters identifier))
  let tally := mapped.dedup.map fun category => (category, mapped.count category)
  let ranked := tally.insertionSort fun left right =>
    right.2 < left.2 ∨ (left.2 = right.2 ∧ left.1 ≤ right.1)
  match ranked.head? with
  | none => none
  | some (category, count) =>
    if mapped.length * unambiguousDocumentTypeMajority ≤ count * 10 then some category else none

def normalizedAppCategory (declared : String) : List Char :=
  let lowered := asciiLower (trimmedLetters declared)
  if "public.app-category.".toList.isPrefixOf lowered then
    lowered.drop "public.app-category.".length
  else
    lowered

def categoryForDeclaredAppCategory (declared : String) : Option String :=
  let normalized := normalizedAppCategory declared
  let isOneOf := fun texts : List String => texts.any fun text => text.toList == normalized
  if isOneOf ["developer-tools"] then some "FOCUS_WORK"
  else if isOneOf ["video", "music", "entertainment"] then some "PASSIVE_CONSUMPTION"
  else if isOneOf ["news", "books", "reference", "education"] then some "REFERENCE"
  else none

def inferredLabelForCategory (category : String) : Option String :=
  overrideLabelForCategory category

section Embedding

/-- The numbers of the embedding tier, with the operations that it uses. -/
class F32 (F : Type) where
  literal : ℚ → F
  add : F → F → F
  sub : F → F → F
  mul : F → F → F
  div : F → F → F
  sqrt : F → F
  lt : F → F → Bool
  le : F → F → Bool
  totalCmp : F → F → Ordering

variable {F : Type} [F32 F]

def sumF32 (values : List F) : F := values.foldl F32.add (F32.literal 0)

def cosineSimilarity (left right : List F) : Option F :=
  if left.length != right.length || left.isEmpty then
    none
  else
    let dot := sumF32 (List.zipWith F32.mul left right)
    let leftNorm := F32.sqrt (sumF32 (left.map fun value => F32.mul value value))
    let rightNorm := F32.sqrt (sumF32 (right.map fun value => F32.mul value value))
    if F32.lt (F32.literal 0) leftNorm && F32.lt (F32.literal 0) rightNorm then
      some (F32.div dot (F32.mul leftNorm rightNorm))
    else
      none

def rankScores (scores : List (String × F)) : List (String × F) :=
  scores.insertionSort fun left right =>
    ((F32.totalCmp right.2 left.2).then (compare left.1 right.1)) ≠ .gt

structure PersonalSemanticPrototype (F : Type) where
  category : String
  embedding : List F
  weight : F

/-- The tier with its seed sketches, and what the learning store answers for the user's own. -/
structure EmbeddingSimilarityPlugin (F : Type) where
  prototypes : List (String × List (List F))
  threshold : F
  personalPrototypes : Option (List (PersonalSemanticPrototype F))

namespace EmbeddingSimilarityPlugin

variable (plugin : EmbeddingSimilarityPlugin F)

def rankedPersonal (embedding : List F) : List (String × F) :=
  rankScores ((plugin.personalPrototypes.getD []).filterMap fun prototype =>
    (cosineSimilarity embedding prototype.embedding).map fun score =>
      (prototype.category, F32.mul score prototype.weight))

/-- The verdict of the sketches that the user's corrections taught. -/
def classifyPersonal (embedding : List F) : Option ClassificationResult :=
  let ranked := plugin.rankedPersonal embedding
  match ranked.head? with
  | none => none
  | some (category, score) =>
    if F32.lt score (F32.literal (90 / 100)) then
      none
    else if ((ranked.find? fun other => other.1 != category).any fun other =>
        F32.lt (F32.sub score other.2) (F32.literal (8 / 100))) then
      some (.withQuality "unlogged" "UNLOGGED" .embeddingSimilarity .ambiguous .low .userRule)
    else
      (inferredLabelForCategory category).map fun label =>
        .withQuality label category .embeddingSimilarity .classified .high .userRule

/-- `max_by(f32::total_cmp)`: of several greatest scores the last. -/
def greatest : List F → Option F
  | [] => none
  | first :: others =>
    some (others.foldl (fun best score =>
      if F32.totalCmp best score = .gt then best else score) first)

def ranked (embedding : List F) : List (String × F) :=
  rankScores (plugin.prototypes.filterMap fun entry =>
    (greatest (entry.2.filterMap (cosineSimilarity embedding))).map fun score => (entry.1, score))

def classifyCurated (embedding : List F) : Option ClassificationResult :=
  match plugin.ranked embedding with
  | [] => none
  | (category, similarity) :: others =>
    if F32.lt similarity plugin.threshold then
      none
    else if (others.head?.any fun runnerUp =>
        F32.lt (F32.sub similarity runnerUp.2) (F32.literal (5 / 100))) then
      some (.withQuality "unlogged" "UNLOGGED" .embeddingSimilarity .ambiguous .low .embedding)
    else
      (inferredLabelForCategory category).map fun label =>
        .withQuality label category .embeddingSimilarity .classified
          (if F32.le (F32.literal (9 / 10)) similarity then .high else .medium) .embedding

/-- The tier's answer on the sketch of the input, which it has unless the inference failed. -/
def classify (embedding : Option (List F)) : Option ClassificationResult :=
  match embedding with
  | none => none
  | some embedding =>
    (plugin.classifyPersonal embedding).or (plugin.classifyCurated embedding)

end EmbeddingSimilarityPlugin

end Embedding

/-- The curated tables of the built-in plugins. -/
structure BuiltinTables where
  siteSeeds : List SiteSeed
  seedBundles : List SeedBundle
  seedApplications : List SeedApplication
  browserContextRules : List PurposeRule
  purposeRules : List PurposeRule
  defaultCategory : String

/-- What the engine hands every plugin. -/
structure PluginInput where
  appName : String
  classifierContext : String
  declared : DeclaredMetadata

/-- `classifier_context`: the site in front of the title. -/
def RawEvent.classifierContext (event : RawEvent) : String :=
  match event.focusedSite with
  | some site => if event.windowTitle.isEmpty then site else site ++ " " ++ event.windowTitle
  | none => event.windowTitle

def RawEvent.pluginInput (event : RawEvent) : PluginInput where
  appName := event.appName
  classifierContext := event.classifierContext
  declared :=
    { bundleId := event.bundleId
      declaredAppCategory := event.declaredAppCategory
      documentTypeIds := event.documentTypeIds
      site := event.focusedSite.filter fun _ => isBrowserApp event.appName }

def hasReadableSite (input : PluginInput) : Bool :=
  isBrowserApp input.appName && (input.declared.site.bind siteIdentity).isSome

namespace BuiltinTables

variable (tables : BuiltinTables) (input : PluginInput)

def browserContextVerdict : Option ClassificationResult :=
  classifyMatchingRules (normalizeClassifierInput input.appName input.classifierContext)
    tables.browserContextRules

def siteSeedPlugin : Option ClassificationResult :=
  if !isBrowserApp input.appName then
    none
  else
    match (input.declared.site.bind siteIdentity).bind (lookupSite tables.siteSeeds) with
    | none => none
    | some seed =>
      let refined := (tables.browserContextVerdict input).filter fun refined =>
        refined.status == .classified && refined.category == seed.category &&
          refinesSeedLabel seed.label refined.label
      some (.ofTier ((refined.map (·.label)).getD seed.label) seed.category .exactMatch)

/-- The keyword rules for a browser window whose site cannot be read. -/
def browserContextPlugin : Option ClassificationResult :=
  if hasReadableSite input then none
  else if !isBrowserApp input.appName then none
  else tables.browserContextVerdict input

/-- The bundle identifier; of two entries under one identifier the later stands in the map. -/
def bundleSeedPlugin : Option ClassificationResult :=
  if isBrowserApp input.appName then
    none
  else
    match input.declared.bundleId with
    | none => none
    | some bundleId =>
      (tables.seedBundles.reverse.find? fun entry =>
        asciiLower (trimmedLetters entry.bundleIdentifier) ==
          asciiLower (trimmedLetters bundleId)).map fun entry =>
        .ofTier entry.label entry.category .exactMatch

/-- The localized name.  No pattern that names a browser is looked at; a browser's name is. -/
def seedDictionaryPlugin : Option ClassificationResult :=
  (tables.seedApplications.find? fun entry =>
    !isBrowserApp entry.appNamePattern && patternMatches entry.appNamePattern input.appName).map
    fun entry => .ofTier entry.label entry.category .exactMatch

def localPurposeHeuristicPlugin : Option ClassificationResult :=
  if hasReadableSite input then none
  else
    classifyMatchingRules (normalizeClassifierInput input.appName input.classifierContext)
      tables.purposeRules

def documentTypePlugin : Option ClassificationResult :=
  if isBrowserApp input.appName then none
  else
    (unambiguousDocumentTypeCategory input.declared.documentTypeIds).bind fun category =>
      (inferredLabelForCategory category).map fun label =>
        .withQuality label category .localPurposeHeuristic .classified .medium
          .declaredDocumentTypes

def declaredCategoryPlugin : Option ClassificationResult :=
  if isBrowserApp input.appName then none
  else
    (input.declared.declaredAppCategory.bind categoryForDeclaredAppCategory).bind fun category =>
      (inferredLabelForCategory category).map fun label =>
        .withQuality label category .localPurposeHeuristic .classified .medium .declaredAppCategory

def siteInferencePlugin : Option ClassificationResult :=
  if !isBrowserApp input.appName then
    none
  else
    match input.declared.site.bind siteIdentity with
    | none => none
    | some site =>
      if (lookupSite tables.siteSeeds site).isSome then
        none
      else
        (inferredSiteCategory site).bind fun category =>
          (inferredLabelForCategory category).map fun label =>
            .withQuality label category .localPurposeHeuristic .classified .medium .heuristic

def genericBrowserPriorPlugin : Option ClassificationResult :=
  if isBrowserApp input.appName then
    some (.withQuality "reference:browser" "REFERENCE" .fallback .ambiguous .low .fallback)
  else
    none

def unloggedFallbackPlugin : Option ClassificationResult :=
  some (.ofTier "unlogged" tables.defaultCategory .fallback)

variable {F : Type} [F32 F]

/-- `register_builtin_plugins_with_embedding`: what each plugin answers, in the order of their
registration. -/
def pluginAnswers (embedding : Option (EmbeddingSimilarityPlugin F)) (sketch : Option (List F)) :
    List (Option ClassificationResult) :=
  [tables.siteSeedPlugin input, tables.browserContextPlugin input, tables.bundleSeedPlugin input,
    tables.seedDictionaryPlugin input, tables.localPurposeHeuristicPlugin input,
    documentTypePlugin input, declaredCategoryPlugin input, tables.siteInferencePlugin input] ++
    (embedding.map fun plugin => plugin.classify sketch).toList ++
    [genericBrowserPriorPlugin input, tables.unloggedFallbackPlugin]

/-- `process` without a rule of the user: the first answer wins. -/
def classifyByPlugins (embedding : Option (EmbeddingSimilarityPlugin F))
    (sketch : Option (List F)) : Option ClassificationResult :=
  (tables.pluginAnswers input embedding sketch).findSome? id

end BuiltinTables

end Velvt.Rules
