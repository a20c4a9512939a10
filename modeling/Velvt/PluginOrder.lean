import Velvt.ClassifierPlugins

/-!
# Registration order and explicit arbitration

The engine takes the first plugin that answers; `precedence` ranks the answers.
-/

namespace Velvt.Rules

open List

/-- No answer ranks above a rank. -/
def AllBelow (rank : Nat) (answers : List (Option ClassificationResult)) : Prop :=
  ∀ answer ∈ answers, ∀ result ∈ answer, result.precedence ≤ rank

/-- The first plugin that answers ranks at least as high as every later one. -/
def OrderAgrees (answers : List (Option ClassificationResult)) : Prop :=
  ∀ before first after, answers = before ++ some first :: after → (∀ answer ∈ before, answer = none) →
    AllBelow first.precedence after

section Order

variable {rank : Nat} {answer : Option ClassificationResult}
  {answers : List (Option ClassificationResult)}

theorem allBelow_cons : AllBelow rank (answer :: answers) ↔
      (∀ result ∈ answer, result.precedence ≤ rank) ∧ AllBelow rank answers := by
  simp [AllBelow]

theorem AllBelow.mono {higher : Nat} (below : AllBelow rank answers) (le : rank ≤ higher) :
    AllBelow higher answers :=
  fun answer member result held => (below answer member result held).trans le

theorem orderAgrees_none : OrderAgrees (none :: answers) ↔ OrderAgrees answers := by
  constructor
  · rintro agrees before first after rfl silent
    exact agrees (none :: before) first after rfl (by simpa using silent)
  · intro agrees before first after split silent
    cases before with
    | nil => cases split
    | cons answer before =>
      obtain ⟨rfl, rest⟩ := cons_eq_cons.mp split
      exact agrees before first after rest fun other member =>
        silent other (mem_cons_of_mem _ member)

theorem orderAgrees_some {first : ClassificationResult} :
    OrderAgrees (some first :: answers) ↔ AllBelow first.precedence answers := by
  constructor
  · intro agrees
    exact agrees [] first answers rfl (by simp)
  · intro below before other after split silent
    cases before with
    | nil =>
      obtain ⟨same, rfl⟩ := cons_eq_cons.mp split
      rwa [Option.some.inj same] at below
    | cons answer before =>
      obtain ⟨rfl, -⟩ := cons_eq_cons.mp split
      cases silent _ mem_cons_self

theorem OrderAgrees.le_of_append {before : List (Option ClassificationResult)}
    (agrees : OrderAgrees (before ++ answers)) (below : AllBelow rank before)
    (answered : ∃ answer ∈ before, answer ≠ none) : AllBelow rank answers := by
  induction before with
  | nil => simp at answered
  | cons answer before ih =>
    obtain ⟨first, rest⟩ := allBelow_cons.mp below
    cases answer with
    | none =>
      refine ih (orderAgrees_none.mp agrees) rest ?_
      simpa using answered
    | some result =>
      have later := orderAgrees_some.mp agrees
      have below : AllBelow result.precedence answers := fun answer member =>
        later answer (mem_append_right before member)
      exact below.mono (first result rfl)

theorem OrderAgrees.append {late : List (Option ClassificationResult)}
    (agrees : OrderAgrees answers) (later : OrderAgrees late)
    (lower : ∀ answer ∈ answers, ∀ result ∈ answer, AllBelow result.precedence late) :
    OrderAgrees (answers ++ late) := by
  induction answers with
  | nil => exact later
  | cons answer answers ih =>
    cases answer with
    | none =>
      refine orderAgrees_none.mpr (ih (orderAgrees_none.mp agrees) ?_)
      exact fun answer member => lower answer (mem_cons_of_mem _ member)
    | some result =>
      refine orderAgrees_some.mpr fun answer member => ?_
      rcases mem_append.mp member with front | behind
      · exact orderAgrees_some.mp agrees answer front
      · exact lower (some result) mem_cons_self result rfl answer behind

end Order

section Ranks

variable {tables : BuiltinTables} {input : PluginInput} {result : ClassificationResult}

theorem precedence_of_matchingRules {haystack : List Char} {rules : List PurposeRule}
    (answered : classifyMatchingRules haystack rules = some result) : result.precedence = 6 := by
  unfold classifyMatchingRules at answered
  split at answered
  · cases answered
  · split at answered
    · cases answered
      rfl
    · cases answered
      rfl

theorem matchingRules_isSome_iff {haystack : List Char} {rules : List PurposeRule} :
    classifyMatchingRules haystack rules ≠ none ↔
      ∃ rule ∈ rules, rule.matchesText haystack = true := by
  unfold classifyMatchingRules
  cases matching : rules.filter fun rule => rule.matchesText haystack with
  | nil => simpa using filter_eq_nil_iff.mp matching
  | cons first others =>
    have member : first ∈ rules.filter fun rule => rule.matchesText haystack := by
      simp [matching]
    obtain ⟨held, matched⟩ := mem_filter.mp member
    refine iff_of_true ?_ ⟨first, held, matched⟩
    dsimp only
    split <;> simp

theorem precedence_of_siteSeed (answered : tables.siteSeedPlugin input = some result) :
    result.precedence = 7 ∧ hasReadableSite input = true := by
  unfold BuiltinTables.siteSeedPlugin at answered
  split at answered
  · cases answered
  · rename_i browser
    split at answered
    · cases answered
    · rename_i seed found
      cases answered
      obtain ⟨site, readable, -⟩ := Option.bind_eq_some_iff.mp found
      refine ⟨rfl, ?_⟩
      simp only [Bool.not_eq_true, Bool.not_eq_false'] at browser
      simp [hasReadableSite, browser, readable]

theorem precedence_of_browserContext (answered : tables.browserContextPlugin input = some result) :
    result.precedence = 6 ∧ hasReadableSite input = false ∧ isBrowserApp input.appName = true := by
  unfold BuiltinTables.browserContextPlugin at answered
  split at answered
  · cases answered
  · rename_i unreadable
    split at answered
    · cases answered
    · rename_i browser
      exact ⟨precedence_of_matchingRules answered, by simpa using unreadable, by simpa using browser⟩

theorem precedence_of_bundleSeed (answered : tables.bundleSeedPlugin input = some result) :
    result.precedence = 7 ∧ isBrowserApp input.appName = false := by
  unfold BuiltinTables.bundleSeedPlugin at answered
  split at answered
  · cases answered
  · rename_i foreign
    split at answered
    · cases answered
    · obtain ⟨entry, -, rfl⟩ := Option.map_eq_some_iff.mp answered
      exact ⟨rfl, by simpa using foreign⟩

theorem precedence_of_seedDictionary (answered : tables.seedDictionaryPlugin input = some result) :
    result.precedence = 7 := by
  obtain ⟨entry, -, rfl⟩ := Option.map_eq_some_iff.mp answered
  rfl

theorem precedence_of_localPurpose
    (answered : tables.localPurposeHeuristicPlugin input = some result) :
    result.precedence = 6 ∧ hasReadableSite input = false := by
  unfold BuiltinTables.localPurposeHeuristicPlugin at answered
  split at answered
  · cases answered
  · rename_i unreadable
    exact ⟨precedence_of_matchingRules answered, by simpa using unreadable⟩

theorem precedence_of_documentType
    (answered : BuiltinTables.documentTypePlugin input = some result) :
    result.precedence = 5 ∧ isBrowserApp input.appName = false := by
  unfold BuiltinTables.documentTypePlugin at answered
  split at answered
  · cases answered
  · rename_i foreign
    obtain ⟨category, -, labelled⟩ := Option.bind_eq_some_iff.mp answered
    obtain ⟨label, -, rfl⟩ := Option.map_eq_some_iff.mp labelled
    exact ⟨rfl, by simpa using foreign⟩

theorem precedence_of_declaredCategory
    (answered : BuiltinTables.declaredCategoryPlugin input = some result) :
    result.precedence = 4 ∧ isBrowserApp input.appName = false := by
  unfold BuiltinTables.declaredCategoryPlugin at answered
  split at answered
  · cases answered
  · rename_i foreign
    obtain ⟨category, -, labelled⟩ := Option.bind_eq_some_iff.mp answered
    obtain ⟨label, -, rfl⟩ := Option.map_eq_some_iff.mp labelled
    exact ⟨rfl, by simpa using foreign⟩

theorem precedence_of_siteInference (answered : tables.siteInferencePlugin input = some result) :
    result.precedence = 6 ∧ hasReadableSite input = true := by
  unfold BuiltinTables.siteInferencePlugin at answered
  split at answered
  · cases answered
  · rename_i browser
    split at answered
    · cases answered
    · rename_i site readable
      split at answered
      · cases answered
      · obtain ⟨category, -, labelled⟩ := Option.bind_eq_some_iff.mp answered
        obtain ⟨label, -, rfl⟩ := Option.map_eq_some_iff.mp labelled
        refine ⟨rfl, ?_⟩
        simp only [Bool.not_eq_true, Bool.not_eq_false'] at browser
        simp [hasReadableSite, browser, readable]

theorem precedence_of_genericBrowserPrior
    (answered : BuiltinTables.genericBrowserPriorPlugin input = some result) :
    result.precedence = 2 := by
  unfold BuiltinTables.genericBrowserPriorPlugin at answered
  split at answered
  · cases answered
    rfl
  · cases answered

theorem precedence_of_fallback (answered : tables.unloggedFallbackPlugin = some result) :
    result.precedence = 1 := by
  cases answered
  rfl

end Ranks

section Embedding

variable {F : Type} [F32 F] {plugin : EmbeddingSimilarityPlugin F} {sketch : List F}
  {result : ClassificationResult}

theorem precedence_of_personal (answered : plugin.classifyPersonal sketch = some result) :
    result.precedence = 8 := by
  simp only [EmbeddingSimilarityPlugin.classifyPersonal] at answered
  split at answered
  · cases answered
  · split at answered
    · cases answered
    · split at answered
      · cases answered
        rfl
      · obtain ⟨label, -, rfl⟩ := Option.map_eq_some_iff.mp answered
        rfl

theorem precedence_of_embedding (silent : plugin.classifyPersonal sketch = none)
    (answered : plugin.classify (some sketch) = some result) : result.precedence = 3 := by
  simp only [EmbeddingSimilarityPlugin.classify, silent, Option.none_or,
    EmbeddingSimilarityPlugin.classifyCurated] at answered
  split at answered
  · cases answered
  · split at answered
    · cases answered
    · split at answered
      · cases answered
        rfl
      · obtain ⟨label, -, rfl⟩ := Option.map_eq_some_iff.mp answered
        rfl

/-- The user's own sketches settle the event: the nearest category is near enough, and either
another category is nearly as near or the category has a label. -/
def PersonalVerdict (plugin : EmbeddingSimilarityPlugin F) (sketch : List F) : Prop :=
  ∃ category score, (plugin.rankedPersonal sketch).head? = some (category, score) ∧
    F32.lt score (F32.literal (90 / 100)) = false ∧
    ((∃ other, ((plugin.rankedPersonal sketch).find? fun entry => entry.1 != category) = some other ∧
        F32.lt (F32.sub score other.2) (F32.literal (8 / 100)) = true) ∨
      (inferredLabelForCategory category).isSome)

theorem personal_isSome_iff :
    plugin.classifyPersonal sketch ≠ none ↔ PersonalVerdict plugin sketch := by
  simp only [EmbeddingSimilarityPlugin.classifyPersonal, PersonalVerdict]
  cases leads : (plugin.rankedPersonal sketch).head? with
  | none => simp
  | some leader =>
    obtain ⟨category, score⟩ := leader
    dsimp only
    split
    · rename_i low
      simp [low]
    · rename_i near
      split
      · rename_i tied
        obtain ⟨other, found, close⟩ := (Option.any_eq_true _ _).mp tied
        exact iff_of_true (by simp)
          ⟨category, score, rfl, by simpa using near, Or.inl ⟨other, found, close⟩⟩
      · rename_i clear
        constructor
        · intro labelled
          refine ⟨category, score, rfl, by simpa using near, Or.inr ?_⟩
          simpa [Option.isSome_iff_ne_none] using labelled
        · rintro ⟨_, _, same, -, ⟨other, found, close⟩ | labelled⟩
          · cases same
            exact absurd ((Option.any_eq_true _ _).mpr ⟨other, found, close⟩) clear
          · cases same
            simpa [Option.isSome_iff_ne_none] using labelled

end Embedding

section Tables

variable (tables : BuiltinTables) (input : PluginInput)

/-- A browser window that shows no site speaks of an activity through its title. -/
def BrowserTitleMatches : Prop :=
  isBrowserApp input.appName = true ∧ hasReadableSite input = false ∧
    ∃ rule ∈ tables.browserContextRules,
      rule.matchesText (normalizeClassifierInput input.appName input.classifierContext) = true

/-- A curated application covers the localized name. -/
def NameIsCurated : Prop :=
  ∃ entry ∈ tables.seedApplications, isBrowserApp entry.appNamePattern = false ∧
    patternMatches entry.appNamePattern input.appName = true

def SiteIsCurated : Prop :=
  isBrowserApp input.appName = true ∧
    ∃ site, input.declared.site.bind siteIdentity = some site ∧
      (lookupSite tables.siteSeeds site).isSome

def SiteIsInferred : Prop :=
  isBrowserApp input.appName = true ∧
    ∃ site, input.declared.site.bind siteIdentity = some site ∧
      lookupSite tables.siteSeeds site = none ∧
      ((inferredSiteCategory site).bind inferredLabelForCategory).isSome

def BundleIsCurated : Prop :=
  isBrowserApp input.appName = false ∧
    ∃ bundleId, input.declared.bundleId = some bundleId ∧
      ∃ entry ∈ tables.seedBundles,
        asciiLower (trimmedLetters entry.bundleIdentifier) = asciiLower (trimmedLetters bundleId)

def TextMatches : Prop :=
  hasReadableSite input = false ∧
    ∃ rule ∈ tables.purposeRules,
      rule.matchesText (normalizeClassifierInput input.appName input.classifierContext) = true

/-- What a native application declares about itself names a category. -/
def DeclarationNames : Prop :=
  isBrowserApp input.appName = false ∧
    (((unambiguousDocumentTypeCategory input.declared.documentTypeIds).bind
        inferredLabelForCategory).isSome ∨
      ((input.declared.declaredAppCategory.bind categoryForDeclaredAppCategory).bind
        inferredLabelForCategory).isSome)

/-- One of the tiers before the embedding recognizes the event. -/
def RecognizedByTables : Prop :=
  SiteIsCurated tables input ∨ BrowserTitleMatches tables input ∨ BundleIsCurated tables input ∨
    NameIsCurated tables input ∨ TextMatches tables input ∨ DeclarationNames input ∨
    SiteIsInferred tables input

variable {tables input}

theorem browserContext_isSome_iff :
    tables.browserContextPlugin input ≠ none ↔ BrowserTitleMatches tables input := by
  unfold BuiltinTables.browserContextPlugin BrowserTitleMatches
  split
  · rename_i readable
    simp [readable]
  · rename_i unreadable
    split
    · rename_i foreign
      simp_all
    · rename_i browser
      rw [BuiltinTables.browserContextVerdict, matchingRules_isSome_iff]
      simp_all

theorem seedDictionary_isSome_iff :
    tables.seedDictionaryPlugin input ≠ none ↔ NameIsCurated tables input := by
  unfold BuiltinTables.seedDictionaryPlugin NameIsCurated
  rw [ne_eq, Option.map_eq_none_iff, ← ne_eq, ← Option.isSome_iff_ne_none, List.find?_isSome]
  simp only [Bool.and_eq_true, Bool.not_eq_true']

theorem siteSeed_isSome_iff :
    tables.siteSeedPlugin input ≠ none ↔ SiteIsCurated tables input := by
  unfold BuiltinTables.siteSeedPlugin SiteIsCurated
  split
  · rename_i foreign
    simp_all
  · rename_i browser
    simp only [Bool.not_eq_true, Bool.not_eq_false'] at browser
    cases readable : input.declared.site.bind siteIdentity with
    | none => simp
    | some site =>
      cases found : lookupSite tables.siteSeeds site with
      | none => simp [found]
      | some seed => simp [found, browser]

theorem bundleSeed_isSome_iff :
    tables.bundleSeedPlugin input ≠ none ↔ BundleIsCurated tables input := by
  unfold BuiltinTables.bundleSeedPlugin BundleIsCurated
  split
  · rename_i browser
    simp [browser]
  · rename_i foreign
    simp only [Bool.not_eq_true] at foreign
    cases input.declared.bundleId with
    | none => simp
    | some bundleId =>
      dsimp only
      rw [ne_eq, Option.map_eq_none_iff, ← ne_eq, ← Option.isSome_iff_ne_none, List.find?_isSome]
      simp [foreign]

theorem localPurpose_isSome_iff :
    tables.localPurposeHeuristicPlugin input ≠ none ↔ TextMatches tables input := by
  unfold BuiltinTables.localPurposeHeuristicPlugin TextMatches
  split
  · rename_i readable
    simp [readable]
  · rename_i unreadable
    rw [matchingRules_isSome_iff]
    simp_all

theorem declaration_isSome_iff : BuiltinTables.documentTypePlugin input ≠ none ∨
        BuiltinTables.declaredCategoryPlugin input ≠ none ↔
      DeclarationNames input := by
  unfold BuiltinTables.documentTypePlugin BuiltinTables.declaredCategoryPlugin DeclarationNames
  split
  · rename_i browser
    simp [browser]
  · rename_i foreign
    simp only [Bool.not_eq_true] at foreign
    simp [foreign, Option.isSome_iff_ne_none, Option.bind_eq_none_iff]

theorem siteInference_isSome_iff :
    tables.siteInferencePlugin input ≠ none ↔ SiteIsInferred tables input := by
  unfold BuiltinTables.siteInferencePlugin SiteIsInferred
  split
  · rename_i foreign
    simp_all
  · rename_i browser
    simp only [Bool.not_eq_true, Bool.not_eq_false'] at browser
    cases readable : input.declared.site.bind siteIdentity with
    | none => simp
    | some site =>
      cases found : lookupSite tables.siteSeeds site with
      | none =>
        simp [found, browser, Option.isSome_iff_ne_none, Option.bind_eq_none_iff]
      | some seed => simp [found]

def tableAnswers (tables : BuiltinTables) (input : PluginInput) :
    List (Option ClassificationResult) :=
  [tables.siteSeedPlugin input, tables.browserContextPlugin input, tables.bundleSeedPlugin input,
    tables.seedDictionaryPlugin input, tables.localPurposeHeuristicPlugin input,
    BuiltinTables.documentTypePlugin input, BuiltinTables.declaredCategoryPlugin input,
    tables.siteInferencePlugin input]

theorem table_answered_iff :
    (∃ answer ∈ tableAnswers tables input, answer ≠ none) ↔ RecognizedByTables tables input := by
  unfold RecognizedByTables
  rw [← siteSeed_isSome_iff, ← browserContext_isSome_iff, ← bundleSeed_isSome_iff,
    ← seedDictionary_isSome_iff, ← localPurpose_isSome_iff, ← declaration_isSome_iff,
    ← siteInference_isSome_iff]
  simp only [tableAnswers, mem_cons, not_mem_nil, or_false, exists_eq_or_imp,
    exists_eq_left, or_assoc]

theorem tableAnswers_rank : ∀ answer ∈ tableAnswers tables input, ∀ result ∈ answer,
      4 ≤ result.precedence ∧ result.precedence ≤ 7 := by
  simp only [tableAnswers, forall_mem_cons, not_mem_nil, false_implies, implies_true, and_true]
  refine ⟨?_, ?_, ?_, ?_, ?_, ?_, ?_, ?_⟩ <;> intro result answered
  · simp [(precedence_of_siteSeed answered).1]
  · simp [(precedence_of_browserContext answered).1]
  · simp [(precedence_of_bundleSeed answered).1]
  · simp [precedence_of_seedDictionary answered]
  · simp [(precedence_of_localPurpose answered).1]
  · simp [(precedence_of_documentType answered).1]
  · simp [(precedence_of_declaredCategory answered).1]
  · simp [(precedence_of_siteInference answered).1]

theorem siteInference_foreign (foreign : isBrowserApp input.appName = false) :
    tables.siteInferencePlugin input = none := by
  unfold BuiltinTables.siteInferencePlugin
  simp [foreign]

theorem declarations_agree :
    OrderAgrees [BuiltinTables.documentTypePlugin input, BuiltinTables.declaredCategoryPlugin input,
      tables.siteInferencePlugin input] := by
  have alone : ∀ answer : Option ClassificationResult, OrderAgrees [answer] := by
    intro answer
    cases answer with
    | none => exact orderAgrees_none.mpr (by simp [OrderAgrees])
    | some result => exact orderAgrees_some.mpr (by simp [AllBelow])
  cases document : BuiltinTables.documentTypePlugin input with
  | some result =>
    obtain ⟨rank, foreign⟩ := precedence_of_documentType document
    rw [orderAgrees_some, rank, siteInference_foreign foreign]
    simp only [allBelow_cons]
    refine ⟨?_, by simp, by simp [AllBelow]⟩
    exact fun other answered => (precedence_of_declaredCategory answered).1.le.trans (by decide)
  | none =>
    rw [orderAgrees_none]
    cases declared : BuiltinTables.declaredCategoryPlugin input with
    | some result =>
      rw [siteInference_foreign (precedence_of_declaredCategory declared).2]
      exact orderAgrees_some.mpr (by simp [AllBelow])
    | none => exact orderAgrees_none.mpr (alone _)

/-- Without a title of a browser and a curated name at once, order does not matter. -/
theorem tableAnswers_agree
    (apart : ¬(BrowserTitleMatches tables input ∧ NameIsCurated tables input)) :
    OrderAgrees (tableAnswers tables input) := by
  have seeded : AllBelow 7 (tableAnswers tables input) := fun answer member result held =>
    (tableAnswers_rank answer member result held).2
  simp only [tableAnswers, allBelow_cons] at seeded ⊢
  obtain ⟨-, afterSite⟩ := seeded
  have afterBundle := afterSite.2.2
  have afterName := afterBundle.2
  -- Behind the keyword rules stand the declared tiers and the inferred site alone.
  have documentType : ∀ result ∈ BuiltinTables.documentTypePlugin input, result.precedence ≤ 5 :=
    fun result answered => (precedence_of_documentType answered).1.le
  have declared : ∀ result ∈ BuiltinTables.declaredCategoryPlugin input, result.precedence ≤ 4 :=
    fun result answered => (precedence_of_declaredCategory answered).1.le
  have inferred : ∀ result ∈ tables.siteInferencePlugin input, result.precedence ≤ 6 :=
    fun result answered => (precedence_of_siteInference answered).1.le
  have noneBelow : ∀ rank, AllBelow rank [] := fun rank => by simp [AllBelow]
  cases site : tables.siteSeedPlugin input with
  | some result =>
    rw [orderAgrees_some, (precedence_of_siteSeed site).1]
    simpa only [allBelow_cons] using afterSite
  | none =>
    rw [orderAgrees_none]
    cases context : tables.browserContextPlugin input with
    | some result =>
      obtain ⟨rank, unreadable, browser⟩ := precedence_of_browserContext context
      rw [orderAgrees_some, rank]
      simp only [allBelow_cons]
      refine ⟨?_, ?_, ?_, ?_, ?_, inferred, noneBelow 6⟩
      · intro other answered
        simp [(precedence_of_bundleSeed answered).2] at browser
      · intro other answered
        refine absurd ⟨?_, ?_⟩ apart
        · exact browserContext_isSome_iff.mp (by simp [context])
        · exact seedDictionary_isSome_iff.mp
            (by rw [Option.mem_def.mp answered]; exact Option.some_ne_none other)
      · exact fun other answered => (precedence_of_localPurpose answered).1.le
      · exact fun other answered => (documentType other answered).trans (by decide)
      · exact fun other answered => (declared other answered).trans (by decide)
    | none =>
      rw [orderAgrees_none]
      cases bundle : tables.bundleSeedPlugin input with
      | some result =>
        rw [orderAgrees_some, (precedence_of_bundleSeed bundle).1]
        simpa only [allBelow_cons] using afterBundle
      | none =>
        rw [orderAgrees_none]
        cases name : tables.seedDictionaryPlugin input with
        | some result =>
          rw [orderAgrees_some, precedence_of_seedDictionary name]
          simpa only [allBelow_cons] using afterName
        | none =>
          rw [orderAgrees_none]
          cases purpose : tables.localPurposeHeuristicPlugin input with
          | some result =>
            rw [orderAgrees_some, (precedence_of_localPurpose purpose).1]
            simp only [allBelow_cons]
            refine ⟨?_, ?_, inferred, noneBelow 6⟩
            · exact fun other answered => (documentType other answered).trans (by decide)
            · exact fun other answered => (declared other answered).trans (by decide)
          | none =>
            rw [orderAgrees_none]
            exact declarations_agree

end Tables

section Arbitration

variable {F : Type} [F32 F] {tables : BuiltinTables} {input : PluginInput}
  {embedding : Option (EmbeddingSimilarityPlugin F)} {sketch : Option (List F)}

def lateAnswers (tables : BuiltinTables) (input : PluginInput)
    (embedding : Option (EmbeddingSimilarityPlugin F)) (sketch : Option (List F)) :
    List (Option ClassificationResult) :=
  (embedding.map fun plugin => plugin.classify sketch).toList ++
    [BuiltinTables.genericBrowserPriorPlugin input, tables.unloggedFallbackPlugin]

theorem pluginAnswers_eq : tables.pluginAnswers input embedding sketch =
      tableAnswers tables input ++ lateAnswers tables input embedding sketch := by
  simp [BuiltinTables.pluginAnswers, tableAnswers, lateAnswers]

/-- The user's own sketches settle the event in an engine that has the embedding tier. -/
def SettledPersonally (embedding : Option (EmbeddingSimilarityPlugin F))
    (sketch : Option (List F)) : Prop :=
  ∃ plugin ∈ embedding, ∃ values ∈ sketch, PersonalVerdict plugin values

theorem priors_agree :
    OrderAgrees [BuiltinTables.genericBrowserPriorPlugin input, tables.unloggedFallbackPlugin] ∧
      AllBelow 2 [BuiltinTables.genericBrowserPriorPlugin input, tables.unloggedFallbackPlugin] := by
  have fallback : ∀ rank, 1 ≤ rank → AllBelow rank [tables.unloggedFallbackPlugin] := by
    intro rank least
    rw [allBelow_cons]
    exact ⟨fun result answered => (precedence_of_fallback answered).le.trans least,
      by simp [AllBelow]⟩
  constructor
  · cases prior : BuiltinTables.genericBrowserPriorPlugin input with
    | some result =>
      rw [orderAgrees_some, precedence_of_genericBrowserPrior prior]
      exact fallback 2 (by decide)
    | none =>
      rw [orderAgrees_none, BuiltinTables.unloggedFallbackPlugin]
      exact orderAgrees_some.mpr (by simp [AllBelow])
  · rw [allBelow_cons]
    exact ⟨fun result answered => (precedence_of_genericBrowserPrior answered).le,
      fallback 2 (by decide)⟩

theorem precedence_of_classify {plugin : EmbeddingSimilarityPlugin F} {result : ClassificationResult}
    (answered : plugin.classify sketch = some result) :
    result.precedence = 3 ∨
      result.precedence = 8 ∧ ∃ values ∈ sketch, PersonalVerdict plugin values := by
  cases sketched : sketch with
  | none => simp [sketched, EmbeddingSimilarityPlugin.classify] at answered
  | some values =>
    rw [sketched] at answered
    cases personal : plugin.classifyPersonal values with
    | none => exact Or.inl (precedence_of_embedding personal answered)
    | some own =>
      have same : own = result := by
        simpa [EmbeddingSimilarityPlugin.classify, personal] using answered
      refine Or.inr ⟨same ▸ precedence_of_personal personal, values, rfl, ?_⟩
      exact personal_isSome_iff.mp (by simp [personal])

theorem lateAnswers_agree : OrderAgrees (lateAnswers tables input embedding sketch) := by
  unfold lateAnswers
  cases embedding with
  | none => exact priors_agree.1
  | some plugin =>
    change OrderAgrees (plugin.classify sketch :: _)
    cases answered : plugin.classify sketch with
    | none => exact orderAgrees_none.mpr priors_agree.1
    | some result =>
      refine orderAgrees_some.mpr (priors_agree.2.mono ?_)
      rcases precedence_of_classify answered with rank | ⟨rank, -⟩ <;> simp [rank]

theorem lateAnswers_below (impersonal : ¬SettledPersonally embedding sketch) :
    AllBelow 3 (lateAnswers tables input embedding sketch) := by
  unfold lateAnswers
  cases embedding with
  | none => exact priors_agree.2.mono (by decide)
  | some plugin =>
    change AllBelow 3 (plugin.classify sketch :: _)
    refine allBelow_cons.mpr ⟨?_, priors_agree.2.mono (by decide)⟩
    intro result answered
    rcases precedence_of_classify answered with rank | ⟨-, values, held, verdict⟩
    · exact rank.le
    · exact absurd ⟨plugin, rfl, values, held, verdict⟩ impersonal

theorem not_below_of_personal (settled : SettledPersonally embedding sketch) :
    ¬AllBelow 7 (lateAnswers tables input embedding sketch) := by
  obtain ⟨plugin, rfl, values, rfl, verdict⟩ := settled
  obtain ⟨own, personal⟩ := Option.ne_none_iff_exists'.mp (personal_isSome_iff.mpr verdict)
  intro below
  have answered : plugin.classify (some values) = some own := by
    simp [EmbeddingSimilarityPlugin.classify, personal]
  have low := below (plugin.classify (some values)) (by simp [lateAnswers]) own answered
  rw [precedence_of_personal personal] at low
  exact absurd low (by decide)

theorem tables_disagree (title : BrowserTitleMatches tables input)
    (name : NameIsCurated tables input) {late : List (Option ClassificationResult)} :
    ¬OrderAgrees (tableAnswers tables input ++ late) := by
  intro agrees
  obtain ⟨context, first⟩ := Option.ne_none_iff_exists'.mp (browserContext_isSome_iff.mpr title)
  obtain ⟨seed, second⟩ := Option.ne_none_iff_exists'.mp (seedDictionary_isSome_iff.mpr name)
  have unseeded : tables.siteSeedPlugin input = none := by
    cases site : tables.siteSeedPlugin input with
    | none => rfl
    | some result =>
      have readable := (precedence_of_siteSeed site).2
      rw [title.2.1] at readable
      cases readable
  simp only [tableAnswers, unseeded, first, cons_append] at agrees
  have below := orderAgrees_some.mp (orderAgrees_none.mp agrees)
  have low := below (tables.seedDictionaryPlugin input) (by simp) seed second
  rw [precedence_of_seedDictionary second, (precedence_of_browserContext first).1] at low
  exact absurd low (by decide)

end Arbitration

section Disagreement

variable {F : Type} [F32 F]

/-- Registration order and explicit arbitration agree on every event but two kinds: an event that
a tier in front of the embedding recognizes while the user's own sketches settle it too, and a
browser window without a readable site whose title speaks for itself while a curated name covers
the browser. -/
theorem order_agrees_iff_one_source (tables : BuiltinTables)
    (embedding : Option (EmbeddingSimilarityPlugin F)) (sketch : Option (List F))
    (event : RawEvent) :
    OrderAgrees (tables.pluginAnswers event.pluginInput embedding sketch) ↔
      ¬(RecognizedByTables tables event.pluginInput ∧ SettledPersonally embedding sketch) ∧
        ¬(BrowserTitleMatches tables event.pluginInput ∧
          NameIsCurated tables event.pluginInput) := by
  rw [pluginAnswers_eq]
  constructor
  · intro agrees
    refine ⟨?_, ?_⟩
    · rintro ⟨recognized, settled⟩
      have seeded : AllBelow 7 (tableAnswers tables event.pluginInput) :=
        fun answer member result held => (tableAnswers_rank answer member result held).2
      exact not_below_of_personal settled
        (agrees.le_of_append seeded (table_answered_iff.mpr recognized))
    · rintro ⟨title, name⟩
      exact tables_disagree title name agrees
  · rintro ⟨impersonal, apart⟩
    refine (tableAnswers_agree apart).append lateAnswers_agree ?_
    intro answer member result held
    have recognized : RecognizedByTables tables event.pluginInput :=
      table_answered_iff.mp ⟨answer, member, by rw [Option.mem_def.mp held]; exact Option.some_ne_none _⟩
    have below : AllBelow 3 (lateAnswers tables event.pluginInput embedding sketch) :=
      lateAnswers_below fun settled => impersonal ⟨recognized, settled⟩
    have rank : 4 ≤ result.precedence := (tableAnswers_rank answer member result held).1
    exact below.mono (by omega)

/-- The exact numbers, with the roots of squares. -/
instance exactF32 : F32 ℚ where
  literal := id
  add := (· + ·)
  sub := (· - ·)
  mul := (· * ·)
  div := (· / ·)
  sqrt value := (value.num.toNat.sqrt : ℚ) / value.den.sqrt
  lt left right := left < right
  le left right := left ≤ right
  totalCmp := compare

def slackTables : BuiltinTables where
  siteSeeds := []
  seedBundles := []
  seedApplications := [⟨"Slack", "communication:slack", "COMMUNICATION"⟩]
  browserContextRules := []
  purposeRules := []
  defaultCategory := "UNLOGGED"

def slackEvent : RawEvent where
  eventId := "1"
  occurredAt := 0
  durationSeconds := 60
  appName := "Slack"
  windowTitle := "sprint planning"
  bundleId := none
  declaredAppCategory := none
  documentTypeIds := []
  focusedDocumentUrl := none
  inProgress := false

def taughtPlugin : EmbeddingSimilarityPlugin ℚ where
  prototypes := []
  threshold := 6 / 10
  personalPrototypes := some [⟨"TASK_MANAGEMENT", [1], 1⟩]

def taughtAnswer : ClassificationResult :=
  .withQuality "task:inferred" "TASK_MANAGEMENT" .embeddingSimilarity .classified .high .userRule

/-- The curated name answers in front of the user's own sketch, which outranks it. -/
theorem taught_sketch_comes_late :
    ¬OrderAgrees
      (slackTables.pluginAnswers slackEvent.pluginInput (some taughtPlugin) (some [1])) := by
  intro agrees
  have answers :
      slackTables.pluginAnswers slackEvent.pluginInput (some taughtPlugin) (some [1]) =
        [none, none, none, some (.ofTier "communication:slack" "COMMUNICATION" .exactMatch), none,
          none, none, none, some taughtAnswer, none,
          some (.ofTier "unlogged" "UNLOGGED" .fallback)] := by
    decide +kernel
  rw [answers] at agrees
  have below := agrees [none, none, none] _ _ rfl (by simp)
  have low := below (some taughtAnswer) (by simp) taughtAnswer rfl
  exact absurd low (by decide)

end Disagreement

end Velvt.Rules
