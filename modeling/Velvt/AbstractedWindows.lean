import Velvt.PluginOrder
import Velvt.Sha256
import Velvt.ShippedTables

/-!
# When a window is abstracted

Some built-in plugin answers for every window, and every answer passes the checks on its label and
its category.
-/

namespace Velvt.Rules

open List Option

/-- An answer that passes the checks on its label, its category and its version. -/
structure Acceptable (result : ClassificationResult) : Prop where
  shippable : IsShippable result.label result.category
  version : result.taxonomyVersion = taxonomyVersion

theorem isShippable_unlogged : IsShippable "unlogged" "UNLOGGED" := by
  decide +kernel

theorem isShippable_of_override {category label : String}
    (labelled : overrideLabelForCategory category = some label) : IsShippable label category := by
  unfold overrideLabelForCategory at labelled
  split at labelled <;> cases labelled <;> decide +kernel

theorem override_of_containsCategory {category : String}
    (known : containsCategory category = true) :
    ∃ label, overrideLabelForCategory category = some label := by
  simp only [containsCategory, contains_iff_mem, mem_cons, not_mem_nil, or_false] at known
  rcases known with rfl | rfl | rfl | rfl | rfl | rfl | rfl | rfl <;> exact ⟨_, rfl⟩

theorem acceptable_ruleResult {category label : String}
    (labelled : overrideLabelForCategory category = some label) :
    Acceptable (ruleResult label category) :=
  ⟨isShippable_of_override labelled, rfl⟩

theorem acceptable_ofTier {label category : String} {tier : ClassificationTier}
    (shippable : IsShippable label category) : Acceptable (.ofTier label category tier) :=
  ⟨shippable, rfl⟩

/-- Every answer of a plugin is one that the engine accepts. -/
def Answers (answer : Option ClassificationResult) : Prop := ∀ result ∈ answer, Acceptable result

theorem answers_inferred {category : Option String} {tier : ClassificationTier}
    {status : ClassificationStatus} {confidence : ClassificationConfidence}
    {source : ClassificationSource} :
    Answers (category.bind fun category =>
      (inferredLabelForCategory category).map fun label =>
        .withQuality label category tier status confidence source) := by
  intro result answered
  obtain ⟨category, -, answered⟩ := bind_eq_some_iff.mp answered
  obtain ⟨label, labelled, rfl⟩ := map_eq_some_iff.mp answered
  exact ⟨isShippable_of_override labelled, rfl⟩

theorem answers_none : Answers none := by
  intro result answered
  cases answered

theorem answers_some {result : ClassificationResult} (acceptable : Acceptable result) :
    Answers (some result) := by
  intro other answered
  cases answered
  exact acceptable

theorem answers_matchingRules {haystack : List Char} {rules : List PurposeRule}
    (shippable : ∀ rule ∈ rules, IsShippable rule.label rule.category) :
    Answers (classifyMatchingRules haystack rules) := by
  unfold classifyMatchingRules
  split
  · exact answers_none
  · rename_i first others matching
    split
    · exact answers_some ⟨isShippable_unlogged, rfl⟩
    · have member : first ∈ rules.filter fun rule => rule.matchesText haystack := by
        simp [matching]
      exact answers_some (acceptable_ofTier (shippable first (mem_of_mem_filter member)))

theorem mem_of_lookupSite {seeds : List SiteSeed} {site : String} {seed : SiteSeed}
    (found : lookupSite seeds site = some seed) : seed ∈ seeds := by
  obtain ⟨labels, -, held⟩ := exists_of_findSome?_eq_some found
  exact mem_of_find?_eq_some (filter_eq_some_iff.mp held).1

section Plugins

variable (tables : CuratedTables) (input : PluginInput)

theorem answers_siteSeed : Answers (tables.siteSeedPlugin input) := by
  unfold BuiltinTables.siteSeedPlugin
  split
  · exact answers_none
  · split
    · exact answers_none
    · rename_i seed found
      obtain ⟨site, -, looked⟩ := bind_eq_some_iff.mp found
      have shippable := tables.siteSeeds_shippable seed (mem_of_lookupSite looked)
      refine answers_some (acceptable_ofTier ⟨?_, shippable.2⟩)
      -- A refinement has a label of the keyword rules, and otherwise the seed has its own.
      cases refined : (tables.browserContextVerdict input).filter fun refined =>
          refined.status == .classified && refined.category == seed.category &&
            refinesSeedLabel seed.label refined.label with
      | none => exact shippable.1
      | some result =>
        have answered := (filter_eq_some_iff.mp refined).1
        exact (answers_matchingRules tables.browserContextRules_shippable result
          answered).shippable.1

theorem answers_browserContext : Answers (tables.browserContextPlugin input) := by
  unfold BuiltinTables.browserContextPlugin
  split
  · exact answers_none
  · split
    · exact answers_none
    · exact answers_matchingRules tables.browserContextRules_shippable

theorem answers_bundleSeed : Answers (tables.bundleSeedPlugin input) := by
  unfold BuiltinTables.bundleSeedPlugin
  split
  · exact answers_none
  · split
    · exact answers_none
    · intro result answered
      obtain ⟨entry, found, rfl⟩ := map_eq_some_iff.mp answered
      have member := mem_reverse.mp (mem_of_find?_eq_some found)
      exact acceptable_ofTier (tables.seedBundles_shippable entry member)

theorem answers_seedDictionary : Answers (tables.seedDictionaryPlugin input) := by
  intro result answered
  obtain ⟨entry, found, rfl⟩ := map_eq_some_iff.mp answered
  have member := mem_of_find?_eq_some found
  exact acceptable_ofTier (tables.seedApplications_shippable entry member)

theorem answers_localPurpose : Answers (tables.localPurposeHeuristicPlugin input) := by
  unfold BuiltinTables.localPurposeHeuristicPlugin
  split
  · exact answers_none
  · exact answers_matchingRules tables.purposeRules_shippable

theorem answers_documentType : Answers (BuiltinTables.documentTypePlugin input) := by
  unfold BuiltinTables.documentTypePlugin
  split
  · exact answers_none
  · exact answers_inferred

theorem answers_declaredCategory : Answers (BuiltinTables.declaredCategoryPlugin input) := by
  unfold BuiltinTables.declaredCategoryPlugin
  split
  · exact answers_none
  · exact answers_inferred

theorem answers_siteInference : Answers (tables.siteInferencePlugin input) := by
  unfold BuiltinTables.siteInferencePlugin
  split
  · exact answers_none
  · split
    · exact answers_none
    · split
      · exact answers_none
      · exact answers_inferred

theorem answers_genericBrowserPrior : Answers (BuiltinTables.genericBrowserPriorPlugin input) := by
  unfold BuiltinTables.genericBrowserPriorPlugin
  split
  · apply answers_some
    exact ⟨by decide +kernel, rfl⟩
  · exact answers_none

theorem acceptable_fallback :
    Acceptable (.ofTier "unlogged" tables.defaultCategory .fallback) :=
  acceptable_ofTier ⟨isShippable_unlogged.1, tables.defaultCategory_known⟩

variable {F : Type} [F32 F]

theorem answers_embedding (plugin : EmbeddingSimilarityPlugin F) (sketch : Option (List F)) :
    Answers (plugin.classify sketch) := by
  have labelled {category : String} {confidence : ClassificationConfidence}
      {source : ClassificationSource} :
      Answers ((inferredLabelForCategory category).map fun label =>
        .withQuality label category .embeddingSimilarity .classified confidence source) :=
    @answers_inferred (some category) _ _ _ _
  have unclear {source : ClassificationSource} : Answers (some (.withQuality "unlogged" "UNLOGGED"
      .embeddingSimilarity .ambiguous .low source)) :=
    answers_some ⟨isShippable_unlogged, rfl⟩
  cases sketch with
  | none => exact answers_none
  | some sketch =>
    have personal : Answers (plugin.classifyPersonal sketch) := by
      simp only [EmbeddingSimilarityPlugin.classifyPersonal]
      split
      · exact answers_none
      · split
        · exact answers_none
        · split
          · exact unclear
          · exact labelled
    have curated : Answers (plugin.classifyCurated sketch) := by
      simp only [EmbeddingSimilarityPlugin.classifyCurated]
      split
      · exact answers_none
      · split
        · exact answers_none
        · split
          · exact unclear
          · exact labelled
    intro result answered
    rcases or_eq_some_iff.mp answered with own | ⟨-, shipped⟩
    · exact personal result own
    · exact curated result shipped

variable (embedding : Option (EmbeddingSimilarityPlugin F)) (sketch : Option (List F))

theorem answers_tableAnswers : ∀ answer ∈ tableAnswers tables.toBuiltinTables input,
    Answers answer := by
  simp only [tableAnswers, forall_mem_cons, not_mem_nil, false_implies, implies_true, and_true]
  exact ⟨answers_siteSeed tables input, answers_browserContext tables input,
    answers_bundleSeed tables input, answers_seedDictionary tables input,
    answers_localPurpose tables input, answers_documentType input, answers_declaredCategory input,
    answers_siteInference tables input⟩

theorem answers_lateAnswers : ∀ answer ∈ lateAnswers tables.toBuiltinTables input embedding sketch,
    Answers answer := by
  have priors : ∀ answer ∈ [BuiltinTables.genericBrowserPriorPlugin input,
      tables.unloggedFallbackPlugin], Answers answer := by
    simp only [forall_mem_cons, not_mem_nil, false_implies, implies_true, and_true]
    exact ⟨answers_genericBrowserPrior input, answers_some (acceptable_fallback tables)⟩
  cases embedding with
  | none => exact priors
  | some plugin => exact forall_mem_cons.mpr ⟨answers_embedding plugin sketch, priors⟩

theorem exists_classifyByPlugins :
    ∃ result, tables.classifyByPlugins input embedding sketch = some result ∧
      Acceptable result := by
  have fallback : tables.unloggedFallbackPlugin ∈ tables.pluginAnswers input embedding sketch := by
    simp [BuiltinTables.pluginAnswers]
  cases answered : tables.classifyByPlugins input embedding sketch with
  | none =>
    have silent := List.findSome?_eq_none_iff.mp answered _ fallback
    cases silent
  | some result =>
    obtain ⟨answer, member, same⟩ := exists_of_findSome?_eq_some answered
    rw [pluginAnswers_eq, mem_append] at member
    rcases member with early | late
    · exact ⟨result, rfl, answers_tableAnswers tables input answer early result same⟩
    · exact ⟨result, rfl, answers_lateAnswers tables input embedding sketch answer late result same⟩

end Plugins

section Engine

/-- The verdict that the engine checks: that of the user's rule, or else the plugins' answer. -/
def selectedResult (perception : Perception) (rule : Option PersonalOverride) :
    Option ClassificationResult :=
  match rule with
  | some rule => (overrideLabelForCategory rule.category).map fun label =>
    ruleResult label rule.category
  | none => perception.classification

/-- Every rule of the user is in a category of the taxonomy. -/
structure Tables.RulesInTaxonomy (tables : Tables) : Prop where
  windows : ∀ rule ∈ tables.personalOverride, containsCategory rule.category = true
  sites : ∀ rule ∈ tables.personalSiteOverride, containsCategory rule.category = true
  apps : ∀ rule ∈ tables.personalAppOverride, containsCategory rule.category = true

variable {tables : Tables} {identity : WindowIdentity} {event : RawEvent} {perception : Perception}
  {rule : Option PersonalOverride} {result : ClassificationResult} {moment : Moment}

theorem eq_some_of_orElse {first second : Option PersonalOverride} {rule : PersonalOverride}
    (found : (first <|> second) = some rule) : first = some rule ∨ second = some rule := by
  cases first with
  | none => exact .inr (by simpa using found)
  | some own => exact .inl (by simpa using found)

theorem Tables.RulesInTaxonomy.answered (known : tables.RulesInTaxonomy) {rule : PersonalOverride}
    (answers : tables.personalOverrideOf identity = some rule) :
    containsCategory rule.category = true := by
  have window {key : String} (found : tables.personalOverrideFor key = some rule) :
      containsCategory rule.category = true := by
    obtain ⟨row, held, rfl⟩ := map_eq_some_iff.mp found
    exact known.windows row (mem_of_find?_eq_some held)
  have site {key : String} (found : tables.personalSiteOverrideFor key = some rule) :
      containsCategory rule.category = true := by
    obtain ⟨row, held, rfl⟩ := map_eq_some_iff.mp found
    exact known.sites row (mem_of_find?_eq_some held)
  have app {key : String} (found : tables.personalAppOverrideFor key = some rule) :
      containsCategory rule.category = true := by
    obtain ⟨row, held, rfl⟩ := map_eq_some_iff.mp found
    exact known.apps row (mem_of_find?_eq_some held)
  rcases eq_some_of_orElse answers with found | answers
  · exact window found
  rcases eq_some_of_orElse answers with found | answers
  · obtain ⟨key, -, found⟩ := bind_eq_some_iff.mp found
    exact site found
  rcases eq_some_of_orElse answers with found | found
  · obtain ⟨key, -, found⟩ := bind_eq_some_iff.mp found
    exact app found
  · exact app found

theorem classify_eq (selected : selectedResult perception rule = some result)
    (acceptable : Acceptable result) :
    classify event perception rule =
      if matchesRawInput result.label event.appName event.stableContext event.windowTitle then
        .error .invalidPluginResult
      else
        .ok
          { result := result
            localDisplayLabel := (rule.bind (·.localActivityName)) <|>
              curatedDisplayLabel event.appName event.windowTitle result.label
            localNameSuggestion :=
              if rule.isNone then responsibleLocalNameSuggestion event.appName result.source
              else none } := by
  obtain ⟨⟨label, category⟩, version⟩ := acceptable
  cases rule with
  | none =>
    rw [selectedResult] at selected
    simp [classify, selected, bind, Except.bind, label, category, version]
  | some rule =>
    obtain ⟨own, labelled, rfl⟩ := map_eq_some_iff.mp selected
    simp [classify, labelled, bind, Except.bind, label, category, version]

theorem readPersonalOverride_works (works : ∀ call, moment.fails call = false) :
    tables.readPersonalOverride identity moment.fails =
      .ok (tables.personalOverrideOf identity) := by
  simp only [Tables.readPersonalOverride, Tables.personalOverrideOf, rung, works, Bool.and_false,
    Bool.false_eq_true, if_false]
  cases tables.personalOverrideFor identity.stableKey <;>
    cases identity.siteStableKey.bind tables.personalSiteOverrideFor <;>
      cases identity.appBundleKey.bind tables.personalAppOverrideFor <;>
        cases tables.personalAppOverrideFor identity.appStableKey <;> rfl

variable {engine : AbstractionEngine}

theorem observe_abstractionMap :
    (engine.observe moment event perception tables).abstractionMap = tables.abstractionMap := by
  unfold AbstractionEngine.observe
  split
  · split <;> rfl
  · rfl

theorem observe_personalOverrideOf :
    (engine.observe moment event perception tables).personalOverrideOf identity =
      tables.personalOverrideOf identity := by
  unfold AbstractionEngine.observe
  split
  · split <;> rfl
  · rfl

theorem resolveId_works (works : ∀ call, moment.fails call = false)
    (fresh : ∀ row ∈ tables.abstractionMap, row.stableId ≠ perception.freshId)
    (classified : ClassifiedWindow) :
    ∃ stableId, (engine.resolveId moment event perception classified tables).1 = .ok stableId := by
  obtain ⟨upserted, upserts⟩ : ∃ upserted, tables.upsertMapping
      (engine.mappingOf event perception classified moment.now) = .ok upserted := by
    rw [Tables.upsertMapping, if_neg]
    · exact ⟨_, rfl⟩
    · rintro ⟨-, row, member, same⟩
      exact fresh row member same
  have kept : ∃ row ∈ upserted.abstractionMap,
      row.keyHash = (engine.identityOf event).stableKey := by
    obtain ⟨-, rfl⟩ := tables.upsertMapping_eq_ok upserts
    obtain ⟨row, member, rfl | ⟨old, -, same, rfl⟩⟩ := TableRows.exists_mem_upsert (·.keyHash)
      (engine.mappingOf event perception classified moment.now) _ tables.abstractionMap
    · exact ⟨_, member, rfl⟩
    · exact ⟨_, member, same⟩
  cases found : upserted.mappingOfKey (engine.identityOf event).stableKey with
  | none =>
    obtain ⟨row, member, same⟩ := kept
    have missing := List.find?_eq_none.mp found row member
    simp [same] at missing
  | some row =>
    refine ⟨row.stableId, ?_⟩
    simp only [AbstractionEngine.resolveId, works, upserts, found, Bool.false_eq_true, if_false]

theorem process_works (works : ∀ call, moment.fails call = false)
    (fresh : ∀ row ∈ tables.abstractionMap, row.stableId ≠ perception.freshId)
    (selected : selectedResult perception
      (tables.personalOverrideOf (engine.identityOf event)) = some result)
    (acceptable : Acceptable result) :
    if matchesRawInput result.label event.appName event.stableContext event.windowTitle then
      (engine.process moment event perception tables).1 = .error .invalidPluginResult
    else
      ∃ classified stableId, classified.result = result ∧
        (engine.process moment event perception tables).1 =
          .ok (engine.abstracted event classified stableId) := by
  have read := @readPersonalOverride_works (engine.observe moment event perception tables)
    (engine.identityOf event) moment works
  rw [observe_personalOverrideOf] at read
  have checked := @classify_eq event _ _ _ selected acceptable
  split
  · rename_i raw
    rw [if_pos raw] at checked
    simp only [AbstractionEngine.process, read, Except.bind, checked]
  · rename_i apart
    rw [if_neg apart] at checked
    obtain ⟨classified, own, checked⟩ : ∃ classified, classified.result = result ∧
        classify event perception (tables.personalOverrideOf (engine.identityOf event)) =
          .ok classified :=
      ⟨_, rfl, checked⟩
    obtain ⟨stableId, resolves⟩ := @resolveId_works
      (engine.observe moment event perception tables) event perception moment engine works
      (by rwa [observe_abstractionMap]) classified
    refine ⟨classified, stableId, own, ?_⟩
    cases resolved : engine.resolveId moment event perception classified
        (engine.observe moment event perception tables) with
    | mk answer left =>
      rw [resolved] at resolves
      subst resolves
      simp only [AbstractionEngine.process, read, Except.bind, checked, resolved, works,
        Bool.false_eq_true, if_false]

theorem exists_selectedResult {F : Type} [F32 F] {curated : CuratedTables}
    {embedding : Option (EmbeddingSimilarityPlugin F)} {sketch : Option (List F)}
    (asked : perception.classification =
      curated.classifyByPlugins event.pluginInput embedding sketch)
    (known : tables.RulesInTaxonomy) :
    ∃ result, selectedResult perception (tables.personalOverrideOf identity) = some result ∧
      Acceptable result := by
  cases answers : tables.personalOverrideOf identity with
  | none =>
    rw [selectedResult, asked]
    exact exists_classifyByPlugins curated event.pluginInput embedding sketch
  | some rule =>
    obtain ⟨label, labelled⟩ := override_of_containsCategory (known.answered answers)
    exact ⟨_, by rw [selectedResult, labelled, map_some], acceptable_ruleResult labelled⟩

/-- Every window gets a verdict whose label and category are valid, and over a store that works the
engine abstracts it with that verdict, unless the label is, but for the case of its letters, the
application's name, the site or the title: then it reports an invalid result. -/
theorem abstracted_unless_label_is_raw {F : Type} [F32 F] (curated : CuratedTables)
    (embedding : Option (EmbeddingSimilarityPlugin F)) (sketch : Option (List F))
    (engine : AbstractionEngine) (moment : Moment) (event : RawEvent) (perception : Perception)
    (tables : Tables) (asked : perception.classification =
      curated.classifyByPlugins event.pluginInput embedding sketch)
    (works : ∀ call, moment.fails call = false)
    (fresh : ∀ row ∈ tables.abstractionMap, row.stableId ≠ perception.freshId)
    (known : tables.RulesInTaxonomy) :
    ∃ result,
      selectedResult perception (tables.personalOverrideOf (engine.identityOf event)) =
          some result ∧
        isValidLabel result.label = true ∧ containsCategory result.category = true ∧
        if matchesRawInput result.label event.appName event.stableContext event.windowTitle then
          (engine.process moment event perception tables).1 = .error .invalidPluginResult
        else
          ∃ classified stableId, classified.result = result ∧
            (engine.process moment event perception tables).1 =
              .ok (engine.abstracted event classified stableId) := by
  obtain ⟨result, selected, acceptable⟩ :=
    @exists_selectedResult tables (engine.identityOf event) event perception F _ _ _ _ asked known
  exact ⟨result, selected, acceptable.shippable.1, acceptable.shippable.2,
    process_works works fresh selected acceptable⟩

/-- A window of the address book, which is curated by its bundle identifier. -/
def contactsWindow (title : String) : RawEvent where
  eventId := "1"
  occurredAt := 0
  durationSeconds := 60
  appName := "Contacts"
  windowTitle := title
  bundleId := some "com.apple.AddressBook"
  declaredAppCategory := none
  documentTypeIds := []
  focusedDocumentUrl := none
  inProgress := false

/-- What the shipped plugins, without the embedding tier, answer for such a window. -/
def contactsPerception (title : String) : Perception where
  embedding := none
  classification := shippedTables.classifyByPlugins (contactsWindow title).pluginInput
    (none : Option (EmbeddingSimilarityPlugin ℚ)) none
  uuid := "1"

/-- The engine of an install whose salt is one byte again and again. -/
def plainEngine : AbstractionEngine where
  sha256 := Sha256.sha256
  salt := List.replicate 32 0x5a

theorem rulesInTaxonomy_empty : Tables.empty.RulesInTaxonomy :=
  ⟨by simp [Tables.empty], by simp [Tables.empty], by simp [Tables.empty]⟩

theorem personalOverrideOf_empty (identity : WindowIdentity) :
    Tables.empty.personalOverrideOf identity = none := by
  simp [Tables.personalOverrideOf, Tables.empty, Tables.personalOverrideFor,
    Tables.personalSiteOverrideFor, Tables.personalAppOverrideFor]

theorem selectedResult_contacts : ∀ title ∈ ["Ada", "reference:contacts"],
    selectedResult (contactsPerception title) none =
      some (.ofTier "reference:contacts" "REFERENCE" .exactMatch) := by
  decide +kernel

/-- A card of the address book is abstracted. -/
theorem contacts_card_is_abstracted :
    ∃ abstracted, (plainEngine.process ⟨0, fun _ => false⟩ (contactsWindow "Ada")
        (contactsPerception "Ada") Tables.empty).1 = .ok abstracted ∧
      abstracted.label = "reference:contacts" := by
  obtain ⟨result, selected, -, -, outcome⟩ := @abstracted_unless_label_is_raw ℚ _ shippedTables
    none none plainEngine ⟨0, fun _ => false⟩ (contactsWindow "Ada") (contactsPerception "Ada")
    Tables.empty rfl (fun _ => rfl) (by simp [Tables.empty]) rulesInTaxonomy_empty
  rw [personalOverrideOf_empty, selectedResult_contacts "Ada" (by simp)] at selected
  obtain rfl := Option.some.inj selected
  rw [if_neg (by decide +kernel)] at outcome
  obtain ⟨classified, stableId, own, answered⟩ := outcome
  have label : classified.result.label = "reference:contacts" := congrArg (·.label) own
  exact ⟨_, answered, label⟩

/-- A window that is titled like its label is refused, though no rule is set and the store works. -/
theorem label_as_title_is_refused :
    ¬ ∀ (event : RawEvent) (perception : Perception) (tables : Tables),
      perception.classification = shippedTables.classifyByPlugins event.pluginInput
        (none : Option (EmbeddingSimilarityPlugin ℚ)) none →
      (∀ row ∈ tables.abstractionMap, row.stableId ≠ perception.freshId) →
      tables.RulesInTaxonomy →
      ∃ abstracted, (plainEngine.process ⟨0, fun _ => false⟩ event perception tables).1 =
        .ok abstracted := by
  intro always
  obtain ⟨abstracted, answered⟩ := always (contactsWindow "reference:contacts")
    (contactsPerception "reference:contacts") Tables.empty rfl (by simp [Tables.empty])
    rulesInTaxonomy_empty
  have acceptable : Acceptable (.ofTier "reference:contacts" "REFERENCE" .exactMatch) :=
    acceptable_ofTier (by decide +kernel)
  have fresh : ∀ row ∈ Tables.empty.abstractionMap,
      row.stableId ≠ (contactsPerception "reference:contacts").freshId := by
    simp [Tables.empty]
  have selected : selectedResult (contactsPerception "reference:contacts")
      (Tables.empty.personalOverrideOf
        (plainEngine.identityOf (contactsWindow "reference:contacts"))) =
      some (.ofTier "reference:contacts" "REFERENCE" .exactMatch) := by
    rw [personalOverrideOf_empty, selectedResult_contacts _ (by simp)]
  have refused := @process_works Tables.empty (contactsWindow "reference:contacts")
    (contactsPerception "reference:contacts")
    (.ofTier "reference:contacts" "REFERENCE" .exactMatch) ⟨0, fun _ => false⟩ plainEngine
    (fun _ => rfl) fresh selected acceptable
  rw [if_pos (by decide +kernel), answered] at refused
  cases refused

end Engine

end Velvt.Rules
