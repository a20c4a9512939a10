import Mathlib.Algebra.Order.BigOperators.Group.List
import Velvt.RuleVisibility

/-!
# Names that the user typed

A name typed with a correction is kept by the rules of the correction and mirrored into the mapping
of every window those rules answer for.
-/

namespace Velvt.Rules

open List TableRows

/-- No rule carries a name. -/
structure Uncarried (name : String) (tables : Tables) : Prop where
  windows : ∀ rule ∈ tables.personalOverride, rule.activityName ≠ some name
  apps : ∀ rule ∈ tables.personalAppOverride, rule.activityName ≠ some name
  sites : ∀ rule ∈ tables.personalSiteOverride, rule.activityName ≠ some name

/-- A window is shown under a name. -/
def Shows (name : String) (tables : Tables) (stableId : String) : Prop :=
  ∃ row ∈ tables.abstractionMap, row.stableId = stableId ∧ row.displayName = some name

/-- Neither a rule nor a mapping holds a name. -/
structure FreeOf (name : String) (tables : Tables) : Prop extends Uncarried name tables where
  mappings : ∀ stableId, ¬ Shows name tables stableId

def nameOf (value : Option String) : Option String :=
  match normalizedLocalActivityName value with
  | .ok name => name
  | .error _ => none

def Request.typedName : Request → Option String
  | .correctEventClassification correction => nameOf correction.localActivityName
  | .updateClassificationOverride update => nameOf update.localActivityName
  | .setApplicationCategory teaching => nameOf teaching.activityName
  | .setSiteCategory teaching => nameOf teaching.activityName
  | _ => none

/-- A name that the product gives to windows by itself. -/
def BuiltInName (name : String) : Prop :=
  ∃ appName windowTitle label, curatedDisplayLabel appName windowTitle label = some name

section Later

variable {router : Router} {moment : Moment} {dwells : List (UInt64 × AbstractedEvent)}
  {request : Request} {tables changed : Tables} {name : String}

theorem Uncarried.answer (uncarried : Uncarried name tables) {identity : WindowIdentity}
    {answer : PersonalOverride} (answers : tables.personalOverrideOf identity = some answer) :
    answer.localActivityName ≠ some name := by
  obtain ⟨row, member, rfl⟩ := tables.mem_ruleRows_of_answer answers
  cases row with
  | window rule => exact uncarried.windows rule (tables.window_mem_ruleRows.mp member)
  | app rule => exact uncarried.apps rule (tables.app_mem_ruleRows.mp member)
  | site rule => exact uncarried.sites rule (tables.site_mem_ruleRows.mp member)

theorem orElse_ne {first second : Option String} (notFirst : first ≠ some name)
    (notSecond : second ≠ some name) : (first <|> second) ≠ some name := by
  cases first with
  | none => simpa using notSecond
  | some value => simpa using notFirst

/-- The label that is shown is typed or curated. -/
theorem classify_displayLabel {event : RawEvent} {perception : Perception}
    {rule : Option PersonalOverride} {classified : ClassifiedWindow}
    (classifies : classify event perception rule = .ok classified) :
    ∃ label, classified.localDisplayLabel = ((rule.bind (·.localActivityName)) <|>
      curatedDisplayLabel event.appName event.windowTitle label) := by
  have last : ∀ result, (if !isValidLabel result.label || !containsCategory result.category ||
      result.taxonomyVersion != taxonomyVersion ||
      matchesRawInput result.label event.appName event.stableContext event.windowTitle then
        .error .invalidPluginResult
      else
        .ok
          { result := result
            localDisplayLabel := (rule.bind (·.localActivityName)) <|>
              curatedDisplayLabel event.appName event.windowTitle result.label
            localNameSuggestion :=
              if rule.isNone then responsibleLocalNameSuggestion event.appName result.source
              else none } : Except AbstractionError ClassifiedWindow) = .ok classified →
      ∃ label, classified.localDisplayLabel = ((rule.bind (·.localActivityName)) <|>
        curatedDisplayLabel event.appName event.windowTitle label) := by
    intro result accepted
    split at accepted
    · cases accepted
    · rw [← Except.ok.inj accepted]
      exact ⟨_, rfl⟩
  unfold classify at classifies
  cases rule with
  | some rule =>
    cases labelled : overrideLabelForCategory rule.category with
    | none =>
      simp only [labelled] at classifies
      cases classifies
    | some label =>
      simp only [labelled] at classifies
      exact last _ classifies
  | none =>
    cases answered : perception.classification with
    | none =>
      simp only [answered] at classifies
      cases classifies
    | some result =>
      simp only [answered] at classifies
      exact last _ classifies

theorem Uncarried.classified (uncarried : Uncarried name tables) {event : RawEvent}
    {perception : Perception} {identity : WindowIdentity} {classified : ClassifiedWindow}
    (foreign : ¬ BuiltInName name)
    (classifies : classify event perception (tables.personalOverrideOf identity) =
      .ok classified) : classified.localDisplayLabel ≠ some name := by
  obtain ⟨label, displayed⟩ := classify_displayLabel classifies
  rw [displayed]
  refine orElse_ne (fun carried => ?_) fun curated => foreign ⟨_, _, label, curated⟩
  obtain ⟨rule, answers, named⟩ := Option.bind_eq_some_iff.mp carried
  exact uncarried.answer answers named

theorem Tables.foldBundleAlias_activityName {appKeyHash bundle : String} {rules : List AppOverrideRow}
    {now : Int} {rule : AppOverrideRow}
    (held : rule ∈ Tables.foldBundleAlias appKeyHash bundle rules now) :
    ∃ old ∈ rules, old.activityName = rule.activityName := by
  have before := mem_of_mem_filter held
  split at before
  · exact ⟨rule, before, rfl⟩
  · rcases mem_update.mp before with ⟨old, -⟩ | ⟨old, oldMem, -, rfl⟩
    · exact ⟨rule, old, rfl⟩
    · exact ⟨old, oldMem, rfl⟩

variable {given : Option String}

theorem Tables.activityName_upsertAppScopeRule (tables : Tables) {appKeyHash : String}
    {bundle : Option String} {category : String} {appOnly : Bool}
    {now : Int} (notGiven : given ≠ some name) {rule : AppOverrideRow}
    (member : rule ∈ (tables.upsertAppScopeRule appKeyHash bundle category given appOnly
      now).personalAppOverride) (carries : rule.activityName = some name) :
    ∃ old ∈ tables.personalAppOverride, old.activityName = some name := by
  rcases mem_upsert.mp member with ⟨held, -⟩ | ⟨other, held, -, rfl⟩ | ⟨-, rfl⟩
  · cases bundle with
    | none => exact ⟨rule, held, carries⟩
    | some bundle =>
      obtain ⟨old, oldMem, same⟩ := foldBundleAlias_activityName held
      exact ⟨old, oldMem, same.trans carries⟩
  · have carried : other.activityName = some name := by
      by_contra different
      exact orElse_ne notGiven different carries
    cases bundle with
    | none => exact ⟨other, held, carried⟩
    | some bundle =>
      obtain ⟨old, oldMem, same⟩ := foldBundleAlias_activityName held
      exact ⟨old, oldMem, same.trans carried⟩
  · exact absurd carries notGiven

theorem Shows.of_clearDisplayNames {selected : AbstractionMapping → Bool} {stableId : String}
    (shows' : Shows name (tables.clearDisplayNames selected) stableId) :
    Shows name tables stableId := by
  obtain ⟨row, member, sameId, shown⟩ := shows'
  rcases mem_update.mp member with ⟨old, -⟩ | ⟨old, -, -, rfl⟩
  · exact ⟨row, old, sameId, shown⟩
  · cases shown

section

variable (free : FreeOf name tables)

include free

theorem FreeOf.clearDisplayNames (selected : AbstractionMapping → Bool) :
    FreeOf name (tables.clearDisplayNames selected) :=
  ⟨⟨free.windows, free.apps, free.sites⟩,
    fun stableId shown => free.mappings stableId shown.of_clearDisplayNames⟩

theorem FreeOf.of_subset (windows : changed.personalOverride ⊆ tables.personalOverride)
    (apps : changed.personalAppOverride ⊆ tables.personalAppOverride)
    (sites : changed.personalSiteOverride ⊆ tables.personalSiteOverride)
    (mappings : changed.abstractionMap ⊆ tables.abstractionMap) : FreeOf name changed := by
  refine ⟨⟨?_, ?_, ?_⟩, ?_⟩
  · exact fun rule member => free.windows rule (windows member)
  · exact fun rule member => free.apps rule (apps member)
  · exact fun rule member => free.sites rule (sites member)
  · rintro stableId ⟨row, member, shown⟩
    exact free.mappings stableId ⟨row, mappings member, shown⟩

theorem FreeOf.of_eq (windows : changed.personalOverride = tables.personalOverride)
    (apps : changed.personalAppOverride = tables.personalAppOverride)
    (sites : changed.personalSiteOverride = tables.personalSiteOverride)
    (mappings : changed.abstractionMap = tables.abstractionMap) : FreeOf name changed :=
  free.of_subset (windows ▸ List.Subset.refl _) (apps ▸ List.Subset.refl _)
    (sites ▸ List.Subset.refl _) (mappings ▸ List.Subset.refl _)

theorem FreeOf.upsertAppScopeRule (appKeyHash : String)
    (bundle : Option String) (category : String) (appOnly : Bool)
    (now : Int) (notGiven : given ≠ some name) :
    FreeOf name (tables.upsertAppScopeRule appKeyHash bundle category given appOnly now) := by
  refine ⟨⟨free.windows, fun rule member carries => ?_, free.sites⟩, free.mappings⟩
  obtain ⟨old, oldMem, carried⟩ :=
    tables.activityName_upsertAppScopeRule notGiven member carries
  exact free.apps old oldMem carried

theorem FreeOf.saveRung (identity : Option (String × Option String))
    (category : String) (now : Int) (notGiven : given ≠ some name) :
    FreeOf name (tables.saveRung identity category given now).2 := by
  cases identity with
  | none => exact free
  | some identity => exact free.upsertAppScopeRule _ _ _ _ _ notGiven

theorem FreeOf.savePersonalOverride {stableId category : String}
    {now : Int} {saved : Tables} (notGiven : given ≠ some name)
    (saves : tables.savePersonalOverride stableId category given now = .ok saved) :
    FreeOf name saved := by
  obtain ⟨mapping, -, rfl⟩ := tables.savePersonalOverride_eq_ok saves
  refine ⟨⟨fun rule member => ?_, free.apps, free.sites⟩, free.mappings⟩
  rcases mem_upsert.mp member with ⟨old, -⟩ | ⟨old, oldMem, -, rfl⟩ | ⟨-, rfl⟩
  · exact free.windows rule old
  · exact orElse_ne notGiven (free.windows old oldMem)
  · exact notGiven

theorem FreeOf.upsertSiteRule (siteKeyHash category : String)
    {named : Option String → Option String} (now : Int)
    (notGiven : given ≠ some name) (keeps : ∀ held, held ≠ some name → named held ≠ some name) :
    FreeOf name (tables.upsertSiteRule siteKeyHash category given named now) := by
  refine ⟨⟨free.windows, free.apps, fun rule member => ?_⟩, free.mappings⟩
  rcases mem_upsert.mp member with ⟨old, -⟩ | ⟨old, oldMem, -, rfl⟩ | ⟨-, rfl⟩
  · exact free.sites rule old
  · exact keeps _ (free.sites old oldMem)
  · exact notGiven

theorem FreeOf.saveSiteScopeOverride (siteKeyHash category : String) (now : Int)
    (notGiven : given ≠ some name) :
    FreeOf name (tables.saveSiteScopeOverride siteKeyHash category given now) :=
  (free.upsertSiteRule siteKeyHash category now notGiven fun _ => orElse_ne notGiven).of_eq
    rfl rfl rfl rfl

theorem FreeOf.upsertMapping {mapping : AbstractionMapping}
    (unnamed : mapping.displayName ≠ some name)
    (upserts : tables.upsertMapping mapping = .ok changed) : FreeOf name changed := by
  obtain ⟨-, rfl⟩ := tables.upsertMapping_eq_ok upserts
  refine ⟨⟨free.windows, free.apps, free.sites⟩, ?_⟩
  rintro stableId ⟨row, member, sameId, shown⟩
  rcases mem_upsert.mp member with ⟨old, -⟩ | ⟨old, oldMem, -, rfl⟩ | ⟨-, rfl⟩
  · exact free.mappings stableId ⟨row, old, sameId, shown⟩
  · exact orElse_ne unnamed (fun held => free.mappings _ ⟨old, oldMem, rfl, held⟩) shown
  · exact unnamed shown

end

theorem given_ne {value given : Option String}
    (named : normalizedLocalActivityName value = .ok given)
    (untyped : nameOf value ≠ some name) : given ≠ some name := by
  rwa [nameOf, named] at untyped

theorem FreeOf.sweep (free : FreeOf name tables) (pass : RetentionSweep) :
    FreeOf name (sweep moment pass tables) := by
  unfold Rules.sweep
  split
  · exact free
  · split
    · exact free.of_eq rfl rfl rfl rfl
    · exact free.of_subset (List.Subset.refl _) (List.Subset.refl _) (List.Subset.refl _)
        fun _ member => Tables.mem_of_mem_deleteSome member
    · exact free.of_eq rfl rfl rfl rfl
    · exact free.of_eq rfl rfl rfl rfl

/-- A request that does not type the name brings it nowhere. -/
theorem Commits.freeOf (commits : Commits router moment dwells request tables changed)
    (foreign : ¬ BuiltInName name) (untyped : request.typedName ≠ some name)
    (free : FreeOf name tables) : FreeOf name changed := by
  cases commits with
  | mapped _ classifies upserted =>
    exact free.upsertMapping (free.toUncarried.classified foreign classifies) upserted
  | inserted _ _ _ stored =>
    obtain rfl := tables.insertRawEvent_eq_ok stored
    exact free.of_eq rfl rfl rfl rfl
  | named host closed =>
    rename_i event _ _ _
    rcases tables.recordLocalSiteName_spec event.eventId host moment.now with
      unchanged | ⟨_, _, _, _, _, _, _, recorded⟩
    · rwa [unchanged]
    · rw [recorded]
      exact free.of_eq rfl rfl rfl rfl
  | correctedApp named | updatedApp named =>
    exact free.saveRung _ _ _ (given_ne named untyped)
  | correctedWindow named saves | updatedWindow named saves =>
    exact free.savePersonalOverride (given_ne named untyped) saves
  | editedSite named held =>
    have notGiven := given_ne named untyped
    unfold Tables.editSiteScopeOverride
    split
    · refine FreeOf.clearDisplayNames ?_ _
      exact free.upsertSiteRule _ _ _ notGiven fun _ _ => notGiven
    · exact free.upsertSiteRule _ _ _ notGiven fun _ _ => notGiven
  | taughtSite named =>
    exact free.saveSiteScopeOverride _ _ _ (given_ne named untyped)
  | editedApp named saves | taughtApp _ named saves =>
    obtain rfl := tables.saveAppScopeOverride_eq_ok saves
    exact free.upsertAppScopeRule _ _ _ _ _ (given_ne named untyped)
  | removedWindow =>
    refine FreeOf.clearDisplayNames ?_ _
    exact free.of_subset filter_sublist.subset filter_sublist.subset
      (List.Subset.refl _) (List.Subset.refl _)
  | removedApp =>
    refine FreeOf.clearDisplayNames ?_ _
    exact free.of_subset (List.Subset.refl _) filter_sublist.subset
      (List.Subset.refl _) (List.Subset.refl _)
  | removedSite =>
    refine FreeOf.clearDisplayNames ?_ _
    exact free.of_subset (List.Subset.refl _) (List.Subset.refl _)
      filter_sublist.subset (List.Subset.refl _)
  | reset =>
    refine FreeOf.clearDisplayNames ?_ _
    exact free.of_subset (nil_subset _) (nil_subset _) (nil_subset _) (List.Subset.refl _)
  | swept => exact free.sweep _
  | _ => exact free.of_eq rfl rfl rfl rfl

theorem FreeOf.run {service : Service} {later : List Call} (foreign : ¬ BuiltInName name)
    (untyped : ∀ call ∈ later, call.request.typedName ≠ some name)
    (free : FreeOf name service.tables) :
    FreeOf name (router.machine.run service later).tables := by
  have keeps : ∀ (service : Service) (call : Call), FreeOf name service.tables →
      call.request.typedName ≠ some name →
        FreeOf name (router.machine.next service call).tables := by
    intro service call held notTyped
    exact (handle_reaches router service call).preserves
      (fun commits before => commits.freeOf foreign notTyped before) held
  exact router.machine.invariant_run keeps free
    (router.machine.meets_of_mem (fun call member _ => untyped call member) service)

end Later

section Removal

variable {router : Router} {tables : Tables} {name : String}

/-- A request that takes rules away. -/
def Request.Removes : Request → Prop
  | .removeClassificationOverride _ => True
  | .resetClassificationOverrides => True
  | _ => False

/-- The windows whose names a removal clears. -/
def Reached (tables : Tables) : Request → String → Prop
  | .removeClassificationOverride ruleId, stableId =>
    stableId = ruleId ∨
      (∃ rule, tables.windowRule ruleId = some rule ∧
        ∃ app, rule.appKeyHash = some app ∧ tables.seenInApp app stableId = true) ∨
      (tables.windowRule ruleId = none ∧
        (tables.seenInApp ruleId stableId = true ∨
          (tables.appScopeOverride ruleId = none ∧ tables.seenOnSite ruleId stableId = true)))
  | _, _ => True

theorem shows_clearDisplayNames {selected : String → Bool} {stableId : String} :
    Shows name (tables.clearDisplayNames fun row => selected row.stableId) stableId ↔
      Shows name tables stableId ∧ selected stableId = false := by
  constructor
  · rintro ⟨row, member, rfl, shown⟩
    rcases mem_update.mp member with ⟨old, spared⟩ | ⟨old, -, -, rfl⟩
    · exact ⟨⟨row, old, rfl, shown⟩, spared⟩
    · cases shown
  · rintro ⟨⟨row, member, rfl, shown⟩, spared⟩
    exact ⟨row, mem_update.mpr (.inl ⟨member, spared⟩), rfl, shown⟩

theorem shows_removePersonalOverride {ruleId stableId : String} :
    Shows name (tables.removePersonalOverride ruleId).2 stableId ↔
      Shows name tables stableId ∧ stableId ≠ ruleId ∧
        ¬ ∃ rule, tables.windowRule ruleId = some rule ∧
          ∃ app, rule.appKeyHash = some app ∧ tables.seenInApp app stableId = true := by
  refine (@shows_clearDisplayNames _ name (fun id => id == ruleId ||
    ((tables.windowRule ruleId).bind (·.appKeyHash)).any fun app => tables.seenInApp app id)
    stableId).trans (and_congr_right fun _ => ?_)
  cases tables.windowRule ruleId with
  | none => simp
  | some rule => cases app : rule.appKeyHash <;> simp [app]

theorem shows_removeAppScopeOverride {appKeyHash stableId : String} :
    Shows name (tables.removeAppScopeOverride appKeyHash).2 stableId ↔
      Shows name tables stableId ∧ tables.seenInApp appKeyHash stableId = false :=
  shows_clearDisplayNames

theorem shows_removeSiteScopeOverride {siteKeyHash stableId : String} :
    Shows name (tables.removeSiteScopeOverride siteKeyHash).2 stableId ↔
      Shows name tables stableId ∧ tables.seenOnSite siteKeyHash stableId = false :=
  shows_clearDisplayNames

/-- A removal takes the name from what it reaches. -/
theorem shows_withoutRule {ruleId stableId : String} :
    Shows name (tables.withoutRule ruleId) stableId ↔ Shows name tables stableId ∧
        ¬ Reached tables (.removeClassificationOverride ruleId) stableId := by
  have reached : Reached tables (.removeClassificationOverride ruleId) stableId ↔
      stableId = ruleId ∨ (∃ rule, tables.windowRule ruleId = some rule ∧
          ∃ app, rule.appKeyHash = some app ∧ tables.seenInApp app stableId = true) ∨
        (tables.windowRule ruleId = none ∧ (tables.seenInApp ruleId stableId = true ∨
            (tables.appScopeOverride ruleId = none ∧
              tables.seenOnSite ruleId stableId = true))) := Iff.rfl
  rw [Tables.withoutRule_eq, reached]
  cases found : tables.windowRule ruleId with
  | some rule =>
    have removed : (tables.removePersonalOverride ruleId).1 = true := by
      simp [Tables.removePersonalOverride, found]
    rw [if_pos removed, shows_removePersonalOverride, found]
    simp
  | none =>
    have passed : (tables.removePersonalOverride ruleId).1 = false := by
      simp [Tables.removePersonalOverride, found]
    have apps : ((tables.removePersonalOverride ruleId).2.removeAppScopeOverride ruleId).1 =
        (tables.appScopeOverride ruleId).isSome := by
      rw [Bool.eq_iff_iff]
      simp [Tables.removePersonalOverride, Tables.removeAppScopeOverride,
        Tables.clearDisplayNames, Tables.appScopeOverride, found]
    have sameApp : (tables.removePersonalOverride ruleId).2.seenInApp ruleId stableId =
        tables.seenInApp ruleId stableId := rfl
    have sameSite : ((tables.removePersonalOverride ruleId).2.removeAppScopeOverride
        ruleId).2.seenOnSite ruleId stableId = tables.seenOnSite ruleId stableId := rfl
    rw [if_neg (by simp [passed]), apps]
    cases app : tables.appScopeOverride ruleId with
    | some rule =>
      rw [Option.isSome_some, if_pos rfl, shows_removeAppScopeOverride,
        shows_removePersonalOverride, found, sameApp]
      simp [and_assoc]
    | none =>
      rw [Option.isSome_none, if_neg (by simp), shows_removeSiteScopeOverride,
        shows_removeAppScopeOverride, shows_removePersonalOverride, found, sameApp, sameSite]
      simp [and_assoc]

theorem removeRule_of_ok {moment : Moment} {ruleId : String} {removed : Bool}
    (done : (removeRule moment ruleId tables).1 = .ok removed) :
    (removeRule moment ruleId tables).2 = tables.withoutRule ruleId := by
  rw [Tables.withoutRule_eq]
  cases window : moment.fails .removePersonalOverride with
  | true => simp [removeRule, orRemove, attempt, andThen, window] at done
  | false =>
    cases removedWindow : (tables.removePersonalOverride ruleId).1 with
    | true => simp [removeRule, orRemove, attempt, andThen, window, removedWindow]
    | false =>
      cases app : moment.fails .removeAppScopeOverride with
      | true =>
        simp [removeRule, orRemove, attempt, andThen, window, removedWindow, app] at done
      | false =>
        cases removedApp :
            ((tables.removePersonalOverride ruleId).2.removeAppScopeOverride ruleId).1 with
        | true =>
          simp [removeRule, orRemove, attempt, andThen, window, removedWindow, app, removedApp]
        | false =>
          cases site : moment.fails .removeSiteScopeOverride with
          | true =>
            simp [removeRule, orRemove, attempt, andThen, window, removedWindow, app,
              removedApp, site] at done
          | false =>
            simp [removeRule, orRemove, attempt, andThen, window, removedWindow, app,
              removedApp, site]

theorem available_of_removal {service : Service} {removal : Call}
    (removes : removal.request.Removes)
    (done : router.machine.answer service removal = .menuStatus) :
    router.hasAbstractionMap = true := by
  obtain ⟨moment, request⟩ := removal
  by_contra missing
  rw [Bool.not_eq_true] at missing
  cases request with
  | removeClassificationOverride ruleId =>
    have refused : (removeClassificationOverride router moment ruleId service.tables).1 ≠
        .menuStatus := by
      simp [removeClassificationOverride, missing, classificationCorrectionError]
    exact refused done
  | resetClassificationOverrides =>
    have refused : (resetClassificationOverrides router moment service.tables).1 ≠
        .menuStatus := by
      simp [resetClassificationOverrides, missing, classificationCorrectionError]
    exact refused done
  | _ => cases removes

theorem shows_removal {service : Service} {removal : Call} (removes : removal.request.Removes)
    (done : router.machine.answer service removal = .menuStatus) {stableId : String} :
    Shows name (router.machine.next service removal).tables stableId ↔
      Shows name service.tables stableId ∧ ¬ Reached service.tables removal.request stableId := by
  have available := available_of_removal removes done
  obtain ⟨moment, request⟩ := removal
  cases request with
  | removeClassificationOverride ruleId =>
    have answered : (removeClassificationOverride router moment ruleId service.tables).1 =
        .menuStatus := done
    have tables : (router.machine.next service
        { moment := moment, request := .removeClassificationOverride ruleId }).tables =
        (removeClassificationOverride router moment ruleId service.tables).2 := rfl
    rw [tables]
    unfold removeClassificationOverride at answered ⊢
    rw [available, Bool.not_true, if_neg Bool.false_ne_true] at answered ⊢
    obtain ⟨removed, ok⟩ := correctionAnswer_eq_menuStatus.mp answered
    rw [correctionAnswer_tables, removeRule_of_ok ok]
    exact shows_withoutRule
  | resetClassificationOverrides =>
    have answered : (resetClassificationOverrides router moment service.tables).1 =
        .menuStatus := done
    have tables : (router.machine.next service
        { moment := moment, request := .resetClassificationOverrides }).tables =
        (resetClassificationOverrides router moment service.tables).2 := rfl
    rw [tables]
    unfold resetClassificationOverrides at answered ⊢
    rw [available, Bool.not_true, if_neg Bool.false_ne_true] at answered ⊢
    obtain ⟨_, ok⟩ := correctionAnswer_eq_menuStatus.mp answered
    have reset := write_eq_ok.mp (attempt_eq_ok ok)
    rw [correctionAnswer_tables, ← Except.ok.inj reset]
    exact (@shows_clearDisplayNames _ name (fun _ => true) stableId).trans (by simp [Reached])
  | _ => cases removes

end Removal

section BuiltIn

variable {name : String}

theorem BuiltInName.exists_label (builtIn : BuiltInName name) :
    ∃ appName label, curatedDisplayLabel appName "" label = some name ∧
      isValidLabel label = true ∧ matchesRawInput label appName "" "" = false := by
  have listed : ∀ entry ∈ curatedLabels, isValidLabel entry.1 = true ∧
      matchesRawInput entry.1 "Editor" "" "" = false := by
    decide +kernel
  obtain ⟨appName, windowTitle, label, shown⟩ := builtIn
  unfold curatedDisplayLabel at shown
  split at shown
  · rw [← Option.some.inj shown]
    exact ⟨"Editor", "document:docs", by decide +kernel⟩
  · split at shown
    · rw [← Option.some.inj shown]
      exact ⟨"VS Code", "document:edit", by decide +kernel⟩
    · obtain ⟨before, after, split, -⟩ := lookup_eq_some_iff.mp shown
      obtain ⟨valid, apart⟩ := listed (label, name) (by simp [split])
      refine ⟨"Editor", label, ?_, valid, apart⟩
      have untitled : containsText "" "docs" = false := by decide +kernel
      have plain : containsText "Editor" "vs code" = false ∧
          containsText "Editor" "visual studio code" = false := by
        decide +kernel
      simpa [curatedDisplayLabel, untitled, plain] using shown

theorem exists_fresh_uuid (rows : List AbstractionMapping) :
    ∃ uuid : String, ∀ row ∈ rows, row.stableId ≠ "abs_" ++ uuid := by
  refine ⟨String.ofList (List.replicate (rows.map (·.stableId.length)).sum 'a'), ?_⟩
  intro row member same
  have short : row.stableId.length ≤ (rows.map (·.stableId.length)).sum :=
    le_sum_of_mem (mem_map_of_mem member)
  rw [same] at short
  simp at short

def untitledWindow (appName : String) : RawEvent where
  eventId := ""
  occurredAt := 0
  durationSeconds := 0
  appName := appName
  windowTitle := ""
  bundleId := none
  declaredAppCategory := none
  documentTypeIds := []
  focusedDocumentUrl := none
  inProgress := true

def labelled (label : String) : ClassificationResult where
  label := label
  category := "SYSTEM"
  taxonomyVersion := taxonomyVersion
  tier := .localPurposeHeuristic
  status := .classified
  confidence := .high
  source := .heuristic

def answersWith (label uuid : String) : Perception where
  embedding := none
  classification := some (labelled label)
  uuid := uuid

theorem classify_untitledWindow {appName label uuid : String}
    (shown : curatedDisplayLabel appName "" label = some name) (valid : isValidLabel label = true)
    (apart : matchesRawInput label appName "" "" = false) :
    ∃ classified, classify (untitledWindow appName) (answersWith label uuid) none =
      .ok classified ∧ classified.localDisplayLabel = some name := by
  have known : containsCategory "SYSTEM" = true := by decide +kernel
  have inApp : (untitledWindow appName).appName = appName := rfl
  have untitled : (untitledWindow appName).windowTitle = "" := rfl
  have unfocused : (untitledWindow appName).stableContext = "" := rfl
  refine ⟨{ result := labelled label
            localDisplayLabel := some name
            localNameSuggestion := responsibleLocalNameSuggestion appName .heuristic }, ?_, rfl⟩
  simp [classify, answersWith, bind, Except.bind, inApp, untitled, unfocused, labelled, valid,
    known, apart, shown]

/-- A new window of a curated name shows it. -/
theorem shows_process {appName label uuid : String} (engine : AbstractionEngine)
    {tables : Tables} (windows : tables.personalOverride = [])
    (apps : tables.personalAppOverride = [])
    (shown : curatedDisplayLabel appName "" label = some name)
    (valid : isValidLabel label = true) (apart : matchesRawInput label appName "" "" = false)
    (fresh : ∀ row ∈ tables.abstractionMap, row.stableId ≠ "abs_" ++ uuid) :
    ∃ stableId, Shows name (engine.process { now := 0, fails := fun _ => false }
      (untitledWindow appName) (answersWith label uuid) tables).2 stableId := by
  obtain ⟨classified, classifies, named⟩ := @classify_untitledWindow name appName label uuid shown
    valid apart
  have read : tables.readPersonalOverride (engine.identityOf (untitledWindow appName))
      (fun _ => false) = .ok none := by
    have unsited : (engine.identityOf (untitledWindow appName)).siteStableKey = none := rfl
    have unbundled : (engine.identityOf (untitledWindow appName)).appBundleKey = none := rfl
    simp [Tables.readPersonalOverride, rung, Tables.personalOverrideFor,
      Tables.personalAppOverrideFor, windows, apps, unsited, unbundled]
  obtain ⟨upserted, upserts⟩ : ∃ upserted, tables.upsertMapping (engine.mappingOf
      (untitledWindow appName) (answersWith label uuid) classified 0) = .ok upserted := by
    rw [Tables.upsertMapping, if_neg]
    · exact ⟨_, rfl⟩
    · rintro ⟨-, row, member, same⟩
      exact fresh row member same
  have shownNow : ∃ stableId, Shows name upserted stableId := by
    obtain ⟨-, rfl⟩ := tables.upsertMapping_eq_ok upserts
    obtain ⟨row, member, fresh | ⟨old, -, -, merged⟩⟩ := exists_mem_upsert
      (·.keyHash) (engine.mappingOf (untitledWindow appName) (answersWith label uuid) classified 0)
      (fun row =>
        { engine.mappingOf (untitledWindow appName) (answersWith label uuid) classified 0 with
          keyHash := row.keyHash
          stableId := row.stableId
          displayName := classified.localDisplayLabel <|> row.displayName })
      tables.abstractionMap
    · exact ⟨row.stableId, row, member, rfl, by rw [fresh]; exact named⟩
    · exact ⟨row.stableId, row, member, rfl, by rw [merged]; simp [named]⟩
  have processed : (engine.process { now := 0, fails := fun _ => false } (untitledWindow appName)
      (answersWith label uuid) tables).2 = upserted := by
    have unseen : (answersWith label uuid).embedding = none := rfl
    simp only [AbstractionEngine.process, AbstractionEngine.observe, unseen, read, Except.bind,
      classifies, AbstractionEngine.resolveId, upserts, Bool.false_eq_true, if_false]
    cases upserted.mappingOfKey (engine.identityOf (untitledWindow appName)).stableKey <;> rfl
  rw [processed]
  exact shownNow

theorem BuiltInName.returns (builtIn : BuiltInName name) {router : Router}
    (available : router.hasAbstractionMap = true) (service : Service) :
    ∃ later : List Call, (∀ call ∈ later, call.request.typedName ≠ some name) ∧
      ∃ stableId, Shows name (router.machine.run service later).tables stableId := by
  obtain ⟨appName, label, shown, valid, apart⟩ := builtIn.exists_label
  obtain ⟨uuid, fresh⟩ := exists_fresh_uuid (service.tables.resetPersonalOverrides).abstractionMap
  refine ⟨[Request.resetClassificationOverrides.at 0,
    (Request.rawEvent (untitledWindow appName) (answersWith label uuid) false true).at 0],
    by simp [Request.at, Request.typedName], ?_⟩
  have reset : router.machine.next service (Request.resetClassificationOverrides.at 0) =
      { service with tables := service.tables.resetPersonalOverrides } := by
    change (handle router service (Request.resetClassificationOverrides.at 0)).2 = _
    simp [handle, Request.at, Service.withTables, resetClassificationOverrides, available, attempt,
      write, Except.map, correctionAnswer]
  rw [StepMachine.Machine.run_cons, reset, StepMachine.Machine.run_cons,
    StepMachine.Machine.run_nil]
  obtain ⟨stableId, shownNow⟩ := @shows_process name appName label uuid router.engine
    service.tables.resetPersonalOverrides rfl rfl shown valid apart fresh
  refine ⟨stableId, ?_⟩
  have plain : clearDeclaredMetadataBeyondBounds (untitledWindow appName) =
      untitledWindow appName := by
    simp [clearDeclaredMetadataBeyondBounds, untitledWindow]
  have inUse : (untitledWindow appName).inProgress = true := rfl
  change Shows name (handleRawEvent router { now := 0, fails := fun _ => false }
    (untitledWindow appName) (answersWith label uuid) false true _).2.tables stableId
  rw [handleRawEvent, plain]
  rw [if_pos inUse, observeDwellInProgress, Bool.not_true, if_neg Bool.false_ne_true]
  -- the mapping stays, whether or not the window can be abstracted
  split
  · rename_i processed
    rwa [processed] at shownNow
  · rename_i processed
    rwa [processed] at shownNow

end BuiltIn

/-- A name is gone for good with a removal that leaves no rule to carry it, exactly when the
removal reaches every window shown under it and the product has no such name of its own. -/
theorem typed_name_forgotten_iff (router : Router) (service : Service) (removal : Call)
    (name : String) (removes : removal.request.Removes)
    (done : router.machine.answer service removal = .menuStatus)
    (uncarried : Uncarried name (router.machine.next service removal).tables) :
    (∀ later : List Call, (∀ call ∈ later, call.request.typedName ≠ some name) →
        FreeOf name
          (router.machine.run (router.machine.next service removal) later).tables) ↔
      (∀ stableId, Shows name service.tables stableId →
        Reached service.tables removal.request stableId) ∧ ¬ BuiltInName name := by
  constructor
  · intro forgotten
    refine ⟨fun stableId shown => ?_, fun builtIn => ?_⟩
    · by_contra missed
      exact (forgotten [] (by simp)).mappings stableId
        ((shows_removal removes done).mpr ⟨shown, missed⟩)
    · obtain ⟨later, untyped, stableId, shown⟩ :=
        builtIn.returns (available_of_removal removes done)
          (router.machine.next service removal)
      exact (forgotten later untyped).mappings stableId shown
  · rintro ⟨reached, foreign⟩ later untyped
    refine FreeOf.run foreign untyped ⟨uncarried, fun stableId shown => ?_⟩
    obtain ⟨before, missed⟩ := (shows_removal removes done).mp shown
    exact missed (reached stableId before)

/-- A name is typed in one window of an editor and mirrored to another, and both events age
out. -/
def mirroredName : List Call :=
  [(editorWindow "event" "plan" "one").at 0,
    (Request.correctEventClassification
      { eventId := "event"
        stableId := "abs_one"
        category := "REFERENCE"
        localActivityName := some "Budget" }).at 1,
    (editorWindow "later" "notes" "two").at 2,
    (Request.sweep
      { target := .rawEventBuffer
        cutoff := Duration.days 2
        batchSize := 100
        picked := ["event", "later"] }).at (Duration.days 16)]

def removeNamed : Call :=
  (Request.removeClassificationOverride "abs_one").at (Duration.days 16)

def namedRemoved : Service :=
  workingRouter.machine.next (workingRouter.machine.run Service.started mirroredName) removeNamed

theorem namedRemoved_facts :
    (workingRouter.machine.answer (workingRouter.machine.run Service.started mirroredName)
        removeNamed = .menuStatus ∧
      namedRemoved.tables.personalOverride = [] ∧ namedRemoved.tables.personalAppOverride = [] ∧
        namedRemoved.tables.personalSiteOverride = []) ∧
      Shows "Budget" namedRemoved.tables "abs_two" ∧
        Shows "Budget" (workingRouter.machine.next namedRemoved
          ((editorWindow "again" "notes" "three").at (Duration.days 17))).tables "abs_two" := by
  unfold Shows
  decide +kernel

theorem namedRemoved_uncarried :
    workingRouter.machine.answer (workingRouter.machine.run Service.started mirroredName)
        removeNamed = .menuStatus ∧ Uncarried "Budget" namedRemoved.tables := by
  obtain ⟨answered, windows, apps, sites⟩ := namedRemoved_facts.1
  refine ⟨answered, ⟨?_, ?_, ?_⟩⟩
  · simp [windows]
  · simp [apps]
  · simp [sites]

/-- The name of one window is mirrored to a sibling, and its rule is removed. -/
theorem typed_name_forgotten_iff_mirrored :
    (∀ later : List Call, (∀ call ∈ later, call.request.typedName ≠ some "Budget") →
        FreeOf "Budget" (workingRouter.machine.run namedRemoved later).tables) ↔
      (∀ stableId,
        Shows "Budget" (workingRouter.machine.run Service.started mirroredName).tables stableId →
          Reached (workingRouter.machine.run Service.started mirroredName).tables
            removeNamed.request stableId) ∧ ¬ BuiltInName "Budget" :=
  typed_name_forgotten_iff workingRouter (workingRouter.machine.run Service.started mirroredName)
    removeNamed "Budget" trivial namedRemoved_uncarried.1 namedRemoved_uncarried.2

/-- The other window keeps the name, although the rule that gave it is gone, and is shown under
it when it is seen again. -/
theorem typed_name_outlives_rule :
    workingRouter.machine.answer (workingRouter.machine.run Service.started mirroredName)
        removeNamed = .menuStatus ∧
      Uncarried "Budget" namedRemoved.tables ∧ Shows "Budget" namedRemoved.tables "abs_two" ∧
        Shows "Budget" (workingRouter.machine.next namedRemoved
          ((editorWindow "again" "notes" "three").at (Duration.days 17))).tables "abs_two" := by
  exact ⟨namedRemoved_uncarried.1, namedRemoved_uncarried.2, namedRemoved_facts.2⟩

end Velvt.Rules
