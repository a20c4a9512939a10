import Mathlib.Data.List.Dedup
import Velvt.RuleVisibility

/-!
# What needs a category

The list of applications and sites that could not be categorized, ranked together, and the teaching
of one of its applications.
-/

namespace Velvt.Rules

open List

/-- Ordered as the list breaks ties. -/
inductive TriageEntryKind
  | application
  | site
  deriving DecidableEq

def TriageEntryKind.rank : TriageEntryKind → Nat
  | .application => 0
  | .site => 1

/-- `UnclassifiedAppEntry`. -/
structure UnclassifiedAppEntry where
  appStableId : String
  displayName : Option String
  secondsObserved : Nat
  eventCount : Nat
  appBundleStableId : Option String

/-- `UnclassifiedTriageEntry`. -/
structure UnclassifiedTriageEntry where
  kind : TriageEntryKind
  stableId : String
  displayName : Option String
  secondsObserved : Nat
  eventCount : Nat
  deriving DecidableEq

def triageMinSeconds : Nat := 300

def triageMaxEntries : Nat := 8

namespace Tables

variable (tables : Tables)

/-- A rule that answers for an application under either of its identities. -/
def hasAppRule (appStableId : String) (bundleStableId : Option String) : Bool :=
  tables.personalAppOverride.any fun rule =>
    rule.appKeyHash == appStableId ||
      (rule.bundleKeyHash.isSome && rule.bundleKeyHash == bundleStableId)

/-- An event that the application list counts for its application. -/
def countsForApp (cutoff : Int) (observed : RawEventRow) : Bool :=
  observed.category == "UNLOGGED" && decide (cutoff ≤ observed.occurredAt) &&
    observed.appScopeEligible &&
    observed.appStableId.any fun app =>
      !tables.appScopeIdentityIsIneligible app observed.appBundleStableId &&
        !tables.hasAppRule app observed.appBundleStableId

/-- The newest name held of an application that could not be categorized. -/
def unclassifiedAppName (appStableId : String) : Option String :=
  (TableRows.newest (·.occurredAt) (tables.rawEventBuffer.filter fun named =>
    named.category == "UNLOGGED" && named.appStableId == some appStableId &&
      (named.localDisplayLabel <|> named.localNameSuggestion).isSome)).bind fun named =>
    named.localDisplayLabel <|> named.localNameSuggestion

/-- The row of the application list for a group of counted events, where it is long enough. -/
def appEntry (floor : Nat) (cutoff : Int) (appStableId : String) :
    Option UnclassifiedAppEntry :=
  let observed := tables.rawEventBuffer.filter fun event =>
    tables.countsForApp cutoff event && event.appStableId == some appStableId
  let seconds := (observed.map (·.durationSeconds)).sum
  if floor ≤ seconds then
    some
      { appStableId := appStableId
        displayName := tables.unclassifiedAppName appStableId
        secondsObserved := seconds
        eventCount := observed.length
        appBundleStableId := (observed.filterMap (·.appBundleStableId)).max? }
  else
    none

/-- The application list's query, with `none` for no cap. -/
def unclassifiedApplications (lookbackDays minSeconds : Nat) (limit : Option Nat) (now : Int) :
    List UnclassifiedAppEntry :=
  let cutoff := timestamp (now - Duration.days (max 1 (min lookbackDays 14)))
  let groups := ((tables.rawEventBuffer.filter (tables.countsForApp cutoff)).filterMap
    (·.appStableId)).dedup
  let grouped := groups.filterMap (tables.appEntry (max minSeconds triageMinSeconds) cutoff)
  let ranked := grouped.insertionSort fun first second =>
    second.secondsObserved < first.secondsObserved ∨
      (first.secondsObserved = second.secondsObserved ∧ ¬ second.appStableId < first.appStableId)
  match limit with
  | some limit => ranked.take limit
  | none => ranked

def unclassifiedTriage (lookbackDays minSeconds limit : Nat) (now : Int) :
    List UnclassifiedAppEntry :=
  if min limit triageMaxEntries = 0 then []
  else tables.unclassifiedApplications lookbackDays minSeconds (some (min limit triageMaxEntries)) now

def everyUnclassifiedApplication (lookbackDays : Nat) (now : Int) : List UnclassifiedAppEntry :=
  tables.unclassifiedApplications lookbackDays triageMinSeconds none now

end Tables

def UnclassifiedAppEntry.triage (entry : UnclassifiedAppEntry) : UnclassifiedTriageEntry where
  kind := .application
  stableId := entry.appStableId
  displayName := entry.displayName
  secondsObserved := entry.secondsObserved
  eventCount := entry.eventCount

def siteTriage (entry : Tables.UnclassifiedSiteEntry) : UnclassifiedTriageEntry where
  kind := .site
  stableId := entry.siteStableId
  displayName := some entry.displayName
  secondsObserved := entry.secondsObserved
  eventCount := entry.eventCount

/-- Longest observed first, then applications ahead of sites, then by key. -/
def RankedBefore (left right : UnclassifiedTriageEntry) : Prop :=
  right.secondsObserved < left.secondsObserved ∨
    (left.secondsObserved = right.secondsObserved ∧
      (left.kind.rank < right.kind.rank ∨
        (left.kind.rank = right.kind.rank ∧ ¬ right.stableId < left.stableId)))
  deriving Decidable

def ranked (applications : List UnclassifiedAppEntry)
    (sites : List Tables.UnclassifiedSiteEntry) : List UnclassifiedTriageEntry :=
  (applications.map UnclassifiedAppEntry.triage ++ sites.map siteTriage).insertionSort RankedBefore

namespace Tables

variable (tables : Tables)

def needsACategory (lookbackDays : Nat) (now : Int) : List UnclassifiedTriageEntry :=
  (ranked (tables.unclassifiedTriage lookbackDays triageMinSeconds triageMaxEntries now)
    (tables.unclassifiedSiteTriage lookbackDays triageMinSeconds triageMaxEntries now)).take
    triageMaxEntries

def everythingThatNeedsACategory (lookbackDays : Nat) (now : Int) :
    List UnclassifiedTriageEntry :=
  ranked (tables.everyUnclassifiedApplication lookbackDays now)
    (tables.everyUnclassifiedSite lookbackDays now)

end Tables

instance : Std.Total RankedBefore where
  total left right := by
    unfold RankedBefore
    rcases lt_trichotomy left.secondsObserved right.secondsObserved with less | same | more
    · exact .inr (.inl less)
    · rcases lt_trichotomy left.kind.rank right.kind.rank with ahead | sameKind | behind
      · exact .inl (.inr ⟨same, .inl ahead⟩)
      · rcases le_total left.stableId right.stableId with key | key
        · exact .inl (.inr ⟨same, .inr ⟨sameKind, not_lt.mpr key⟩⟩)
        · exact .inr (.inr ⟨same.symm, .inr ⟨sameKind.symm, not_lt.mpr key⟩⟩)
      · exact .inr (.inr ⟨same.symm, .inl behind⟩)
    · exact .inl (.inl more)

instance : IsTrans UnclassifiedTriageEntry RankedBefore where
  trans left middle right := by
    unfold RankedBefore
    rintro (more | ⟨same, ahead | ⟨sameKind, key⟩⟩) (moreThen | ⟨sameThen, aheadThen |
      ⟨sameKindThen, keyThen⟩⟩)
    · exact .inl (moreThen.trans more)
    · exact .inl (sameThen ▸ more)
    · exact .inl (sameThen ▸ more)
    · exact .inl (same ▸ moreThen)
    · exact .inr ⟨same.trans sameThen, .inl (ahead.trans aheadThen)⟩
    · exact .inr ⟨same.trans sameThen, .inl (sameKindThen ▸ ahead)⟩
    · exact .inl (same ▸ moreThen)
    · exact .inr ⟨same.trans sameThen, .inl (sameKind ▸ aheadThen)⟩
    · exact .inr ⟨same.trans sameThen, .inr ⟨sameKind.trans sameKindThen,
        not_lt.mpr ((not_lt.mp key).trans (not_lt.mp keyThen))⟩⟩

theorem RankedBefore.key_eq {left right : UnclassifiedTriageEntry} (forth : RankedBefore left right)
    (back : RankedBefore right left) : (left.kind, left.stableId) = (right.kind, right.stableId) := by
  unfold RankedBefore at forth back
  have sameKind : left.kind.rank = right.kind.rank := by omega
  have sameSeconds : left.secondsObserved = right.secondsObserved := by omega
  have kinds : left.kind = right.kind := by
    revert sameKind
    cases left.kind <;> cases right.kind <;> decide
  have after : ¬ right.stableId < left.stableId := by
    rcases forth with more | ⟨-, ahead | ⟨-, key⟩⟩
    · omega
    · omega
    · exact key
  have before : ¬ left.stableId < right.stableId := by
    rcases back with more | ⟨-, ahead | ⟨-, key⟩⟩
    · omega
    · omega
    · exact key
  rw [kinds, le_antisymm (not_lt.mp after) (not_lt.mp before)]

theorem pairwise_map_insertionSort {Row Image : Type} {image : Row → Image}
    {order : Image → Image → Prop} [Std.Total order] [IsTrans Image order]
    {own : Row → Row → Prop} [DecidableRel own]
    (same : ∀ first second, own first second ↔ order (image first) (image second))
    (rows : List Row) : ((rows.insertionSort own).map image).Pairwise order := by
  have total : Std.Total own := ⟨fun first second => by
    rw [same, same]
    exact Std.Total.total _ _⟩
  have trans : IsTrans Row own := ⟨fun first second third forth back => by
    rw [same] at forth back ⊢
    exact IsTrans.trans _ _ _ forth back⟩
  rw [pairwise_map]
  exact (pairwise_insertionSort own rows).imp fun ordered => (same _ _).mp ordered

theorem map_filterMap_sublist {Value Row Key : Type} {entry : Value → Option Row}
    {key : Row → Key} {own : Value → Key}
    (keyed : ∀ value row, entry value = some row → key row = own value) (values : List Value) :
    ((values.filterMap entry).map key).Sublist (values.map own) := by
  induction values with
  | nil => exact List.Sublist.refl _
  | cons value values ih =>
    cases found : entry value with
    | none =>
      rw [filterMap_cons_none found]
      exact ih.cons (own value)
    | some row =>
      rw [filterMap_cons_some found, map_cons, keyed value row found]
      exact ih.cons_cons (own value)

namespace Tables

variable (tables : Tables)

theorem appEntry_key {floor : Nat} {cutoff : Int} {app : String} {entry : UnclassifiedAppEntry}
    (found : tables.appEntry floor cutoff app = some entry) : entry.appStableId = app := by
  rw [appEntry, Option.ite_none_right_eq_some, Option.some.injEq] at found
  rw [← found.2]

theorem siteEntry_key {floor : Nat} {cutoff : Int} {name : LocalSiteName}
    {entry : UnclassifiedSiteEntry} (found : tables.siteEntry floor cutoff name = some entry) :
    entry.siteStableId = name.siteKeyHash := by
  rw [siteEntry, Option.ite_none_right_eq_some, Option.some.injEq] at found
  rw [← found.2]

theorem everyUnclassifiedApplication_nodup (lookbackDays : Nat) (now : Int) :
    ((tables.everyUnclassifiedApplication lookbackDays now).map (·.appStableId)).Nodup := by
  unfold everyUnclassifiedApplication unclassifiedApplications
  refine ((perm_insertionSort _ _).map _).nodup_iff.mpr ?_
  have groups := @nodup_dedup String _ ((tables.rawEventBuffer.filter (tables.countsForApp
    (timestamp (now - Duration.days (max 1 (min lookbackDays 14)))))).filterMap (·.appStableId))
  rw [← map_id (List.dedup _)] at groups
  exact groups.sublist (map_filterMap_sublist (fun _ _ found => tables.appEntry_key found) _)

theorem everyUnclassifiedSite_nodup (distinct : (tables.localSiteName.map (·.siteKeyHash)).Nodup)
    (lookbackDays : Nat) (now : Int) :
    ((tables.everyUnclassifiedSite lookbackDays now).map (·.siteStableId)).Nodup := by
  unfold everyUnclassifiedSite unclassifiedSites
  refine ((perm_insertionSort _ _).map _).nodup_iff.mpr ?_
  exact distinct.sublist (map_filterMap_sublist (fun _ _ found => tables.siteEntry_key found) _)

theorem halves_nodup (distinct : (tables.localSiteName.map (·.siteKeyHash)).Nodup)
    (lookbackDays : Nat) (now : Int) :
    (((tables.everyUnclassifiedApplication lookbackDays now).map UnclassifiedAppEntry.triage ++
      (tables.everyUnclassifiedSite lookbackDays now).map siteTriage).map
        fun entry => (entry.kind, entry.stableId)).Nodup := by
  rw [map_append, map_map, map_map, nodup_append]
  refine ⟨?_, ?_, ?_⟩
  · have apps := (tables.everyUnclassifiedApplication_nodup lookbackDays now).map
      (f := fun key => (TriageEntryKind.application, key)) fun _ _ same => (Prod.mk.inj same).2
    rwa [map_map] at apps
  · have sites := (tables.everyUnclassifiedSite_nodup distinct lookbackDays now).map
      (f := fun key => (TriageEntryKind.site, key)) fun _ _ same => (Prod.mk.inj same).2
    rwa [map_map] at sites
  · rintro first firstMem second secondMem rfl
    obtain ⟨app, -, sameApp⟩ := mem_map.mp firstMem
    obtain ⟨site, -, sameSite⟩ := mem_map.mp secondMem
    have kinds := congrArg Prod.fst (sameApp.trans sameSite.symm)
    cases kinds

theorem everything_nodup (distinct : (tables.localSiteName.map (·.siteKeyHash)).Nodup)
    (lookbackDays : Nat) (now : Int) :
    ((tables.everythingThatNeedsACategory lookbackDays now).map
      fun entry => (entry.kind, entry.stableId)).Nodup :=
  ((perm_insertionSort _ _).map _).nodup_iff.mpr (tables.halves_nodup distinct lookbackDays now)

theorem everyUnclassifiedApplication_ranked (lookbackDays : Nat) (now : Int) :
    ((tables.everyUnclassifiedApplication lookbackDays now).map
      UnclassifiedAppEntry.triage).Pairwise RankedBefore := by
  have same : ∀ first second : UnclassifiedAppEntry,
      (second.secondsObserved < first.secondsObserved ∨
        (first.secondsObserved = second.secondsObserved ∧
          ¬ second.appStableId < first.appStableId)) ↔
        RankedBefore first.triage second.triage := by
    intro first second
    simp [RankedBefore, UnclassifiedAppEntry.triage]
  exact pairwise_map_insertionSort same _

theorem everyUnclassifiedSite_ranked (lookbackDays : Nat) (now : Int) :
    ((tables.everyUnclassifiedSite lookbackDays now).map siteTriage).Pairwise RankedBefore := by
  have same : ∀ first second : UnclassifiedSiteEntry,
      (second.secondsObserved < first.secondsObserved ∨
        (first.secondsObserved = second.secondsObserved ∧
          ¬ second.siteStableId < first.siteStableId)) ↔
        RankedBefore (siteTriage first) (siteTriage second) := by
    intro first second
    simp [RankedBefore, siteTriage]
  exact pairwise_map_insertionSort same _

theorem needsACategory_eq_take (distinct : (tables.localSiteName.map (·.siteKeyHash)).Nodup)
    (lookbackDays : Nat) (now : Int) :
    tables.needsACategory lookbackDays now =
      (tables.everythingThatNeedsACategory lookbackDays now).take triageMaxEntries := by
  have apps : tables.unclassifiedTriage lookbackDays triageMinSeconds triageMaxEntries now =
      (tables.everyUnclassifiedApplication lookbackDays now).take triageMaxEntries := rfl
  have sites : tables.unclassifiedSiteTriage lookbackDays triageMinSeconds triageMaxEntries now =
      (tables.everyUnclassifiedSite lookbackDays now).take triageMaxEntries := rfl
  have keys := tables.halves_nodup distinct lookbackDays now
  rw [needsACategory, everythingThatNeedsACategory, ranked, ranked, apps, sites, map_take, map_take]
  refine TableRows.take_insertionSort_append _ ?_
    (tables.everyUnclassifiedApplication_ranked lookbackDays now)
    (tables.everyUnclassifiedSite_ranked lookbackDays now)
  intro first firstMem second secondMem forth back
  exact inj_on_of_nodup_map keys firstMem secondMem (forth.key_eq back)

end Tables

section Teaching

namespace Tables

variable (tables : Tables)

theorem counted_of_listed {lookbackDays : Nat} {now : Int} {entry : UnclassifiedTriageEntry}
    (listed : entry ∈ tables.everythingThatNeedsACategory lookbackDays now)
    (isApp : entry.kind = .application) :
    ∃ cutoff, ∃ observed ∈ tables.rawEventBuffer,
      tables.countsForApp cutoff observed = true ∧ observed.appStableId = some entry.stableId := by
  rcases mem_append.mp ((mem_insertionSort _).mp listed) with fromApp | fromSite
  · obtain ⟨app, appMem, rfl⟩ := mem_map.mp fromApp
    obtain ⟨group, groupMem, found⟩ := mem_filterMap.mp ((mem_insertionSort _).mp appMem)
    obtain ⟨observed, observedMem, inApp⟩ :=
      mem_filterMap.mp (mem_dedup.mp groupMem)
    obtain ⟨held, counts⟩ := mem_filter.mp observedMem
    exact ⟨_, observed, held, counts, inApp.trans (congrArg some (tables.appEntry_key found).symm)⟩
  · obtain ⟨site, -, rfl⟩ := mem_map.mp fromSite
    cases isApp

theorem countsForApp_spec {cutoff : Int} {observed : RawEventRow} {app : String}
    (counts : tables.countsForApp cutoff observed = true)
    (inApp : observed.appStableId = some app) :
    (∀ event ∈ tables.rawEventBuffer, event.appStableId = some app →
        event.appScopeEligible = true) ∧
      ∀ rule ∈ tables.personalAppOverride, rule.appKeyHash ≠ app := by
  rw [countsForApp, inApp] at counts
  simp only [Option.any_some, Bool.and_eq_true, Bool.not_eq_true'] at counts
  obtain ⟨-, eligible, untaught⟩ := counts
  constructor
  · intro event member sameApp
    have cleared := any_eq_false.mp eligible event member
    rw [sameApp] at cleared
    simpa using cleared
  · intro rule member same
    have passed := any_eq_false.mp untaught rule member
    simp [same] at passed

/-- No event under the greatest bundle identity of the application's unclassified events is a
browser's. -/
def BundleTeachable (app : String) : Prop :=
  ∀ bundle,
    (∃ event ∈ tables.rawEventBuffer, event.category = "UNLOGGED" ∧
      event.appStableId = some app ∧ event.appBundleStableId = some bundle) →
    (∀ event ∈ tables.rawEventBuffer, event.category = "UNLOGGED" →
      event.appStableId = some app → ∀ other, event.appBundleStableId = some other →
        other ≤ bundle) →
    ∀ event ∈ tables.rawEventBuffer, event.appBundleStableId = some bundle →
      event.appScopeEligible = true

theorem unclassifiedAppBundleKey_eq_some_iff {app bundle : String} :
    tables.unclassifiedAppBundleKey app = some bundle ↔
      (∃ event ∈ tables.rawEventBuffer, event.category = "UNLOGGED" ∧
        event.appStableId = some app ∧ event.appBundleStableId = some bundle) ∧
      ∀ event ∈ tables.rawEventBuffer, event.category = "UNLOGGED" →
        event.appStableId = some app → ∀ other, event.appBundleStableId = some other →
          other ≤ bundle := by
  rw [unclassifiedAppBundleKey, List.max?_eq_some_iff]
  simp only [mem_filterMap, mem_filter, Bool.and_eq_true, beq_iff_eq]
  constructor
  · rintro ⟨⟨event, ⟨member, unlogged, inApp⟩, found⟩, greatest⟩
    exact ⟨⟨event, member, unlogged, inApp, found⟩, fun event member unlogged inApp other found =>
      greatest other ⟨event, ⟨member, unlogged, inApp⟩, found⟩⟩
  · rintro ⟨⟨event, member, unlogged, inApp, found⟩, greatest⟩
    refine ⟨⟨event, ⟨member, unlogged, inApp⟩, found⟩, ?_⟩
    rintro other ⟨event, ⟨member, unlogged, inApp⟩, found⟩
    exact greatest event member unlogged inApp other found

theorem appScopeIdentityIsIneligible_iff {app : String}
    (eligible : ∀ event ∈ tables.rawEventBuffer, event.appStableId = some app →
      event.appScopeEligible = true) :
    tables.appScopeIdentityIsIneligible app (tables.unclassifiedAppBundleKey app) = false ↔
      tables.BundleTeachable app := by
  have teachable : tables.BundleTeachable app ↔
      ∀ bundle, tables.unclassifiedAppBundleKey app = some bundle →
        ∀ event ∈ tables.rawEventBuffer, event.appBundleStableId = some bundle →
          event.appScopeEligible = true := by
    simp only [BundleTeachable, unclassifiedAppBundleKey_eq_some_iff, and_imp]
  rw [teachable, appScopeIdentityIsIneligible, any_eq_false]
  constructor
  · intro cleared bundle found event member sameBundle
    have passed := cleared event member
    rw [found, sameBundle] at passed
    simpa using passed
  · intro safe event member refused
    simp only [Bool.and_eq_true, Bool.not_eq_true', Bool.or_eq_true, beq_iff_eq] at refused
    obtain ⟨browser, inApp | ⟨hasBundle, sameBundle⟩⟩ := refused
    · rw [eligible event member inApp] at browser
      cases browser
    · obtain ⟨bundle, found⟩ := Option.isSome_iff_exists.mp hasBundle
      rw [safe bundle found event member (sameBundle.trans found)] at browser
      cases browser

end Tables

def teachApplication (entry : UnclassifiedTriageEntry) (category : String)
    (activityName : Option String) : Request :=
  .setApplicationCategory
    { keyHash := entry.stableId
      category := category
      activityName := activityName }

variable {router : Router} {moment : Moment} {tables : Tables} {entry : UnclassifiedTriageEntry}
  {category : String} {activityName : Option String}

theorem setApplicationCategory_accepted_iff (available : router.hasAbstractionMap = true)
    (working : ∀ storeCall, moment.fails storeCall = false)
    (known : (overrideLabelForCategory category).isSome = true)
    (issued : normalizedAppStableId entry.stableId = some entry.stableId)
    {name : Option String} (named : normalizedLocalActivityName activityName = .ok name)
    (eligible : ∀ event ∈ tables.rawEventBuffer, event.appStableId = some entry.stableId →
      event.appScopeEligible = true) :
    (setApplicationCategory router moment
        { keyHash := entry.stableId, category := category, activityName := activityName }
        tables).1 = .menuStatus ↔
      tables.BundleTeachable entry.stableId := by
  obtain ⟨label, labelled⟩ := Option.isSome_iff_exists.mp known
  rw [← tables.appScopeIdentityIsIneligible_iff eligible]
  simp only [setApplicationCategory, labelled, available, issued, named, working,
    Option.isNone_some, Bool.not_true, Bool.false_eq_true, if_false]
  rw [correctionAnswer_eq_menuStatus]
  cases refused : tables.appScopeIdentityIsIneligible entry.stableId
      (tables.unclassifiedAppBundleKey entry.stableId) <;>
    simp [attempt, write, Tables.saveAppScopeOverride, refused, Except.map]

theorem teachApplication_answer {service : Service} {instant : Int} :
    router.machine.answer service ((teachApplication entry category activityName).at instant) =
      (setApplicationCategory router { now := instant, fails := fun _ => false }
        { keyHash := entry.stableId, category := category, activityName := activityName }
        service.tables).1 :=
  rfl

theorem setApplicationCategory_taught (accepted : (setApplicationCategory router moment
      { keyHash := entry.stableId, category := category, activityName := activityName }
      tables).1 = .menuStatus) :
    ∃ rule ∈ (setApplicationCategory router moment
      { keyHash := entry.stableId, category := category, activityName := activityName }
      tables).2.personalAppOverride, rule.appKeyHash = entry.stableId := by
  unfold setApplicationCategory at accepted ⊢
  split at accepted
  · cases accepted
  · rename_i known
    rw [if_neg known]
    split at accepted
    · cases accepted
    · rename_i available
      rw [if_neg available]
      split at accepted
      · cases accepted
      · rename_i key issued
        obtain rfl := normalizedAppStableId_eq_some issued
        split at accepted
        · cases accepted
        · obtain ⟨_, done⟩ := correctionAnswer_eq_menuStatus.mp accepted
          have saves := write_eq_ok.mp (attempt_eq_ok done)
          dsimp only
          rw [correctionAnswer_tables, tables.saveAppScopeOverride_eq_ok saves]
          obtain ⟨rule, member, new | ⟨old, -, atKey, merged⟩⟩ := TableRows.exists_mem_upsert
            (fun rule : AppOverrideRow => rule.appKeyHash) _ _ _
          · exact ⟨rule, member, by rw [new]⟩
          · exact ⟨rule, member, by rw [merged]; exact atKey⟩

end Teaching

section Reachable

/-- Site names have keys of their own, and every event carries an application key that the engine
issued. -/
structure Listable (engine : AbstractionEngine) (tables : Tables) : Prop where
  names : (tables.localSiteName.map (·.siteKeyHash)).Nodup
  issued : ∀ event ∈ tables.rawEventBuffer, ∃ app,
    event.appStableId = some (engine.appStableKey app)

variable {router : Router} {moment : Moment} {dwells : List (UInt64 × AbstractedEvent)}
  {request : Request} {tables changed : Tables} {engine : AbstractionEngine}

theorem Listable.of_sublist (listable : Listable engine tables)
    (names : changed.localSiteName.Sublist tables.localSiteName)
    (events : changed.rawEventBuffer ⊆ tables.rawEventBuffer) : Listable engine changed :=
  ⟨listable.names.sublist (names.map _), fun event member => listable.issued event (events member)⟩

theorem Listable.of_eq (listable : Listable engine tables)
    (names : changed.localSiteName = tables.localSiteName)
    (events : changed.rawEventBuffer = tables.rawEventBuffer) : Listable engine changed :=
  listable.of_sublist (names ▸ List.Sublist.refl _) (events ▸ List.Subset.refl _)

theorem issued_of_abstracts {event : RawEvent} {abstracted : AbstractedEvent}
    (abstracts : Abstracts router event tables abstracted) :
    ∃ app, abstracted.appStableId = router.engine.appStableKey app := by
  obtain ⟨classified, mapping, -, -, rfl⟩ := abstracts
  exact ⟨event.appName, rfl⟩

/-- A request records only events with keys that the engine issued. -/
theorem Commits.listable (commits : Commits router moment dwells request tables changed)
    (held : ∀ dwell ∈ dwells, ∃ app, dwell.2.appStableId = router.engine.appStableKey app)
    (listable : Listable router.engine tables) : Listable router.engine changed := by
  cases commits with
  | mapped _ _ upserted =>
    obtain ⟨-, rfl⟩ := tables.upsertMapping_eq_ok upserted
    exact listable.of_eq rfl rfl
  | inserted cleared closed abstraction stored =>
    rename_i abstracted
    obtain rfl := tables.insertRawEvent_eq_ok stored
    have issued : ∃ app, abstracted.appStableId = router.engine.appStableKey app := by
      rcases abstraction with inProgress | abstracts
      · obtain ⟨dwell, dwellMem, rfl⟩ := mem_map.mp inProgress
        exact held dwell dwellMem
      · exact issued_of_abstracts abstracts
    refine ⟨listable.names, fun row member => ?_⟩
    rcases mem_append.mp member with old | new
    · exact listable.issued row old
    · obtain ⟨app, key⟩ := issued
      rw [mem_singleton.mp new]
      exact ⟨app, congrArg some key⟩
  | named host closed =>
    rename_i event _ _ _
    rcases tables.recordLocalSiteName_spec event.eventId host moment.now with
      unchanged | ⟨_, _, _, _, _, _, _, recorded⟩
    · rwa [unchanged]
    · rw [recorded]
      exact ⟨TableRows.nodup_map_key_upsert (fun _ atKey => atKey.symm) listable.names,
        listable.issued⟩
  | correctedApp =>
    refine listable.of_eq ?_ ?_ <;>
      · unfold Tables.savePersonalAppOverride Tables.saveRung
        split <;> rfl
  | updatedApp =>
    refine listable.of_eq ?_ ?_ <;>
      · unfold Tables.savePersonalAppOverrideByStableId Tables.saveRung
        split <;> rfl
  | correctedWindow _ saves | updatedWindow _ saves =>
    obtain ⟨mapping, -, rfl⟩ := tables.savePersonalOverride_eq_ok saves
    exact listable.of_eq rfl rfl
  | correctedEvent =>
    refine ⟨listable.names, fun event member => ?_⟩
    rcases TableRows.mem_update.mp member with ⟨old, -⟩ | ⟨old, oldMem, -, rfl⟩
    · exact listable.issued event old
    · exact listable.issued old oldMem
  | editedSite =>
    unfold Tables.editSiteScopeOverride
    split <;> exact listable.of_eq rfl rfl
  | editedApp _ saves | taughtApp _ _ saves =>
    obtain rfl := tables.saveAppScopeOverride_eq_ok saves
    exact listable.of_eq rfl rfl
  | taughtSite => exact listable.of_sublist filter_sublist (List.Subset.refl _)
  | swept =>
    unfold sweep
    split
    · exact listable
    · split
      · exact listable.of_sublist (List.Sublist.refl _) fun _ member =>
          Tables.mem_of_mem_deleteSome member
      · exact listable.of_eq rfl rfl
      · exact listable.of_sublist filter_sublist (List.Subset.refl _)
      · exact listable.of_eq rfl rfl
  | _ => exact listable.of_eq rfl rfl

theorem listable_run (router : Router) (calls : List Call) :
    Listable router.engine (router.machine.run Service.started calls).tables := by
  have keeps : ∀ (service : Service) (call : Call), Listable router.engine service.tables ∧
        (∀ dwell ∈ service.inProgressDwells,
          ∃ app, dwell.2.appStableId = router.engine.appStableKey app) →
      Listable router.engine (router.machine.next service call).tables ∧
        ∀ dwell ∈ (router.machine.next service call).inProgressDwells,
          ∃ app, dwell.2.appStableId = router.engine.appStableKey app := by
    rintro service call ⟨listable, held⟩
    refine ⟨(handle_reaches router service call).preserves
      (fun commits before => commits.listable held before) listable, fun dwell dwellMem => ?_⟩
    rcases handle_dwells router service call dwellMem with
      before | ⟨_, _, _, _, -, abstracts⟩
    · exact held dwell before
    · exact issued_of_abstracts abstracts
  have initial : Listable router.engine Service.started.tables :=
    ⟨nodup_nil, fun event member => absurd member not_mem_nil⟩
  exact (router.machine.invariant_run_of_forall keeps calls
    ⟨initial, fun dwell member => absurd member not_mem_nil⟩).1

/-- The list is the head of everything that needs a category, without repetition.  Teaching an
application of it is accepted exactly when its greatest bundle identity has no browser events, and
takes it off the list. -/
theorem triage_list_teachable_iff (router : Router) (available : router.hasAbstractionMap = true)
    (digestLength : ∀ message, (router.engine.sha256 message).length = 32) (calls : List Call)
    (lookbackDays : Nat) (now : Int) :
    let service := router.machine.run Service.started calls
    let everything := service.tables.everythingThatNeedsACategory lookbackDays now
    service.tables.needsACategory lookbackDays now = everything.take triageMaxEntries ∧
    (everything.map fun entry => (entry.kind, entry.stableId)).Nodup ∧
    ∀ entry ∈ everything, entry.kind = .application →
      ∀ category activityName name instant,
        (overrideLabelForCategory category).isSome = true →
        normalizedLocalActivityName activityName = .ok name →
        (router.machine.answer service
            ((teachApplication entry category activityName).at instant) = .menuStatus ↔
          service.tables.BundleTeachable entry.stableId) ∧
        (router.machine.answer service
            ((teachApplication entry category activityName).at instant) = .menuStatus →
          ∀ laterLookback later,
            ∀ other ∈ (router.machine.next service
                ((teachApplication entry category activityName).at
                  instant)).tables.everythingThatNeedsACategory laterLookback later,
              (other.kind, other.stableId) ≠ (entry.kind, entry.stableId)) := by
  intro service everything
  have listable := listable_run router calls
  refine ⟨service.tables.needsACategory_eq_take listable.names lookbackDays now,
    service.tables.everything_nodup listable.names lookbackDays now, ?_⟩
  intro entry listed isApp category activityName name instant known named
  obtain ⟨cutoff, observed, member, counts, inApp⟩ := service.tables.counted_of_listed listed isApp
  have eligible := (service.tables.countsForApp_spec counts inApp).1
  have issued : normalizedAppStableId entry.stableId = some entry.stableId := by
    obtain ⟨app, key⟩ := listable.issued observed member
    rw [← Option.some.inj (key.symm.trans inApp)]
    exact normalizedAppStableId_saltedKey _ digestLength _ _
  constructor
  · exact setApplicationCategory_accepted_iff available (fun _ => rfl) known issued named eligible
  · intro accepted laterLookback later other otherListed same
    obtain ⟨otherKind, otherId⟩ := Prod.mk.inj same
    obtain ⟨_, _, _, counted, otherApp⟩ :=
      Tables.counted_of_listed _ otherListed (otherKind.trans isApp)
    rw [otherId] at otherApp
    obtain ⟨rule, held, atKey⟩ := setApplicationCategory_taught accepted
    exact (Tables.countsForApp_spec _ counted otherApp).2 rule held atKey

end Reachable

def unloggedWindow (eventId appName windowTitle uuid : String) (bundleId url : Option String) :
    Request :=
  .rawEvent
    { eventId := eventId
      occurredAt := 0
      durationSeconds := 600
      appName := appName
      windowTitle := windowTitle
      bundleId := bundleId
      declaredAppCategory := none
      documentTypeIds := []
      focusedDocumentUrl := url
      inProgress := false }
    { embedding := none
      classification := some
        { label := "unlogged"
          category := "UNLOGGED"
          taxonomyVersion := taxonomyVersion
          tier := .fallback
          status := .unclassified
          confidence := .low
          source := .fallback }
      uuid := uuid }
    false false

theorem checksum_length (message : List UInt8) : (checksum message).length = 32 := by
  simp [checksum]

def seenReader : List Call :=
  [(unloggedWindow "reader" "Reader" "plan" "one" none none).at 0]

def readerEntry : UnclassifiedTriageEntry where
  kind := .application
  stableId := workingRouter.engine.appStableKey "Reader"
  displayName := some "Reader"
  secondsObserved := 600
  eventCount := 1

/-- A listed application can be taught. -/
theorem triage_list_teachable_iff_seenReader :
    workingRouter.machine.answer (workingRouter.machine.run Service.started seenReader)
        ((teachApplication readerEntry "FOCUS_WORK" none).at 1) = .menuStatus ↔
      (workingRouter.machine.run Service.started seenReader).tables.BundleTeachable
        readerEntry.stableId :=
  ((triage_list_teachable_iff workingRouter rfl checksum_length seenReader 7 1).2.2 readerEntry
    (by decide +kernel) rfl "FOCUS_WORK" none none 1 (by decide +kernel) rfl).1

/-- The application has also been seen under the bundle identity of a browser. -/
def seenAsBrowser : List Call :=
  [(unloggedWindow "tab" "Safari" "page" "tab" (some "com.apple.Safari")
      (some "https://example.org/")).at 0,
    (unloggedWindow "pane" "Reader" "page" "pane" (some "com.apple.Safari") none).at 0,
    (unloggedWindow "reader" "Reader" "plan" "one" none none).at 0]

/-- The list offers an application that the teaching refuses. -/
theorem listed_application_refused :
    ¬ ∀ (router : Router), router.hasAbstractionMap = true →
      (∀ message, (router.engine.sha256 message).length = 32) →
      ∀ (calls : List Call) (lookbackDays : Nat) (now : Int),
        ∀ entry ∈ (router.machine.run Service.started calls).tables.needsACategory lookbackDays now,
          entry.kind = .application →
          ∀ category, (overrideLabelForCategory category).isSome = true → ∀ instant,
            router.machine.answer (router.machine.run Service.started calls)
              ((teachApplication entry category none).at instant) = .menuStatus := by
  intro accepted
  have facts : readerEntry ∈
        (workingRouter.machine.run Service.started seenAsBrowser).tables.needsACategory 7 1 ∧
      (∀ event ∈ (workingRouter.machine.run Service.started seenAsBrowser).tables.rawEventBuffer,
        event.appStableId = some readerEntry.stableId → event.appScopeEligible = true) ∧
      (workingRouter.machine.run Service.started
          seenAsBrowser).tables.appScopeIdentityIsIneligible readerEntry.stableId
        ((workingRouter.machine.run Service.started seenAsBrowser).tables.unclassifiedAppBundleKey
          readerEntry.stableId) = true := by
    decide +kernel
  obtain ⟨listed, eligible, refused⟩ := facts
  have issued : normalizedAppStableId readerEntry.stableId = some readerEntry.stableId :=
    normalizedAppStableId_saltedKey workingRouter.engine.sha256 checksum_length
      workingRouter.engine.salt (appDigest workingRouter.engine.sha256 "Reader")
  have known : (overrideLabelForCategory "FOCUS_WORK").isSome = true := by decide +kernel
  have taught := accepted workingRouter rfl checksum_length seenAsBrowser 7 1 readerEntry
    listed rfl "FOCUS_WORK" known 1
  rw [teachApplication_answer, setApplicationCategory_accepted_iff rfl (fun _ => rfl) known issued
    rfl eligible, ← Tables.appScopeIdentityIsIneligible_iff _ eligible, refused] at taught
  cases taught

end Velvt.Rules
