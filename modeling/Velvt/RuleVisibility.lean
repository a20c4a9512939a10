import Velvt.RuleWrites

/-!
# Every rule can be seen and removed

A correction writes two rungs: a rule about the window, which the history lists, and one about its
application, which the history hides.
-/

namespace Velvt.Rules

open List TableRows

section Sightings

/-- Every stable id belongs to one application: that of its mapping's window, and of every
event seen under it. -/
structure Sighted (ownerOf appOf : String → String) (tables : Tables) : Prop where
  mappings : ∀ row ∈ tables.abstractionMap, appOf row.stableId = ownerOf row.keyHash
  events : ∀ event ∈ tables.rawEventBuffer, event.appStableId = some (appOf event.stableId)

/-- A report of a window of one application, with a stable id of its own to draw. -/
def Consistent (router : Router) (ownerOf appOf : String → String) (request : Request) : Prop :=
  ∀ reported perception uploadEligible hasActiveBlock,
    request = .rawEvent reported perception uploadEligible hasActiveBlock →
      ∀ event, event = clearDeclaredMetadataBeyondBounds reported →
        ownerOf (router.engine.identityOf event).stableKey =
            (router.engine.identityOf event).appStableKey ∧
          appOf perception.freshId = (router.engine.identityOf event).appStableKey

variable {router : Router} {ownerOf appOf : String → String} {moment : Moment}
  {dwells : List (UInt64 × AbstractedEvent)} {request : Request} {tables changed : Tables}

theorem Sighted.of_subset (sighted : Sighted ownerOf appOf tables)
    (mappings : ∀ row ∈ changed.abstractionMap, ∃ old ∈ tables.abstractionMap,
      row.stableId = old.stableId ∧ row.keyHash = old.keyHash)
    (events : ∀ event ∈ changed.rawEventBuffer, ∃ old ∈ tables.rawEventBuffer,
      event.stableId = old.stableId ∧ event.appStableId = old.appStableId) :
    Sighted ownerOf appOf changed where
  mappings row member := by
    obtain ⟨old, oldMem, sameId, sameKey⟩ := mappings row member
    rw [sameId, sameKey]
    exact sighted.mappings old oldMem
  events event member := by
    obtain ⟨old, oldMem, sameId, sameApp⟩ := events event member
    rw [sameId, sameApp]
    exact sighted.events old oldMem

theorem Sighted.of_eq (sighted : Sighted ownerOf appOf tables)
    (mappings : changed.abstractionMap = tables.abstractionMap)
    (events : changed.rawEventBuffer = tables.rawEventBuffer) :
    Sighted ownerOf appOf changed :=
  ⟨mappings ▸ sighted.mappings, events ▸ sighted.events⟩

theorem Tables.mem_clearDisplayNames {selected : AbstractionMapping → Bool}
    {row : AbstractionMapping} (member : row ∈ (tables.clearDisplayNames selected).abstractionMap) :
    ∃ old ∈ tables.abstractionMap, row.stableId = old.stableId ∧ row.keyHash = old.keyHash := by
  rcases mem_update.mp member with ⟨old, -⟩ | ⟨old, oldMem, -, rfl⟩
  · exact ⟨row, old, rfl, rfl⟩
  · exact ⟨old, oldMem, rfl, rfl⟩

theorem Sighted.clearDisplayNames (sighted : Sighted ownerOf appOf tables)
    (selected : AbstractionMapping → Bool) :
    Sighted ownerOf appOf (tables.clearDisplayNames selected) :=
  sighted.of_subset (fun _ member => Tables.mem_clearDisplayNames member)
    fun event member => ⟨event, member, rfl, rfl⟩

theorem Sighted.sweep (sighted : Sighted ownerOf appOf tables) (pass : RetentionSweep) :
    Sighted ownerOf appOf (sweep moment pass tables) := by
  unfold Rules.sweep
  split
  · exact sighted
  · split
    · exact sighted.of_subset (fun row member => ⟨row, member, rfl, rfl⟩)
        fun event member => ⟨event, Tables.mem_of_mem_deleteSome member, rfl, rfl⟩
    · exact sighted.of_subset
        (fun row member => ⟨row, Tables.mem_of_mem_deleteSome member, rfl, rfl⟩)
        fun event member => ⟨event, member, rfl, rfl⟩
    · exact sighted.of_eq rfl rfl
    · exact sighted.of_eq rfl rfl

theorem Sighted.abstraction (sighted : Sighted ownerOf appOf tables)
    {reported : RawEvent} {perception : Perception} {uploadEligible hasActiveBlock : Bool}
    (consistent : Consistent router ownerOf appOf
      (.rawEvent reported perception uploadEligible hasActiveBlock))
    {abstracted : AbstractedEvent}
    (abstracts : Abstracts router (clearDeclaredMetadataBeyondBounds reported) tables
      abstracted) : abstracted.appStableId = appOf abstracted.stableId := by
  obtain ⟨classified, mapping, member, keyed, rfl⟩ := abstracts
  have owned := (consistent reported perception uploadEligible hasActiveBlock rfl _ rfl).1
  calc
    (router.engine.identityOf (clearDeclaredMetadataBeyondBounds reported)).appStableKey =
        ownerOf mapping.keyHash := by rw [keyed, owned]
    _ = appOf mapping.stableId := (sighted.mappings mapping member).symm

/-- A request leaves every stable id with its application. -/
theorem Commits.sighted (commits : Commits router moment dwells request tables changed)
    (consistent : Consistent router ownerOf appOf request)
    (seen : ∀ dwell ∈ dwells, dwell.2.appStableId = appOf dwell.2.stableId)
    (sighted : Sighted ownerOf appOf tables) : Sighted ownerOf appOf changed := by
  cases commits with
  | mapped cleared _ upserted =>
    obtain ⟨-, rfl⟩ := tables.upsertMapping_eq_ok upserted
    obtain ⟨owned, drawn⟩ := consistent _ _ _ _ rfl _ cleared
    refine ⟨fun row member => ?_, sighted.events⟩
    rcases mem_upsert.mp member with ⟨old, -⟩ | ⟨old, oldMem, -, rfl⟩ | ⟨-, rfl⟩
    · exact sighted.mappings row old
    · exact sighted.mappings old oldMem
    · exact drawn.trans owned.symm
  | inserted cleared closed abstraction stored =>
    rename_i abstracted
    obtain rfl := tables.insertRawEvent_eq_ok stored
    have inApp : abstracted.appStableId = appOf abstracted.stableId := by
      rcases abstraction with held | abstracts
      · obtain ⟨dwell, dwellMem, rfl⟩ := mem_map.mp held
        exact seen dwell dwellMem
      · exact sighted.abstraction consistent (cleared ▸ abstracts)
    refine ⟨sighted.mappings, fun row member => ?_⟩
    rcases mem_append.mp member with old | new
    · exact sighted.events row old
    · rw [mem_singleton.mp new]
      exact congrArg some inApp
  | named host closed =>
    rename_i event _ _ _
    rcases tables.recordLocalSiteName_spec event.eventId host moment.now with
      unchanged | ⟨_, _, _, _, _, _, _, recorded⟩
    · rwa [unchanged]
    · rw [recorded]
      exact sighted.of_eq rfl rfl
  | correctedApp =>
    refine sighted.of_eq ?_ ?_ <;>
      · unfold Tables.savePersonalAppOverride Tables.saveRung
        split <;> rfl
  | updatedApp =>
    refine sighted.of_eq ?_ ?_ <;>
      · unfold Tables.savePersonalAppOverrideByStableId Tables.saveRung
        split <;> rfl
  | correctedWindow _ saves | updatedWindow _ saves =>
    obtain ⟨mapping, -, rfl⟩ := tables.savePersonalOverride_eq_ok saves
    exact sighted.of_eq rfl rfl
  | correctedEvent =>
    refine sighted.of_subset (fun row member => ⟨row, member, rfl, rfl⟩) fun event member => ?_
    rcases mem_update.mp member with ⟨old, -⟩ | ⟨old, oldMem, -, rfl⟩
    · exact ⟨event, old, rfl, rfl⟩
    · exact ⟨old, oldMem, rfl, rfl⟩
  | editedSite =>
    unfold Tables.editSiteScopeOverride
    split
    · refine Sighted.clearDisplayNames ?_ _
      exact sighted.of_eq rfl rfl
    · exact sighted.of_eq rfl rfl
  | editedApp _ saves | taughtApp _ _ saves =>
    obtain rfl := tables.saveAppScopeOverride_eq_ok saves
    exact sighted.of_eq rfl rfl
  | removedWindow | removedApp | removedSite | reset =>
    refine Sighted.clearDisplayNames ?_ _
    exact sighted.of_eq rfl rfl
  | swept => exact sighted.sweep _
  | _ => exact sighted.of_eq rfl rfl

theorem Sighted.pairedAppKey (sighted : Sighted ownerOf appOf tables) {stableId app : String}
    (paired : tables.pairedAppKey stableId = some app) : app = appOf stableId := by
  obtain ⟨event, newest, inApp⟩ := Option.bind_eq_some_iff.mp paired
  obtain ⟨member, selected⟩ := mem_filter.mp (mem_of_newest newest)
  rw [Bool.and_eq_true, beq_iff_eq] at selected
  have seen := sighted.events event member
  rw [inApp, selected.1] at seen
  exact Option.some.inj seen

theorem Sighted.pairedAppKey_of_event (sighted : Sighted ownerOf appOf tables)
    {event : RawEventRow} {app : String} {bundle : Option String}
    (member : event ∈ tables.rawEventBuffer)
    (eligible : tables.eligibleAppIdentity event.appIdentity = some (app, bundle)) :
    tables.pairedAppKey event.stableId = some app := by
  have inApp := RawEventRow.appStableId_of_appIdentity
    (tables.eq_some_of_eligibleAppIdentity eligible)
  have candidate : event ∈ tables.rawEventBuffer.filter fun other =>
      other.stableId == event.stableId &&
        (tables.eligibleAppIdentity other.appIdentity).isSome := by
    rw [mem_filter, eligible]
    exact ⟨member, by simp⟩
  rw [Tables.pairedAppKey]
  cases newest : TableRows.newest (·.occurredAt) (tables.rawEventBuffer.filter fun other =>
      other.stableId == event.stableId &&
        (tables.eligibleAppIdentity other.appIdentity).isSome) with
  | none =>
    rw [newest_eq_none_iff.mp newest] at candidate
    exact absurd candidate not_mem_nil
  | some latest =>
    obtain ⟨latestMem, selected⟩ := mem_filter.mp (mem_of_newest newest)
    rw [Bool.and_eq_true, beq_iff_eq] at selected
    have latestApp := sighted.events latest latestMem
    rw [selected.1, ← sighted.events event member] at latestApp
    exact latestApp.trans inApp

end Sightings

section Pairing

/-- Every hidden application rule is recorded on a window rule that the history lists.  The
rule of a `pending` application is still to be. -/
structure Paired (ownerOf : String → String) (pending : Option String) (tables : Tables) :
    Prop where
  ids : (tables.abstractionMap.map (·.stableId)).Nodup
  distinct : (tables.personalOverride.map (·.keyHash)).Nodup
  listed : ∀ rule ∈ tables.personalOverride, rule.keyHash ∈ tables.abstractionMap.map (·.keyHash)
  recorded : ∀ rule ∈ tables.personalOverride, ∀ app, rule.appKeyHash = some app →
    app = ownerOf rule.keyHash
  paired : ∀ rule ∈ tables.personalAppOverride, rule.appOnly = true ∨
    some rule.appKeyHash = pending ∨
      ∃ window ∈ tables.personalOverride, window.appKeyHash = some rule.appKeyHash

variable {router : Router} {ownerOf appOf : String → String} {moment : Moment}
  {dwells : List (UInt64 × AbstractedEvent)} {request : Request} {tables changed : Tables}
  {pending : Option String}

theorem Paired.of_subset (paired : Paired ownerOf pending tables)
    (ids : (changed.abstractionMap.map (·.stableId)).Nodup)
    (keys : ∀ rule ∈ tables.personalOverride, rule.keyHash ∈ changed.abstractionMap.map (·.keyHash))
    (windows : changed.personalOverride = tables.personalOverride)
    (apps : ∀ rule ∈ changed.personalAppOverride, rule.appOnly = true ∨
      rule ∈ tables.personalAppOverride) : Paired ownerOf pending changed where
  ids := ids
  distinct := windows ▸ paired.distinct
  listed := by
    rw [windows]
    exact keys
  recorded := windows ▸ paired.recorded
  paired rule member := by
    rw [windows]
    rcases apps rule member with appOnly | before
    · exact .inl appOnly
    · exact paired.paired rule before

theorem Paired.of_eq (paired : Paired ownerOf pending tables)
    (mappings : changed.abstractionMap = tables.abstractionMap)
    (windows : changed.personalOverride = tables.personalOverride)
    (apps : changed.personalAppOverride = tables.personalAppOverride) :
    Paired ownerOf pending changed :=
  paired.of_subset (mappings ▸ paired.ids) (mappings ▸ paired.listed) windows
    fun _ member => .inr (apps ▸ member)

theorem Tables.clearDisplayNames_ids (tables : Tables) (selected : AbstractionMapping → Bool) :
    (tables.clearDisplayNames selected).abstractionMap.map (·.stableId) =
      tables.abstractionMap.map (·.stableId) :=
  map_update fun _ => rfl

theorem Tables.clearDisplayNames_keys (tables : Tables) (selected : AbstractionMapping → Bool) :
    (tables.clearDisplayNames selected).abstractionMap.map (·.keyHash) =
      tables.abstractionMap.map (·.keyHash) :=
  map_update fun _ => rfl

theorem Paired.clearDisplayNames (paired : Paired ownerOf pending tables)
    (selected : AbstractionMapping → Bool) :
    Paired ownerOf pending (tables.clearDisplayNames selected) := by
  refine paired.of_subset ?_ ?_ rfl fun _ member => .inr member
  · rw [tables.clearDisplayNames_ids]
    exact paired.ids
  · rw [tables.clearDisplayNames_keys]
    exact paired.listed

theorem Paired.upsertAppScopeRule (paired : Paired ownerOf pending tables)
    (appKeyHash : String) (bundle : Option String) (category : String) (name : Option String)
    (now : Int) :
    Paired ownerOf pending
      (tables.upsertAppScopeRule appKeyHash bundle category name true now) := by
  refine paired.of_subset paired.ids paired.listed rfl fun rule member => ?_
  rcases tables.mem_upsertAppScopeRule member with ⟨-, raised⟩ | before
  · exact .inl (raised rfl)
  · exact .inr before

theorem Paired.saveRung (paired : Paired ownerOf none tables)
    (identity : Option (String × Option String)) (category : String) (name : Option String)
    (now : Int) :
    Paired ownerOf (identity.map Prod.fst) (tables.saveRung identity category name now).2 := by
  cases identity with
  | none => exact paired
  | some identity =>
    obtain ⟨app, bundle⟩ := identity
    refine ⟨paired.ids, paired.distinct, paired.listed, paired.recorded, ?_⟩
    intro rule member
    rcases tables.mem_upsertAppScopeRule member with ⟨atKey, -⟩ | before
    · exact .inr (.inl (congrArg some atKey))
    · rcases paired.paired rule before with appOnly | nothing | window
      · exact .inl appOnly
      · cases nothing
      · exact .inr (.inr window)

/-- The window's rule records the application whose rule was pending. -/
theorem Paired.savePersonalOverride (paired : Paired ownerOf pending tables)
    (sighted : Sighted ownerOf appOf tables) {stableId category : String}
    {name : Option String} {now : Int} {saved : Tables}
    (resolves : ∀ app, pending = some app → tables.pairedAppKey stableId = some app)
    (saves : tables.savePersonalOverride stableId category name now = .ok saved) :
    Paired ownerOf none saved := by
  obtain ⟨mapping, found, rfl⟩ := tables.savePersonalOverride_eq_ok saves
  have mappingMem := mem_of_find?_eq_some found
  have sameId : mapping.stableId = stableId := by simpa using List.find?_some found
  have owned : ∀ app, tables.pairedAppKey mapping.stableId = some app →
      app = ownerOf mapping.keyHash := by
    intro app pairs
    rw [sighted.pairedAppKey pairs]
    exact sighted.mappings mapping mappingMem
  refine ⟨paired.ids, nodup_map_key_upsert (fun _ _ => rfl) paired.distinct, ?_, ?_, ?_⟩
  · intro rule member
    rcases mem_upsert.mp member with ⟨old, -⟩ | ⟨old, oldMem, -, rfl⟩ | ⟨-, rfl⟩
    · exact paired.listed rule old
    · exact paired.listed old oldMem
    · exact mem_map_of_mem mappingMem
  · intro rule member app records
    rcases mem_upsert.mp member with ⟨old, -⟩ | ⟨old, oldMem, atKey, rfl⟩ | ⟨-, rfl⟩
    · exact paired.recorded rule old app records
    · change old.keyHash = mapping.keyHash at atKey
      cases pairs : tables.pairedAppKey mapping.stableId with
      | none =>
        rw [pairs] at records
        exact paired.recorded old oldMem app records
      | some found =>
        rw [pairs] at records
        change app = ownerOf old.keyHash
        rw [atKey, ← Option.some.inj records]
        exact owned found pairs
    · exact owned app records
  · intro rule member
    rcases paired.paired rule member with appOnly | isPending | ⟨window, windowMem, records⟩
    · exact .inl appOnly
    · have pairs := resolves rule.appKeyHash isPending.symm
      rw [← sameId] at pairs
      obtain ⟨window, windowMem, new | ⟨old, -, -, merged⟩⟩ := exists_mem_upsert (·.keyHash)
        { keyHash := mapping.keyHash
          category := category
          activityName := name
          appKeyHash := tables.pairedAppKey mapping.stableId
          updatedAt := timestamp now : PersonalOverrideRow }
        (fun rule =>
          { rule with
            category := category
            activityName := name <|> rule.activityName
            appKeyHash := tables.pairedAppKey mapping.stableId <|> rule.appKeyHash
            updatedAt := timestamp now }) tables.personalOverride
      · exact .inr (.inr ⟨window, windowMem, by rw [new, pairs]⟩)
      · exact .inr (.inr ⟨window, windowMem, by rw [merged, pairs]; rfl⟩)
    · by_cases atKey : window.keyHash = mapping.keyHash
      · refine .inr (.inr ⟨_, mem_upsert.mpr (.inr (.inl ⟨window, windowMem, atKey, rfl⟩)), ?_⟩)
        cases pairs : tables.pairedAppKey mapping.stableId with
        | none => exact records
        | some found =>
          have same := paired.recorded window windowMem _ records
          rw [atKey, ← owned found pairs] at same
          exact congrArg some same.symm
      · exact .inr (.inr ⟨window, mem_upsert.mpr (.inl ⟨windowMem, atKey⟩), records⟩)

theorem Paired.removePersonalOverride (paired : Paired ownerOf none tables)
    (stableId : String) : Paired ownerOf none (tables.removePersonalOverride stableId).2 := by
  refine Paired.clearDisplayNames ?_ _
  refine ⟨paired.ids, ?_, ?_, ?_, ?_⟩
  · exact paired.distinct.sublist (filter_sublist.map _)
  · exact fun rule member => paired.listed rule (mem_of_mem_filter member)
  · exact fun rule member => paired.recorded rule (mem_of_mem_filter member)
  · intro rule member
    obtain ⟨before, survives⟩ := mem_filter.mp member
    rcases paired.paired rule before with appOnly | nothing | ⟨window, windowMem, records⟩
    · exact .inl appOnly
    · cases nothing
    · by_cases kept : some window.keyHash = (tables.mappingOfStableId stableId).map (·.keyHash)
      · left
        obtain ⟨mapping, found, sameKey⟩ := Option.map_eq_some_iff.mp kept.symm
        have rule_found : tables.windowRule stableId = some window := by
          rw [Tables.windowRule, found, Option.bind_some, sameKey]
          exact TableRows.find?_key_of_mem paired.distinct windowMem
        simpa [rule_found, records] using survives
      · exact .inr (.inr ⟨window, mem_filter.mpr ⟨windowMem, by simpa using kept⟩, records⟩)

theorem Paired.removeAppScopeOverride (paired : Paired ownerOf pending tables)
    (appKeyHash : String) :
    Paired ownerOf pending (tables.removeAppScopeOverride appKeyHash).2 := by
  refine Paired.clearDisplayNames ?_ _
  exact paired.of_subset paired.ids paired.listed rfl fun rule member =>
    .inr (mem_of_mem_filter member)

theorem Paired.sweep (paired : Paired ownerOf pending tables) (pass : RetentionSweep) :
    Paired ownerOf pending (sweep moment pass tables) := by
  unfold Rules.sweep
  split
  · exact paired
  · split
    · exact paired.of_eq rfl rfl rfl
    · -- the sweep spares the mapping of every rule
      refine paired.of_subset ?_ ?_ rfl fun _ member => .inr member
      · exact paired.ids.sublist (filter_sublist.map _)
      · intro rule member
        obtain ⟨row, rowMem, sameKey⟩ := mem_map.mp (paired.listed rule member)
        refine mem_map.mpr ⟨row, mem_filter.mpr ⟨rowMem, ?_⟩, sameKey⟩
        have inUse : tables.mappingInUse row = true := by
          rw [Tables.mappingInUse, Bool.or_eq_true, any_eq_true]
          exact .inl ⟨rule, member, by simpa using sameKey.symm⟩
        simp [inUse]
    · exact paired.of_eq rfl rfl rfl
    · exact paired.of_eq rfl rfl rfl

theorem Paired.upsertMapping (paired : Paired ownerOf pending tables)
    {mapping : AbstractionMapping} (upserts : tables.upsertMapping mapping = .ok changed) :
    Paired ownerOf pending changed := by
  obtain ⟨fresh, rfl⟩ := tables.upsertMapping_eq_ok upserts
  refine paired.of_subset ?_ ?_ rfl fun _ member => .inr member
  · by_cases present : ∃ row ∈ tables.abstractionMap, row.keyHash = mapping.keyHash
    · have same : ∀ rows : List AbstractionMapping, (rows.map fun row =>
          if row.keyHash = mapping.keyHash then
            { mapping with
              keyHash := row.keyHash
              stableId := row.stableId
              displayName := mapping.displayName <|> row.displayName }
          else row).map (·.stableId) = rows.map (·.stableId) := by
        intro rows
        rw [map_map]
        refine map_congr_left fun row _ => ?_
        by_cases atKey : row.keyHash = mapping.keyHash <;> simp [atKey]
      rw [upsert_of_present present, same]
      exact paired.ids
    · have absent : ∀ row ∈ tables.abstractionMap, row.keyHash ≠ mapping.keyHash := by
        intro row member same
        exact present ⟨row, member, same⟩
      have unused := fresh.resolve_left present
      rw [upsert_of_absent absent, map_append, map_singleton]
      refine nodup_append.mpr ⟨paired.ids, nodup_singleton _, ?_⟩
      intro first firstMem second secondMem
      obtain ⟨row, rowMem, rfl⟩ := mem_map.mp firstMem
      rw [mem_singleton.mp secondMem]
      exact unused row rowMem
  · intro rule member
    refine (mem_map_key_upsert fun _ _ => ?_).mpr (.inl (paired.listed rule member))
    rfl

theorem Commits.paired (commits : Commits router moment dwells request tables changed)
    (noCorrection : ∀ correction, request ≠ .correctEventClassification correction)
    (noUpdate : ∀ update, request ≠ .updateClassificationOverride update)
    (paired : Paired ownerOf none tables) : Paired ownerOf none changed := by
  cases commits with
  | mapped _ _ upserted => exact paired.upsertMapping upserted
  | inserted _ _ _ stored =>
    obtain rfl := tables.insertRawEvent_eq_ok stored
    exact paired.of_eq rfl rfl rfl
  | named host closed =>
    rename_i event _ _ _
    rcases tables.recordLocalSiteName_spec event.eventId host moment.now with
      unchanged | ⟨_, _, _, _, _, _, _, recorded⟩
    · rwa [unchanged]
    · rw [recorded]
      exact paired.of_eq rfl rfl rfl
  | correctedApp | correctedWindow | correctedEvent | correctedBatch =>
    exact absurd rfl (noCorrection _)
  | updatedApp | updatedWindow | editedSite | editedApp => exact absurd rfl (noUpdate _)
  | taughtApp _ _ saves =>
    obtain rfl := tables.saveAppScopeOverride_eq_ok saves
    exact paired.upsertAppScopeRule _ _ _ _ _
  | removedWindow => exact paired.removePersonalOverride _
  | removedApp => exact paired.removeAppScopeOverride _
  | removedSite =>
    refine Paired.clearDisplayNames ?_ _
    exact paired.of_eq rfl rfl rfl
  | reset =>
    refine Paired.clearDisplayNames ?_ _
    refine ⟨paired.ids, ?_, ?_, ?_, ?_⟩ <;> simp
  | swept => exact paired.sweep _
  | _ => exact paired.of_eq rfl rfl rfl

theorem Sighted.rung_of_event (sighted : Sighted ownerOf appOf tables)
    (paired : Paired ownerOf none tables) {identity : Option (String × Option String)}
    {stableId category : String} {name : Option String} {now : Int}
    (fromEvent : ∀ pair, identity = some pair → ∃ event ∈ tables.rawEventBuffer,
      event.stableId = stableId ∧ tables.eligibleAppIdentity event.appIdentity = some pair) :
    Sighted ownerOf appOf (tables.saveRung identity category name now).2 ∧
      ∃ pending, Paired ownerOf pending (tables.saveRung identity category name now).2 ∧
        ∀ app, pending = some app →
          (tables.saveRung identity category name now).2.pairedAppKey stableId = some app := by
  refine ⟨?_, identity.map Prod.fst, paired.saveRung _ _ _ _, ?_⟩
  · cases identity <;> exact sighted.of_eq rfl rfl
  · intro app isPending
    cases identity with
    | none => cases isPending
    | some pair =>
      obtain ⟨event, member, rfl, eligible⟩ := fromEvent pair rfl
      obtain ⟨key, bundle⟩ := pair
      cases isPending
      exact sighted.pairedAppKey_of_event member eligible

theorem Tables.appIdentityForEvent_eq_some {eventId : String} {pair : String × Option String}
    (found : tables.appIdentityForEvent eventId = some pair) :
    ∃ event ∈ tables.rawEventBuffer, event.eventId = eventId ∧
      tables.eligibleAppIdentity event.appIdentity = some pair := by
  have identity := tables.eq_some_of_eligibleAppIdentity found
  obtain ⟨event, eventFound, ofEvent⟩ := Option.bind_eq_some_iff.mp identity
  have selected := List.find?_some eventFound
  rw [Bool.and_eq_true, beq_iff_eq] at selected
  refine ⟨event, mem_of_find?_eq_some eventFound, selected.1, ?_⟩
  rw [Tables.appIdentityForEvent, identity] at found
  rwa [ofEvent]

theorem Tables.appIdentityForStableId_eq_some {stableId : String} {pair : String × Option String}
    (found : tables.appIdentityForStableId stableId = some pair) :
    ∃ event ∈ tables.rawEventBuffer, event.stableId = stableId ∧
      tables.eligibleAppIdentity event.appIdentity = some pair := by
  have identity := tables.eq_some_of_eligibleAppIdentity found
  obtain ⟨event, newest, ofEvent⟩ := Option.bind_eq_some_iff.mp identity
  obtain ⟨member, selected⟩ := mem_filter.mp (mem_of_newest newest)
  rw [Bool.and_eq_true, beq_iff_eq] at selected
  refine ⟨event, member, selected.1, ?_⟩
  rw [Tables.appIdentityForStableId, identity] at found
  rwa [ofEvent]

theorem generalizeCorrection_pending (moment : Moment) (sighted : Sighted ownerOf appOf tables)
    (paired : Paired ownerOf none tables) {correction : EventCorrection}
    (sameEvent : ∀ event ∈ tables.rawEventBuffer, event.eventId = correction.eventId →
      event.stableId = correction.stableId) (name : Option String) :
    Sighted ownerOf appOf (generalizeCorrection moment correction name tables) ∧
      ∃ pending, Paired ownerOf pending (generalizeCorrection moment correction name tables) ∧
        ∀ app, pending = some app →
          (generalizeCorrection moment correction name tables).pairedAppKey
            correction.stableId = some app := by
  unfold generalizeCorrection attempt
  split
  · exact ⟨sighted, none, paired, by simp⟩
  · refine sighted.rung_of_event paired fun pair found => ?_
    obtain ⟨event, member, isEvent, eligible⟩ := Tables.appIdentityForEvent_eq_some found
    exact ⟨event, member, sameEvent event member isEvent, eligible⟩

theorem generalizeUpdate_pending (moment : Moment) (sighted : Sighted ownerOf appOf tables)
    (paired : Paired ownerOf none tables) (update : OverrideUpdate) (name : Option String) :
    Sighted ownerOf appOf (generalizeUpdate moment update name tables) ∧
      ∃ pending, Paired ownerOf pending (generalizeUpdate moment update name tables) ∧
        ∀ app, pending = some app →
          (generalizeUpdate moment update name tables).pairedAppKey update.stableId =
            some app := by
  unfold generalizeUpdate attempt
  split
  · exact ⟨sighted, none, paired, by simp⟩
  · exact sighted.rung_of_event paired fun pair found =>
      Tables.appIdentityForStableId_eq_some found

theorem correctEventClassification_paired (sighted : Sighted ownerOf appOf tables)
    (paired : Paired ownerOf none tables) {correction : EventCorrection}
    (sameEvent : ∀ event ∈ tables.rawEventBuffer, event.eventId = correction.eventId →
      event.stableId = correction.stableId)
    (succeeds : (correctEventClassification router moment correction tables).1 = .menuStatus) :
    Paired ownerOf none (correctEventClassification router moment correction tables).2 := by
  unfold correctEventClassification at succeeds ⊢
  split at succeeds
  · cases succeeds
  · rename_i label labelled
    split at succeeds
    · cases succeeds
    · rename_i available
      rw [if_neg available]
      split at succeeds
      · cases succeeds
      · rename_i name _
        rw [correctionAnswer_tables]
        obtain ⟨sightedThen, pending, pairedThen, resolves⟩ :=
          generalizeCorrection_pending moment sighted paired sameEvent name
        obtain ⟨_, done⟩ := correctionAnswer_eq_menuStatus.mp succeeds
        obtain ⟨_, done, -, batched⟩ := andThen_eq_ok done
        obtain ⟨_, done, -, reclassified⟩ := andThen_eq_ok done
        have saved := pairedThen.savePersonalOverride sightedThen resolves
          (write_eq_ok.mp (attempt_eq_ok done))
        rw [saveCorrection, batched, reclassified]
        -- the event and its queued copy are no part of the pairing
        refine attempt_preserves (attempt_preserves saved ?_) ?_
        · intro _ changed changes
          rw [← Except.ok.inj (write_eq_ok.mp changes)]
          exact saved.of_eq rfl rfl rfl
        · intro _ changed changes
          rw [← Except.ok.inj (write_eq_ok.mp changes)]
          refine Paired.of_eq (attempt_preserves saved ?_) rfl rfl rfl
          intro _ changed changes
          rw [← Except.ok.inj (write_eq_ok.mp changes)]
          exact saved.of_eq rfl rfl rfl

theorem updateClassificationOverride_paired (sighted : Sighted ownerOf appOf tables)
    (paired : Paired ownerOf none tables) {update : OverrideUpdate}
    (succeeds : (updateClassificationOverride router moment update tables).1 = .menuStatus) :
    Paired ownerOf none (updateClassificationOverride router moment update tables).2 := by
  unfold updateClassificationOverride at succeeds ⊢
  split at succeeds
  · cases succeeds
  · rename_i valid
    rw [if_neg valid]
    split at succeeds
    · cases succeeds
    · rename_i available
      rw [if_neg available]
      split at succeeds
      · cases succeeds
      · rename_i name _
        split at succeeds
        · rename_i editing
          simp only [editing, if_true, correctionAnswer_tables]
          refine attempt_preserves paired fun _ changed changes => ?_
          rw [← Except.ok.inj (write_eq_ok.mp changes)]
          unfold Tables.editSiteScopeOverride
          split
          · refine Paired.clearDisplayNames ?_ _
            exact paired.of_eq rfl rfl rfl
          · exact paired.of_eq rfl rfl rfl
        · rename_i notSite
          rw [if_neg notSite]
          split at succeeds
          · rename_i editing
            rw [if_pos editing, correctionAnswer_tables]
            refine attempt_preserves paired fun _ changed changes => ?_
            obtain rfl := tables.saveAppScopeOverride_eq_ok (write_eq_ok.mp changes)
            exact paired.upsertAppScopeRule _ _ _ _ _
          · rename_i notApp
            rw [if_neg notApp, correctionAnswer_tables]
            obtain ⟨sightedThen, pending, pairedThen, resolves⟩ :=
              generalizeUpdate_pending moment sighted paired update name
            obtain ⟨_, done⟩ := correctionAnswer_eq_menuStatus.mp succeeds
            exact pairedThen.savePersonalOverride sightedThen resolves
              (write_eq_ok.mp (attempt_eq_ok done))

theorem correctEventClassification_answer (router : Router) (moment : Moment)
    (correction : EventCorrection) (tables : Tables) :
    (correctEventClassification router moment correction tables).1 = .menuStatus ∨
      ∃ code, (correctEventClassification router moment correction tables).1 =
        classificationCorrectionError code := by
  unfold correctEventClassification
  split
  · exact .inr ⟨_, rfl⟩
  · split
    · exact .inr ⟨_, rfl⟩
    · split
      · exact .inr ⟨_, rfl⟩
      · exact correctionAnswer_answer _

theorem updateClassificationOverride_answer (router : Router) (moment : Moment)
    (update : OverrideUpdate) (tables : Tables) :
    (updateClassificationOverride router moment update tables).1 = .menuStatus ∨
      ∃ code, (updateClassificationOverride router moment update tables).1 =
        classificationCorrectionError code := by
  unfold updateClassificationOverride
  split
  · exact .inr ⟨_, rfl⟩
  · split
    · exact .inr ⟨_, rfl⟩
    · split
      · exact .inr ⟨_, rfl⟩
      · split
        · exact correctionAnswer_answer _
        · split <;> exact correctionAnswer_answer _

end Pairing

section Runs

/-- What makes every rule visible, over the store and the dwells in progress. -/
structure Visible (ownerOf appOf : String → String) (service : Service) : Prop where
  sighted : Sighted ownerOf appOf service.tables
  dwells : ∀ dwell ∈ service.inProgressDwells, dwell.2.appStableId = appOf dwell.2.stableId
  paired : Paired ownerOf none service.tables

/-- The request is not answered with an error. -/
def Succeeds (router : Router) (service : Service) (call : Call) : Prop :=
  ∀ code message relatedEventId,
    router.machine.answer service call ≠ .errorResponse code message relatedEventId

/-- The event a correction names was seen under the stable id it names. -/
def NamesOneEvent (service : Service) (call : Call) : Prop :=
  ∀ correction, call.request = .correctEventClassification correction →
    ∀ event ∈ service.tables.rawEventBuffer, event.eventId = correction.eventId →
      event.stableId = correction.stableId

variable {router : Router} {ownerOf appOf : String → String} {service : Service} {call : Call}

theorem Visible.started : Visible ownerOf appOf Service.started := by
  refine ⟨⟨?_, ?_⟩, ?_, ⟨?_, ?_, ?_, ?_, ?_⟩⟩ <;> simp [Service.started, Tables.empty]

theorem Visible.handled (visible : Visible ownerOf appOf service)
    (succeeds : Succeeds router service call) (sameEvent : NamesOneEvent service call)
    (consistent : Consistent router ownerOf appOf call.request) :
    Visible ownerOf appOf (handle router service call).2 := by
  have sighted : Sighted ownerOf appOf (handle router service call).2.tables :=
    (handle_reaches router service call).preserves
      (fun commits held => commits.sighted consistent visible.dwells held) visible.sighted
  refine ⟨sighted, fun dwell held => ?_, ?_⟩
  · rcases handle_dwells router service call held with
      before | ⟨reported, perception, uploadEligible, hasActiveBlock, asked, abstracts⟩
    · exact visible.dwells dwell before
    · exact sighted.abstraction (asked ▸ consistent) abstracts
  · obtain ⟨moment, request⟩ := call
    cases request with
    | correctEventClassification correction =>
      have refused : ∀ code, (correctEventClassification router moment correction
          service.tables).1 ≠ classificationCorrectionError code :=
        fun code => succeeds code _ _
      rcases correctEventClassification_answer router moment correction service.tables with
        answered | ⟨code, error⟩
      · exact correctEventClassification_paired visible.sighted visible.paired
          (sameEvent correction rfl) answered
      · exact absurd error (refused code)
    | updateClassificationOverride update =>
      have refused : ∀ code, (updateClassificationOverride router moment update
          service.tables).1 ≠ classificationCorrectionError code :=
        fun code => succeeds code _ _
      rcases updateClassificationOverride_answer router moment update service.tables with
        answered | ⟨code, error⟩
      · exact updateClassificationOverride_paired visible.sighted visible.paired answered
      · exact absurd error (refused code)
    | _ =>
      refine (handle_reaches router service _).preserves (fun commits held =>
        commits.paired ?_ ?_ held) visible.paired <;>
      · intro other same
        cases same

/-- The closed and open dwells that a run reports, as the engine reads them. -/
def reportedEvents (calls : List Call) : List (RawEvent × String) :=
  calls.filterMap fun call =>
    match call.request with
    | .rawEvent reported perception _ _ =>
      some (clearDeclaredMetadataBeyondBounds reported, perception.freshId)
    | _ => none

/-- No two windows of different applications have one key. -/
def KeysApart (engine : AbstractionEngine) (calls : List Call) : Prop :=
  ∀ first ∈ reportedEvents calls, ∀ second ∈ reportedEvents calls,
    (engine.identityOf first.1).stableKey = (engine.identityOf second.1).stableKey →
      first.1.appName = second.1.appName

/-- No UUID is drawn twice. -/
def IdsFresh (calls : List Call) : Prop :=
  ((reportedEvents calls).map Prod.snd).Nodup

/-- The application of the first reported event that a condition selects. -/
def firstApp (engine : AbstractionEngine) (calls : List Call)
    (selected : RawEvent × String → Bool) : String :=
  (((reportedEvents calls).find? selected).map fun report =>
    (engine.identityOf report.1).appStableKey).getD ""

theorem consistent_of_mem {calls : List Call} (keysApart : KeysApart router.engine calls)
    (idsFresh : IdsFresh calls) (member : call ∈ calls) :
    Consistent router (fun key => firstApp router.engine calls fun report =>
        (router.engine.identityOf report.1).stableKey == key)
      (fun id => firstApp router.engine calls fun report => report.2 == id) call.request := by
  intro reported perception uploadEligible hasActiveBlock asked event cleared
  have reportedMem : (event, perception.freshId) ∈ reportedEvents calls := by
    refine mem_filterMap.mpr ⟨call, member, ?_⟩
    rw [asked, cleared]
  constructor
  · have found : ((reportedEvents calls).find? fun report =>
        (router.engine.identityOf report.1).stableKey ==
          (router.engine.identityOf event).stableKey).isSome := by
      rw [List.find?_isSome]
      exact ⟨_, reportedMem, by simp⟩
    obtain ⟨report, reportFound⟩ := Option.isSome_iff_exists.mp found
    have sameKey := List.find?_some reportFound
    rw [beq_iff_eq] at sameKey
    have sameApp := keysApart report (mem_of_find?_eq_some reportFound) _ reportedMem sameKey
    simp only [firstApp, reportFound, Option.map_some, Option.getD_some]
    exact congrArg router.engine.appStableKey sameApp
  · have found := TableRows.find?_key_of_mem idsFresh reportedMem
    simp only [firstApp, found, Option.map_some, Option.getD_some]

end Runs

/-- A row that a rung of the ladder can answer with. -/
inductive RuleRow
  | window (rule : PersonalOverrideRow)
  | app (rule : AppOverrideRow)
  | site (rule : SiteOverrideRow)

def RuleRow.answer : RuleRow → PersonalOverride
  | .window rule => { category := rule.category, localActivityName := rule.activityName }
  | .app rule => { category := rule.category, localActivityName := rule.activityName }
  | .site rule => { category := rule.category, localActivityName := rule.activityName }

namespace Tables

variable (tables : Tables) {ownerOf : String → String}

def ruleRows : List RuleRow :=
  tables.personalOverride.map .window ++ tables.personalAppOverride.map .app ++
    tables.personalSiteOverride.map .site

/-- A record of the history is about a window rule. -/
def ListsWindow (record : PersonalOverrideRecord) (rule : PersonalOverrideRow) : Prop :=
  record.scope = .window ∧ ∃ mapping ∈ tables.abstractionMap,
    mapping.keyHash = rule.keyHash ∧ mapping.stableId = record.stableId

/-- A record of the history stands for a rule: it is about the rule itself, or about the window
rule that an application rule was written with. -/
def Lists (record : PersonalOverrideRecord) : RuleRow → Prop
  | .window rule => tables.ListsWindow record rule
  | .app rule =>
    record.scope = .app ∧ record.stableId = rule.appKeyHash ∨
      ∃ window ∈ tables.personalOverride,
        window.appKeyHash = some rule.appKeyHash ∧ tables.ListsWindow record window
  | .site rule => record.scope = .site ∧ record.stableId = rule.siteKeyHash

def withoutRule (stableId : String) : Tables :=
  (removeRule { now := 0, fails := fun _ => false } stableId tables).2

variable {rule : PersonalOverrideRow}

@[simp]
theorem window_mem_ruleRows : .window rule ∈ tables.ruleRows ↔ rule ∈ tables.personalOverride := by
  simp [ruleRows]

@[simp]
theorem app_mem_ruleRows {rule : AppOverrideRow} :
    .app rule ∈ tables.ruleRows ↔ rule ∈ tables.personalAppOverride := by
  simp [ruleRows]

@[simp]
theorem site_mem_ruleRows {rule : SiteOverrideRow} :
    .site rule ∈ tables.ruleRows ↔ rule ∈ tables.personalSiteOverride := by
  simp [ruleRows]

theorem ruleRows_of_subset (tables changed : Tables)
    (windows : changed.personalOverride ⊆ tables.personalOverride)
    (apps : changed.personalAppOverride ⊆ tables.personalAppOverride)
    (sites : changed.personalSiteOverride ⊆ tables.personalSiteOverride) :
    changed.ruleRows ⊆ tables.ruleRows := by
  intro row member
  cases row with
  | window rule =>
    rw [window_mem_ruleRows] at member ⊢
    exact windows member
  | app rule =>
    rw [app_mem_ruleRows] at member ⊢
    exact apps member
  | site rule =>
    rw [site_mem_ruleRows] at member ⊢
    exact sites member

theorem mem_ruleRows_of_answer {identity : WindowIdentity} {answer : PersonalOverride}
    (answers : tables.personalOverrideOf identity = some answer) :
    ∃ row ∈ tables.ruleRows, row.answer = answer := by
  have window : ∀ key answer, tables.personalOverrideFor key = some answer →
      ∃ row ∈ tables.ruleRows, row.answer = answer := by
    intro key answer answers
    obtain ⟨rule, found, rfl⟩ := Option.map_eq_some_iff.mp answers
    exact ⟨.window rule, by simp [mem_of_find?_eq_some found], rfl⟩
  have site : ∀ key answer, tables.personalSiteOverrideFor key = some answer →
      ∃ row ∈ tables.ruleRows, row.answer = answer := by
    intro key answer answers
    obtain ⟨rule, found, rfl⟩ := Option.map_eq_some_iff.mp answers
    exact ⟨.site rule, by simp [mem_of_find?_eq_some found], rfl⟩
  have app : ∀ key answer, tables.personalAppOverrideFor key = some answer →
      ∃ row ∈ tables.ruleRows, row.answer = answer := by
    intro key answer answers
    obtain ⟨rule, found, rfl⟩ := Option.map_eq_some_iff.mp answers
    exact ⟨.app rule, by simp [mem_of_find?_eq_some found], rfl⟩
  simp only [personalOverrideOf, Option.orElse_eq_orElse, Option.orElse_eq_or] at answers
  rcases Option.or_eq_some_iff.mp answers with byWindow | ⟨-, rest⟩
  · exact window _ _ byWindow
  · rcases Option.or_eq_some_iff.mp rest with bySite | ⟨-, rest⟩
    · obtain ⟨key, -, answered⟩ := Option.bind_eq_some_iff.mp bySite
      exact site key answer answered
    · rcases Option.or_eq_some_iff.mp rest with byBundle | ⟨-, byName⟩
      · obtain ⟨key, -, answered⟩ := Option.bind_eq_some_iff.mp byBundle
        exact app key answer answered
      · exact app _ _ byName

theorem withoutRule_eq (stableId : String) : tables.withoutRule stableId =
      if (tables.removePersonalOverride stableId).1 then
        (tables.removePersonalOverride stableId).2
      else if ((tables.removePersonalOverride stableId).2.removeAppScopeOverride stableId).1 then
        ((tables.removePersonalOverride stableId).2.removeAppScopeOverride stableId).2
      else
        (((tables.removePersonalOverride stableId).2.removeAppScopeOverride
          stableId).2.removeSiteScopeOverride stableId).2 := by
  cases window : (tables.removePersonalOverride stableId).1 <;>
    cases app : ((tables.removePersonalOverride stableId).2.removeAppScopeOverride stableId).1 <;>
      simp [withoutRule, removeRule, orRemove, attempt, andThen, window, app]

theorem ruleRows_withoutRule_subset (stableId : String) : (tables.withoutRule stableId).ruleRows ⊆
      (tables.removePersonalOverride stableId).2.ruleRows := by
  have ofApp : ∀ other : Tables,
      (other.removeAppScopeOverride stableId).2.ruleRows ⊆ other.ruleRows := by
    intro other
    apply ruleRows_of_subset
    · exact List.Subset.refl _
    · exact filter_sublist.subset
    · exact List.Subset.refl _
  have ofSite : ∀ other : Tables,
      (other.removeSiteScopeOverride stableId).2.ruleRows ⊆ other.ruleRows := by
    intro other
    apply ruleRows_of_subset
    · exact List.Subset.refl _
    · exact List.Subset.refl _
    · exact filter_sublist.subset
  rw [withoutRule_eq]
  split
  · exact List.Subset.refl _
  · split
    · exact ofApp _
    · exact List.Subset.trans (ofSite _) (ofApp _)

theorem mappingKey_clearDisplayNames (selected : AbstractionMapping → Bool) (stableId : String) :
    ((tables.clearDisplayNames selected).mappingOfStableId stableId).map (·.keyHash) =
      (tables.mappingOfStableId stableId).map (·.keyHash) := by
  have found : (tables.clearDisplayNames selected).mappingOfStableId stableId =
      (tables.mappingOfStableId stableId).map fun row =>
        if selected row then { row with displayName := none } else row :=
    TableRows.find?_update fun _ => rfl
  rw [found, Option.map_map]
  refine Option.map_congr fun row _ => ?_
  rw [Function.comp_apply]
  split <;> rfl

theorem windowRule_eq (stableId : String) : tables.windowRule stableId =
      ((tables.mappingOfStableId stableId).map (·.keyHash)).bind fun key =>
        tables.personalOverride.find? fun rule => rule.keyHash == key := by
  rw [windowRule, Option.bind_map]
  rfl

theorem windowRule_removePersonalOverride (stableId : String) :
    (tables.removePersonalOverride stableId).2.windowRule stableId = none := by
  rw [windowRule_eq, removePersonalOverride, mappingKey_clearDisplayNames]
  refine Option.bind_eq_none_iff.mpr fun key found => List.find?_eq_none.mpr fun rule member => ?_
  have spared := of_mem_filter member
  change Option.map _ (tables.mappingOfStableId stableId) = some key at found
  rw [found] at spared
  simpa using spared

theorem windowRule_removeAppScopeOverride (stableId : String) :
    (tables.removeAppScopeOverride stableId).2.windowRule stableId =
      tables.windowRule stableId := by
  rw [windowRule_eq, windowRule_eq, removeAppScopeOverride, mappingKey_clearDisplayNames]
  rfl

theorem windowRule_removeSiteScopeOverride (stableId : String) :
    (tables.removeSiteScopeOverride stableId).2.windowRule stableId =
      tables.windowRule stableId := by
  rw [windowRule_eq, windowRule_eq, removeSiteScopeOverride, mappingKey_clearDisplayNames]
  rfl

theorem windowRule_withoutRule (stableId : String) :
    (tables.withoutRule stableId).windowRule stableId = none := by
  rw [withoutRule_eq]
  split
  · exact tables.windowRule_removePersonalOverride stableId
  · split
    · rw [windowRule_removeAppScopeOverride]
      exact tables.windowRule_removePersonalOverride stableId
    · rw [windowRule_removeSiteScopeOverride, windowRule_removeAppScopeOverride]
      exact tables.windowRule_removePersonalOverride stableId

theorem app_withoutRule {stableId : String} (noWindow : tables.windowRule stableId = none) :
    ∀ rule ∈ (tables.withoutRule stableId).personalAppOverride, rule.appKeyHash ≠ stableId := by
  have gone : ∀ other : Tables, ∀ rule ∈
      (other.removeAppScopeOverride stableId).2.personalAppOverride,
      rule.appKeyHash ≠ stableId := by
    intro other rule member
    simpa using of_mem_filter member
  have passed : (tables.removePersonalOverride stableId).1 = false := by
    simp [removePersonalOverride, noWindow]
  rw [withoutRule_eq, if_neg (by simp [passed])]
  split
  · exact gone _
  · exact gone (tables.removePersonalOverride stableId).2

theorem site_withoutRule {stableId : String} (noWindow : tables.windowRule stableId = none)
    (noApp : ∀ rule ∈ tables.personalAppOverride, rule.appKeyHash ≠ stableId) :
    ∀ rule ∈ (tables.withoutRule stableId).personalSiteOverride,
      rule.siteKeyHash ≠ stableId := by
  have passed : (tables.removePersonalOverride stableId).1 = false := by
    simp [removePersonalOverride, noWindow]
  have passedApp : ((tables.removePersonalOverride stableId).2.removeAppScopeOverride
      stableId).1 = false := by
    rw [removeAppScopeOverride, any_eq_false]
    intro rule member
    simpa using noApp rule (mem_of_mem_filter member)
  rw [withoutRule_eq, if_neg (by simp [passed]), if_neg (by simp [passedApp])]
  intro rule member
  simpa using of_mem_filter member

variable {record : PersonalOverrideRecord}

theorem mappingOfStableId_of_lists (ids : (tables.abstractionMap.map (·.stableId)).Nodup)
    (lists : tables.ListsWindow record rule) :
    (tables.mappingOfStableId record.stableId).map (·.keyHash) = some rule.keyHash := by
  obtain ⟨-, mapping, member, sameKey, sameId⟩ := lists
  rw [mappingOfStableId, ← sameId, TableRows.find?_key_of_mem ids member, Option.map_some, sameKey]

theorem window_removed (ids : (tables.abstractionMap.map (·.stableId)).Nodup)
    (lists : tables.ListsWindow record rule) :
    .window rule ∉ (tables.withoutRule record.stableId).ruleRows := by
  intro member
  have before := tables.ruleRows_withoutRule_subset _ member
  rw [window_mem_ruleRows, removePersonalOverride,
    tables.mappingOfStableId_of_lists ids lists] at before
  simpa using of_mem_filter before

theorem app_removed {window : PersonalOverrideRow}
    {rule : AppOverrideRow} (paired : Paired ownerOf none tables)
    (held : window ∈ tables.personalOverride) (lists : tables.ListsWindow record window)
    (recorded : window.appKeyHash = some rule.appKeyHash) (hidden : rule.appOnly = false) :
    .app rule ∉ (tables.withoutRule record.stableId).ruleRows := by
  intro member
  have before := tables.ruleRows_withoutRule_subset _ member
  have found : tables.windowRule record.stableId = some window := by
    rw [windowRule_eq, tables.mappingOfStableId_of_lists paired.ids lists, Option.bind_some]
    exact TableRows.find?_key_of_mem paired.distinct held
  rw [app_mem_ruleRows, removePersonalOverride, found, Option.bind_some, recorded] at before
  have spared := of_mem_filter before
  simp [hidden] at spared

/-- A rule is listed, and gone after at most three removals. -/
theorem exists_listed (paired : Paired ownerOf none tables) {row : RuleRow}
    (member : row ∈ tables.ruleRows) :
    ∃ record ∈ tables.ruleSource, tables.Lists record row ∧
      ∃ count ≤ 3, row ∉ ((·.withoutRule record.stableId)^[count] tables).ruleRows := by
  have listsWindow : ∀ rule ∈ tables.personalOverride,
      ∃ record ∈ tables.ruleSource, tables.ListsWindow record rule := by
    intro rule held
    obtain ⟨mapping, mappingMem, sameKey⟩ := mem_map.mp (paired.listed rule held)
    refine ⟨_, mem_append_left _ (mem_append_left _ (mem_flatMap.mpr
      ⟨rule, held, mem_map.mpr ⟨mapping, mem_filter.mpr ⟨mappingMem, ?_⟩, rfl⟩⟩)),
      rfl, mapping, mappingMem, sameKey, rfl⟩
    simpa using sameKey
  cases row with
  | window rule =>
    have held := tables.window_mem_ruleRows.mp member
    obtain ⟨record, listed, lists⟩ := listsWindow rule held
    exact ⟨record, listed, lists, 1, by decide, tables.window_removed paired.ids lists⟩
  | app rule =>
    have held := tables.app_mem_ruleRows.mp member
    cases own : rule.appOnly with
    | true =>
      refine ⟨_, mem_append_left _ (mem_append_right _ (mem_map.mpr
        ⟨rule, mem_filter.mpr ⟨held, own⟩, rfl⟩)), .inl ⟨rfl, rfl⟩, 2, by decide, ?_⟩
      intro left
      exact (tables.withoutRule rule.appKeyHash).app_withoutRule
        (tables.windowRule_withoutRule _) rule (app_mem_ruleRows _ |>.mp left) rfl
    | false =>
      rcases paired.paired rule held with shown | nothing | ⟨window, windowMem, recorded⟩
      · rw [own] at shown
        cases shown
      · cases nothing
      · obtain ⟨record, listed, lists⟩ := listsWindow window windowMem
        exact ⟨record, listed, .inr ⟨window, windowMem, recorded, lists⟩, 1, by decide,
          tables.app_removed paired windowMem lists recorded own⟩
  | site rule =>
    have held := tables.site_mem_ruleRows.mp member
    refine ⟨_, mem_append_right _ (mem_map.mpr ⟨rule, held, rfl⟩), ⟨rfl, rfl⟩, 3,
      by decide, ?_⟩
    intro left
    refine Tables.site_withoutRule _ (Tables.windowRule_withoutRule _ _) ?_ rule
      (site_mem_ruleRows _ |>.mp left) rfl
    exact Tables.app_withoutRule _ (Tables.windowRule_withoutRule _ _)

end Tables

/-- After every run of requests that succeed, each hidden rule about an application is recorded
on a rule about a window, and whatever the ladder answers is a rule that the history lists and
that can be removed from it. -/
theorem every_rule_visible (router : Router) (calls : List Call)
    (keysApart : KeysApart router.engine calls) (idsFresh : IdsFresh calls)
    (succeeds : router.machine.Meets
      (fun service call => Succeeds router service call ∧ NamesOneEvent service call)
      Service.started calls) :
    let tables := (router.machine.run Service.started calls).tables
    (∀ rule ∈ tables.personalAppOverride, rule.appOnly = true ∨
      ∃ window ∈ tables.personalOverride, window.appKeyHash = some rule.appKeyHash) ∧
    ∀ identity answer, tables.personalOverrideOf identity = some answer →
      ∃ row ∈ tables.ruleRows, row.answer = answer ∧
        ∃ record ∈ tables.ruleSource, tables.Lists record row ∧
          ∃ count ≤ 3, row ∉ ((·.withoutRule record.stableId)^[count] tables).ruleRows := by
  intro tables
  have visible := router.machine.invariant_run
    (fun _ _ holds (condition : (_ ∧ _) ∧ _) =>
      Visible.handled holds condition.1.1 condition.1.2 condition.2)
    Visible.started
    (succeeds.and_of_mem _ fun _ member => consistent_of_mem keysApart idsFresh member)
  refine ⟨fun rule member => ?_, fun identity answer answers => ?_⟩
  · rcases visible.paired.paired rule member with appOnly | nothing | window
    · exact .inl appOnly
    · cases nothing
    · exact .inr window
  · obtain ⟨row, member, same⟩ := tables.mem_ruleRows_of_answer answers
    exact ⟨row, member, same, tables.exists_listed visible.paired member⟩

def correctedEditor : List Call :=
  [(editorWindow "event" "plan" "one").at 0,
    (Request.correctEventClassification
      { eventId := "event"
        stableId := "abs_one"
        category := "REFERENCE"
        localActivityName := some "Reading" }).at 1]

/-- One correction of an editor's window. -/
theorem every_rule_visible_correctedEditor :
    (workingRouter.machine.run Service.started correctedEditor).tables.ruleSource.length = 1 ∧
    let tables := (workingRouter.machine.run Service.started correctedEditor).tables
    (∀ rule ∈ tables.personalAppOverride, rule.appOnly = true ∨
      ∃ window ∈ tables.personalOverride, window.appKeyHash = some rule.appKeyHash) ∧
    ∀ identity answer, tables.personalOverrideOf identity = some answer →
      ∃ row ∈ tables.ruleRows, row.answer = answer ∧
        ∃ record ∈ tables.ruleSource, tables.Lists record row ∧
          ∃ count ≤ 3, row ∉ ((·.withoutRule record.stableId)^[count] tables).ruleRows := by
  refine ⟨by decide +kernel, every_rule_visible workingRouter correctedEditor ?_ ?_ ?_⟩
  · unfold KeysApart
    decide +kernel
  · unfold IdsFresh
    decide +kernel
  · refine ⟨⟨?_, ?_⟩, ⟨?_, ?_⟩, trivial⟩
    · intro code message relatedEventId
      have answered : workingRouter.machine.answer Service.started
          ((editorWindow "event" "plan" "one").at 0) = .rawEventAck "event" .accepted none := by
        decide +kernel
      rw [answered]
      simp
    · intro correction asked
      cases asked
    · intro code message relatedEventId
      have answered : workingRouter.machine.answer
          (workingRouter.machine.next Service.started
            ((editorWindow "event" "plan" "one").at 0))
          ((Request.correctEventClassification
            { eventId := "event"
              stableId := "abs_one"
              category := "REFERENCE"
              localActivityName := some "Reading" }).at 1) = .menuStatus := by
        decide +kernel
      rw [answered]
      simp
    · intro correction asked
      cases asked
      decide +kernel

end Velvt.Rules
