import Velvt.RuleWrites

/-!
# Hostname retention

The store holds one hostname of a site for as long as it has to ask what the site is.
-/

namespace Velvt.Rules

open List

section Forgotten

/-- No name is held of a site that has a rule. -/
def Forgotten (tables : Tables) : Prop :=
  ∀ name ∈ tables.localSiteName, tables.hasSiteRule name.siteKeyHash = false

variable {router : Router} {moment : Moment} {dwells : List (UInt64 × AbstractedEvent)}
  {request : Request} {tables changed : Tables}

theorem Forgotten.of_subset (forgotten : Forgotten tables)
    (names : ∀ name ∈ changed.localSiteName, name ∈ tables.localSiteName)
    (rules : ∀ rule ∈ changed.personalSiteOverride,
      rule.siteKeyHash ∈ tables.personalSiteOverride.map (·.siteKeyHash)) :
    Forgotten changed := by
  intro name member
  have untaught := forgotten name (names name member)
  rw [Bool.eq_false_iff, Ne, Tables.hasSiteRule_iff] at untaught ⊢
  intro taught
  obtain ⟨rule, ruleMem, same⟩ := mem_map.mp taught
  exact untaught (same ▸ rules rule ruleMem)

theorem Forgotten.of_eq (forgotten : Forgotten tables)
    (names : changed.localSiteName = tables.localSiteName)
    (rules : changed.personalSiteOverride = tables.personalSiteOverride) : Forgotten changed := by
  refine forgotten.of_subset (fun name member => names ▸ member) fun rule member => ?_
  rw [rules] at member
  exact mem_map_of_mem member

theorem Tables.mem_siteKeys_upsertSiteRule (tables : Tables) (siteKeyHash category : String)
    (name : Option String) (named : Option String → Option String) (now : Int) {value : String} :
    value ∈ (tables.upsertSiteRule siteKeyHash category name named
        now).personalSiteOverride.map (·.siteKeyHash) ↔
      value ∈ tables.personalSiteOverride.map (·.siteKeyHash) ∨ value = siteKeyHash := by
  simp only [Tables.upsertSiteRule]
  rw [TableRows.mem_map_key_upsert]
  intro rule _
  rfl

theorem Forgotten.saveSiteScopeOverride (forgotten : Forgotten tables)
    (siteKeyHash category : String) (name : Option String) (now : Int) :
    Forgotten (tables.saveSiteScopeOverride siteKeyHash category name now) := by
  intro held member
  obtain ⟨before, otherSite⟩ := mem_filter.mp member
  have untaught := forgotten held before
  rw [Bool.eq_false_iff, Ne, Tables.hasSiteRule_iff] at untaught ⊢
  intro taught
  rcases (tables.mem_siteKeys_upsertSiteRule siteKeyHash category name
    (fun old => name <|> old) now).mp taught with old | same
  · exact untaught old
  · simp [same] at otherSite

theorem Tables.editSiteScopeOverride_fields (tables : Tables) (siteKeyHash category : String)
    (name : Option String) (now : Int) :
    (tables.editSiteScopeOverride siteKeyHash category name now).localSiteName =
        tables.localSiteName ∧
      (tables.editSiteScopeOverride siteKeyHash category name now).personalSiteOverride =
        (tables.upsertSiteRule siteKeyHash category name (fun _ => name)
          now).personalSiteOverride := by
  unfold Tables.editSiteScopeOverride
  split <;> exact ⟨rfl, rfl⟩

theorem Forgotten.editSiteScopeOverride (forgotten : Forgotten tables)
    {siteKeyHash : String} (category : String) (name : Option String) (now : Int)
    (held : (tables.siteScopeOverride siteKeyHash).isSome = true) :
    Forgotten (tables.editSiteScopeOverride siteKeyHash category name now) := by
  obtain ⟨names, rules⟩ := tables.editSiteScopeOverride_fields siteKeyHash category name now
  have already : siteKeyHash ∈ tables.personalSiteOverride.map (·.siteKeyHash) := by
    rw [Tables.siteScopeOverride, List.find?_isSome] at held
    obtain ⟨rule, ruleMem, same⟩ := held
    rw [beq_iff_eq] at same
    exact same ▸ mem_map_of_mem ruleMem
  refine forgotten.of_subset (fun row member => names ▸ member) fun rule member => ?_
  rw [rules] at member
  rcases (tables.mem_siteKeys_upsertSiteRule siteKeyHash category name _ now).mp
    (mem_map_of_mem member) with old | same
  · exact old
  · exact same ▸ already

theorem Forgotten.recordLocalSiteName (forgotten : Forgotten tables)
    (eventId host : String) (seenAt : Int) :
    Forgotten (tables.recordLocalSiteName eventId host seenAt).2 := by
  rcases tables.recordLocalSiteName_spec eventId host seenAt with
    unchanged | ⟨visit, -, -, -, site, -, untaught, recorded⟩
  · rw [unchanged]
    exact forgotten
  · rw [recorded]
    intro name member
    rcases TableRows.mem_upsert.mp member with ⟨old, -⟩ | ⟨-, -, -, rfl⟩ | ⟨-, rfl⟩
    · exact forgotten name old
    · exact untaught
    · exact untaught

theorem Forgotten.sweep (forgotten : Forgotten tables) (pass : RetentionSweep) :
    Forgotten (sweep moment pass tables) := by
  unfold Rules.sweep
  split
  · exact forgotten
  · split
    · exact forgotten.of_eq rfl rfl
    · exact forgotten.of_eq rfl rfl
    · exact forgotten.of_subset (fun name member => Tables.mem_of_mem_deleteSome member)
        fun rule member => mem_map_of_mem member
    · exact forgotten.of_eq rfl rfl

/-- No request brings back the name of a site that has a rule. -/
theorem Commits.forgotten (commits : Commits router moment dwells request tables changed)
    (forgotten : Forgotten tables) : Forgotten changed := by
  cases commits with
  | embedded => exact forgotten.of_eq rfl rfl
  | mapped _ _ upserted =>
    obtain ⟨-, rfl⟩ := tables.upsertMapping_eq_ok upserted
    exact forgotten.of_eq rfl rfl
  | inserted _ _ _ stored =>
    obtain rfl := tables.insertRawEvent_eq_ok stored
    exact forgotten.of_eq rfl rfl
  | named host => exact forgotten.recordLocalSiteName _ host _
  | correctedApp =>
    refine forgotten.of_eq ?_ ?_ <;>
      · unfold Tables.savePersonalAppOverride Tables.saveRung
        split <;> rfl
  | correctedWindow _ saves =>
    obtain ⟨mapping, -, rfl⟩ := tables.savePersonalOverride_eq_ok saves
    exact forgotten.of_eq rfl rfl
  | correctedEvent => exact forgotten.of_eq rfl rfl
  | correctedBatch => exact forgotten.of_eq rfl rfl
  | updatedApp =>
    refine forgotten.of_eq ?_ ?_ <;>
      · unfold Tables.savePersonalAppOverrideByStableId Tables.saveRung
        split <;> rfl
  | updatedWindow _ saves =>
    obtain ⟨mapping, -, rfl⟩ := tables.savePersonalOverride_eq_ok saves
    exact forgotten.of_eq rfl rfl
  | editedSite _ held => exact forgotten.editSiteScopeOverride _ _ _ held
  | editedApp _ saves =>
    obtain rfl := tables.saveAppScopeOverride_eq_ok saves
    exact forgotten.of_eq rfl rfl
  | taughtApp _ _ saves =>
    obtain rfl := tables.saveAppScopeOverride_eq_ok saves
    exact forgotten.of_eq rfl rfl
  | taughtSite => exact forgotten.saveSiteScopeOverride _ _ _ _
  | removedWindow => exact forgotten.of_eq rfl rfl
  | removedApp => exact forgotten.of_eq rfl rfl
  | removedSite =>
    exact forgotten.of_subset (fun name member => member) fun rule member =>
      mem_map_of_mem (mem_of_mem_filter member)
  | reset =>
    exact forgotten.of_subset (fun name member => member) fun rule member =>
      absurd member not_mem_nil
  | swept => exact forgotten.sweep _
  | requeued => exact forgotten.of_eq rfl rfl

end Forgotten

section Written

variable {router : Router} {moment : Moment} {dwells : List (UInt64 × AbstractedEvent)}
  {request : Request} {tables changed : Tables} {name : LocalSiteName}

/-- A name is that of a visit the request has just stored, which needs a category, on a site
that has no rule. -/
def Visited (request : Request) (moment : Moment) (tables : Tables) (name : LocalSiteName) :
    Prop :=
  ∃ event perception uploadEligible hasActiveBlock,
    request = .rawEvent event perception uploadEligible hasActiveBlock ∧
      event.inProgress = false ∧ name.lastSeenAt = timestamp moment.now ∧
        ∃ visit ∈ tables.rawEventBuffer, visit.eventId = event.eventId ∧
          visit.siteStableId = some name.siteKeyHash ∧
            Tables.siteVisitNeedsACategory visit = true ∧
              tables.hasSiteRule name.siteKeyHash = false

theorem Visited.of_subset (visited : Visited request moment tables name)
    (events : ∀ event ∈ tables.rawEventBuffer, event ∈ changed.rawEventBuffer)
    (rules : changed.personalSiteOverride = tables.personalSiteOverride) :
    Visited request moment changed name := by
  obtain ⟨event, perception, uploadEligible, hasActiveBlock, asked, closed, seen, visit, member,
    sameId, onSite, needs, untaught⟩ := visited
  refine ⟨event, perception, uploadEligible, hasActiveBlock, asked, closed, seen, visit,
    events visit member, sameId, onSite, needs, ?_⟩
  rw [Tables.hasSiteRule, rules]
  exact untaught

theorem Visited.recordLocalSiteName (visited : Visited request moment tables name)
    (eventId host : String) (seenAt : Int) :
    Visited request moment (tables.recordLocalSiteName eventId host seenAt).2 name := by
  rcases tables.recordLocalSiteName_spec eventId host seenAt with
    unchanged | ⟨_, _, _, _, _, _, _, recorded⟩
  · rw [unchanged]
    exact visited
  · rw [recorded]
    exact visited.of_subset (fun event member => member) rfl

theorem Commits.visited (commits : Commits router moment dwells request tables changed)
    (visited : Visited request moment tables name) : Visited request moment changed name := by
  obtain ⟨event, perception, uploadEligible, hasActiveBlock, rfl, -⟩ := id visited
  cases commits with
  | embedded => exact visited.of_subset (fun event member => member) rfl
  | mapped _ _ upserted =>
    obtain ⟨-, rfl⟩ := tables.upsertMapping_eq_ok upserted
    exact visited.of_subset (fun event member => member) rfl
  | inserted _ _ _ stored =>
    obtain rfl := tables.insertRawEvent_eq_ok stored
    exact visited.of_subset (fun event member => mem_append_left _ member) rfl
  | named host => exact visited.recordLocalSiteName _ host _

/-- A site name comes from a visit. -/
theorem Commits.mem_names (commits : Commits router moment dwells request tables changed)
    (member : name ∈ changed.localSiteName) :
    name ∈ tables.localSiteName ∨ Visited request moment changed name := by
  cases commits with
  | named host closed =>
    rename_i event perception uploadEligible hasActiveBlock
    rcases tables.recordLocalSiteName_spec event.eventId host moment.now with
      unchanged | ⟨visit, visitMem, sameId, needs, site, onSite, untaught, recorded⟩
    · rw [unchanged] at member
      exact .inl member
    · have visited : Visited (.rawEvent event perception uploadEligible hasActiveBlock) moment
          tables { siteKeyHash := site, host := host, lastSeenAt := timestamp moment.now } :=
        ⟨event, perception, uploadEligible, hasActiveBlock, rfl, closed, rfl, visit, visitMem,
          sameId, onSite, needs, untaught⟩
      have visitedStill := visited.recordLocalSiteName event.eventId host moment.now
      rw [recorded] at member
      rcases TableRows.mem_upsert.mp member with ⟨old, -⟩ | ⟨-, -, -, rfl⟩ | ⟨-, rfl⟩
      · exact .inl old
      · exact .inr visitedStill
      · exact .inr visitedStill
  | mapped _ _ upserted =>
    obtain ⟨-, rfl⟩ := tables.upsertMapping_eq_ok upserted
    exact .inl member
  | inserted _ _ _ stored =>
    obtain rfl := tables.insertRawEvent_eq_ok stored
    exact .inl member
  | correctedApp =>
    unfold Tables.savePersonalAppOverride Tables.saveRung at member
    split at member <;> exact .inl member
  | correctedWindow _ saves | updatedWindow _ saves =>
    obtain ⟨mapping, -, rfl⟩ := tables.savePersonalOverride_eq_ok saves
    exact .inl member
  | updatedApp =>
    unfold Tables.savePersonalAppOverrideByStableId Tables.saveRung at member
    split at member <;> exact .inl member
  | editedSite =>
    rw [(tables.editSiteScopeOverride_fields _ _ _ _).1] at member
    exact .inl member
  | editedApp _ saves | taughtApp _ _ saves =>
    obtain rfl := tables.saveAppScopeOverride_eq_ok saves
    exact .inl member
  | taughtSite => exact .inl (mem_of_mem_filter member)
  | swept =>
    unfold sweep at member
    split at member
    · exact .inl member
    · split at member
      · exact .inl member
      · exact .inl member
      · exact .inl (Tables.mem_of_mem_deleteSome member)
      · exact .inl member
  | _ => exact .inl member

theorem Reaches.mem_names (reaches : Reaches router moment dwells request tables changed)
    (member : name ∈ changed.localSiteName) :
    name ∈ tables.localSiteName ∨ Visited request moment changed name := by
  induction reaches with
  | refl => exact .inl member
  | tail _ commits ih =>
    rcases commits.mem_names member with before | visited
    · exact (ih before).imp_right commits.visited
    · exact .inr visited

variable (router : Router)

theorem written_by_visit (calls : List Call)
    (member : name ∈ (router.machine.run .started calls).tables.localSiteName) :
    ∃ earlier call later, calls = earlier ++ call :: later ∧ Visited call.request call.moment
        (router.machine.run .started (earlier ++ [call])).tables name ∧
      ∀ part, part <+: later →
        name ∈ (router.machine.run .started (earlier ++ call :: part)).tables.localSiteName := by
  induction calls using List.reverseRecOn with
  | nil => simp [Service.started, Tables.empty] at member
  | append_singleton calls call ih =>
    have reaches := handle_reaches router (router.machine.run .started calls) call
    have stepped : (router.machine.run .started (calls ++ [call])).tables =
        (handle router (router.machine.run .started calls) call).2.tables := by
      rw [StepMachine.Machine.run_append]
      rfl
    rw [stepped] at member
    rcases reaches.mem_names member with before | visited
    · obtain ⟨earlier, writer, later, rfl, visited, stays⟩ := ih before
      refine ⟨earlier, writer, later ++ [call], by simp, visited, fun part isPart => ?_⟩
      rcases prefix_concat_iff.mp isPart with rfl | inside
      · have whole : earlier ++ writer :: (later ++ [call]) =
            earlier ++ writer :: later ++ [call] := by simp
        rw [whole, stepped]
        exact member
      · exact stays part inside
    · refine ⟨calls, call, [], rfl, stepped ▸ visited, fun part isPart => ?_⟩
      rw [prefix_nil.mp isPart, stepped]
      exact member

end Written

section SiteList

variable {tables : Tables}

theorem Tables.mem_unclassifiedSites {lookbackDays minSeconds : Nat} {limit : Option Nat}
    {now : Int} {entry : Tables.UnclassifiedSiteEntry}
    (listed : entry ∈ tables.unclassifiedSites lookbackDays minSeconds limit now) :
    ∃ name ∈ tables.localSiteName, name.siteKeyHash = entry.siteStableId ∧
      name.host = entry.displayName ∧ tables.hasSiteRule entry.siteStableId = false ∧
      ∃ visits : List RawEventRow, visits.Sublist tables.rawEventBuffer ∧
        (∀ visit ∈ visits, visit.siteStableId = some entry.siteStableId ∧
          Tables.siteVisitNeedsACategory visit = true ∧
          timestamp (now - Duration.days (max 1 (min lookbackDays 14))) ≤ visit.occurredAt) ∧
        entry.secondsObserved = (visits.map (·.durationSeconds)).sum ∧
        max minSeconds 300 ≤ entry.secondsObserved := by
  have grouped : entry ∈ tables.localSiteName.filterMap (tables.siteEntry (max minSeconds 300)
        (timestamp (now - Duration.days (max 1 (min lookbackDays 14))))) := by
    cases limit with
    | none => exact (mem_insertionSort _).mp listed
    | some limit => exact (mem_insertionSort _).mp (mem_of_mem_take listed)
  obtain ⟨name, nameMem, shown⟩ := mem_filterMap.mp grouped
  rw [Tables.siteEntry, Option.ite_none_right_eq_some, Option.some.injEq] at shown
  obtain ⟨enough, rfl⟩ := shown
  simp only [Bool.and_eq_true, Bool.not_eq_true', isEmpty_eq_false_iff, decide_eq_true_eq] at enough
  have counted : ∀ visit ∈ tables.countedVisits name
      (timestamp (now - Duration.days (max 1 (min lookbackDays 14)))), _ :=
    fun visit member => (mem_filter.mp member).2
  simp only [Bool.and_eq_true, beq_iff_eq, decide_eq_true_eq, Bool.not_eq_true'] at counted
  obtain ⟨visit, visited⟩ := exists_mem_of_ne_nil _ enough.1
  refine ⟨name, nameMem, rfl, rfl, (counted visit visited).2, _, filter_sublist, ?_, rfl, enough.2⟩
  intro visit member
  exact ⟨(counted visit member).1.1.1, (counted visit member).1.2, (counted visit member).1.1.2⟩

end SiteList

/-- No hostname is held of a site with a rule, every hostname stands where a visit that needs
a category left it while the site had none, and the site list shows nothing else. -/
theorem hostname_retention (router : Router) (calls : List Call) :
    let tables := (router.machine.run .started calls).tables
    (∀ name ∈ tables.localSiteName, tables.hasSiteRule name.siteKeyHash = false) ∧
    (∀ name ∈ tables.localSiteName,
      ∃ earlier call later, calls = earlier ++ call :: later ∧
        Visited call.request call.moment
          (router.machine.run .started (earlier ++ [call])).tables name ∧
        ∀ part, part <+: later →
          name ∈ (router.machine.run .started (earlier ++ call :: part)).tables.localSiteName) ∧
    ∀ lookbackDays minSeconds limit now,
      ∀ entry ∈ tables.unclassifiedSites lookbackDays minSeconds limit now,
        ∃ name ∈ tables.localSiteName, name.siteKeyHash = entry.siteStableId ∧
          name.host = entry.displayName ∧ tables.hasSiteRule entry.siteStableId = false ∧
          ∃ visits : List RawEventRow, visits.Sublist tables.rawEventBuffer ∧
            (∀ visit ∈ visits, visit.siteStableId = some entry.siteStableId ∧
              Tables.siteVisitNeedsACategory visit = true ∧
              timestamp (now - Duration.days (max 1 (min lookbackDays 14))) ≤
                visit.occurredAt) ∧
            entry.secondsObserved = (visits.map (·.durationSeconds)).sum ∧
            max minSeconds 300 ≤ entry.secondsObserved := by
  have forgotten : Forgotten (router.machine.run .started calls).tables := by
    have initial : Forgotten Service.started.tables := fun name member =>
      absurd member not_mem_nil
    have keeps : ∀ service call, Forgotten service.tables →
        Forgotten (router.machine.next service call).tables := fun service call held =>
      (handle_reaches router service call).preserves (fun commits => commits.forgotten) held
    exact router.machine.invariant_run_of_forall keeps calls initial
  exact ⟨forgotten, fun name member => written_by_visit router calls member,
    fun lookbackDays minSeconds limit now entry listed => Tables.mem_unclassifiedSites listed⟩

end Velvt.Rules
