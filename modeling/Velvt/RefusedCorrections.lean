import Mathlib.Algebra.Order.BigOperators.Group.List
import Velvt.RuleWrites

/-!
# Corrections that are refused

A correction is a chain of transactions, each committed before the next one runs: the application
rung, the window rule, the event and its queued copy.
-/

namespace Velvt.Rules

open List TableRows

/-- The records of a correction: its rules, what they taught, and the events. -/
structure SameRecords (tables changed : Tables) : Prop where
  windows : changed.personalOverride = tables.personalOverride
  apps : changed.personalAppOverride = tables.personalAppOverride
  sites : changed.personalSiteOverride = tables.personalSiteOverride
  prototypes : changed.personalSemanticPrototype = tables.personalSemanticPrototype
  events : changed.rawEventBuffer = tables.rawEventBuffer
  queued : changed.batchEvent = tables.batchEvent

theorem SameRecords.refl (tables : Tables) : SameRecords tables tables :=
  ⟨rfl, rfl, rfl, rfl, rfl, rfl⟩

def timesWritten (appKeyHash : String) (rules : List AppOverrideRow) : Nat :=
  (rules.map fun rule =>
    if rule.appKeyHash = appKeyHash then rule.correctionCount + 1 else 0).sum

theorem sum_map_filter {Row : Type} {weight : Row → Nat} {kept : Row → Bool} {rows : List Row}
    (weightless : ∀ row ∈ rows, kept row = false → weight row = 0) :
    ((rows.filter kept).map weight).sum = (rows.map weight).sum := by
  induction rows with
  | nil => rfl
  | cons row rows ih =>
    have rest := ih fun other member => weightless other (mem_cons_of_mem _ member)
    cases keeps : kept row with
    | true => simp [keeps, rest]
    | false => simp [keeps, rest, weightless row mem_cons_self keeps]

theorem timesWritten_upsert {appKeyHash : String} {fresh : AppOverrideRow}
    {merge : AppOverrideRow → AppOverrideRow} (atKey : fresh.appKeyHash = appKeyHash)
    (keeps : ∀ rule, (merge rule).appKeyHash = rule.appKeyHash)
    (counts : ∀ rule, (merge rule).correctionCount = rule.correctionCount + 1)
    (rules : List AppOverrideRow) :
    timesWritten appKeyHash rules <
      timesWritten appKeyHash (TableRows.upsert (·.appKeyHash) fresh merge rules) := by
  by_cases present : ∃ rule ∈ rules, rule.appKeyHash = fresh.appKeyHash
  · rw [upsert_of_present present, timesWritten, timesWritten, map_map]
    refine sum_lt_sum _ _ (fun rule _ => ?_) ?_
    · by_cases same : rule.appKeyHash = appKeyHash <;> simp [same, atKey, keeps, counts]
    · obtain ⟨rule, member, same⟩ := present
      exact ⟨rule, member, by simp [same, atKey, keeps, counts]⟩
  · have absent : ∀ rule ∈ rules, rule.appKeyHash ≠ fresh.appKeyHash := by
      intro rule member same
      exact present ⟨rule, member, same⟩
    rw [upsert_of_absent absent]
    simp [timesWritten, atKey]

theorem timesWritten_foldBundleAlias (appKeyHash bundleKeyHash : String)
    (rules : List AppOverrideRow) (now : Int) :
    timesWritten appKeyHash rules ≤
      timesWritten appKeyHash (Tables.foldBundleAlias appKeyHash bundleKeyHash rules now) := by
  have kept : ∀ others : List AppOverrideRow, timesWritten appKeyHash (others.filter fun rule =>
      !(rule.bundleKeyHash == some bundleKeyHash && rule.appKeyHash != appKeyHash)) =
        timesWritten appKeyHash others := by
    intro others
    refine sum_map_filter fun rule _ dropped => if_neg fun same => ?_
    simp [same] at dropped
  unfold Tables.foldBundleAlias
  dsimp only
  split
  · exact (kept rules).ge
  · rename_i unnamed
    have zero : timesWritten appKeyHash rules = 0 := by
      rw [timesWritten, sum_eq_zero_iff]
      intro count member
      obtain ⟨rule, held, rfl⟩ := mem_map.mp member
      refine if_neg fun same => unnamed ?_
      rw [any_eq_true]
      exact ⟨rule, held, by simpa using same⟩
    rw [zero]
    exact Nat.zero_le _

theorem Tables.upsertAppScopeRule_ne (tables : Tables) (appKeyHash : String)
    (bundle : Option String) (category : String) (name : Option String) (appOnly : Bool)
    (now : Int) :
    (tables.upsertAppScopeRule appKeyHash bundle category name appOnly
      now).personalAppOverride ≠ tables.personalAppOverride := by
  intro same
  have counted : timesWritten appKeyHash tables.personalAppOverride <
      timesWritten appKeyHash (tables.upsertAppScopeRule appKeyHash bundle category name appOnly
        now).personalAppOverride := by
    unfold upsertAppScopeRule
    dsimp only
    cases bundle with
    | none =>
      apply timesWritten_upsert
      · rfl
      · intro rule
        rfl
      · intro rule
        rfl
    | some bundle =>
      refine (timesWritten_foldBundleAlias appKeyHash bundle _ now).trans_lt ?_
      apply timesWritten_upsert
      · rfl
      · intro rule
        rfl
      · intro rule
        rfl
  rw [same] at counted
  exact lt_irrefl _ counted

theorem Tables.saveRung_of_isSome (tables : Tables) {identity : Option (String × Option String)}
    (written : identity.isSome) (category : String) (name : Option String) (now : Int) :
    (tables.saveRung identity category name now).2.personalAppOverride ≠
      tables.personalAppOverride := by
  cases identity with
  | none => cases written
  | some identity => exact tables.upsertAppScopeRule_ne _ _ _ _ _ _

section Restated

variable (tables : Tables)

/-- Nothing is learned: no embedding is cached and every prototype is within the limits, or the
embedding ranks past a limit, as a prototype, and no other prototype does. -/
def PrototypesSettled (keyHash category : String) (now : Int) : Prop :=
  match tables.semanticEmbeddingCache.find? fun cached => cached.keyHash == keyHash with
  | none =>
    TableRows.Within (fun row => row.category == category) Tables.prototypeBefore 12
        tables.personalSemanticPrototype ∧
      TableRows.Within (fun _ => true) Tables.prototypeBefore 64 tables.personalSemanticPrototype
  | some cached =>
    let learned : SemanticPrototype :=
      { keyHash := keyHash
        category := category
        embedding := cached.embedding
        correctionCount := 1
        updatedAt := timestamp now }
    (∀ row ∈ tables.personalSemanticPrototype, row.keyHash ≠ keyHash) ∧
      ((TableRows.DropsLast (fun row => row.category == category) Tables.prototypeBefore 12
            tables.personalSemanticPrototype learned ∧
          TableRows.Within (fun _ => true) Tables.prototypeBefore 64
            tables.personalSemanticPrototype) ∨
        (TableRows.Within (fun row => row.category == category) Tables.prototypeBefore 12
            (tables.personalSemanticPrototype ++ [learned]) ∧
          TableRows.DropsLast (fun _ => true) Tables.prototypeBefore 64
            tables.personalSemanticPrototype learned))

/-- The rule of a window says already what a correction of this second asks for. -/
def WindowRestated (mapping : AbstractionMapping) (category : String) (name : Option String)
    (now : Int) : Prop :=
  (∃ rule ∈ tables.personalOverride, rule.keyHash = mapping.keyHash) ∧
    ∀ rule ∈ tables.personalOverride, rule.keyHash = mapping.keyHash →
      rule.category = category ∧ (name = none ∨ rule.activityName = name) ∧
        (tables.pairedAppKey mapping.stableId = none ∨
          rule.appKeyHash = tables.pairedAppKey mapping.stableId) ∧
        rule.updatedAt = timestamp now

/-- The event says already what a correction asks for. -/
def EventRestated (eventId label category : String) (name : Option String) : Prop :=
  ∀ event ∈ tables.rawEventBuffer, event.eventId = eventId →
    event.label = label ∧ event.category = category ∧
      event.classificationTier = .exactMatch ∧ event.classificationStatus = .classified ∧
      event.classificationConfidence = .high ∧ event.classificationSource = .userRule ∧
      (name = none ∨ event.localDisplayLabel = name)

theorem orElse_eq_right_iff {Value : Type} {first second : Option Value} :
    (first <|> second) = second ↔ first = none ∨ second = first := by
  cases first <;> simp [eq_comm]

theorem trimPrototypes_learnPrototype_eq_iff {keyHash category : String} {now : Int} :
    Tables.trimPrototypes category (tables.learnPrototype keyHash category now) =
        tables.personalSemanticPrototype ↔
      PrototypesSettled tables keyHash category now := by
  unfold Tables.trimPrototypes Tables.learnPrototype PrototypesSettled
  cases found : tables.semanticEmbeddingCache.find? fun cached => cached.keyHash == keyHash with
  | none => exact keepFirst_keepFirst_eq_iff
  | some cached =>
    dsimp only
    by_cases present : ∃ row ∈ tables.personalSemanticPrototype, row.keyHash = keyHash
    · -- the prototype is learned again, and counts the correction
      refine iff_of_false (fun same => ?_) fun settled => ?_
      · change Tables.trimPrototypes category _ = _ at same
        have shorter : tables.personalSemanticPrototype.Sublist _ :=
          same ▸ Tables.trimPrototypes_sublist category _
        have kept := shorter.eq_of_length (by rw [upsert_of_present present, length_map])
        obtain ⟨row, member, atKey⟩ := present
        have counted := congrArg SemanticPrototype.correctionCount
          ((upsert_eq_self_iff.mp kept.symm).2 row member atKey)
        exact absurd counted (Nat.succ_ne_self _)
      · obtain ⟨row, member, atKey⟩ := present
        exact settled.1 row member atKey
    · have absent : ∀ row ∈ tables.personalSemanticPrototype, row.keyHash ≠ keyHash := by
        intro row member same
        exact present ⟨row, member, same⟩
      rw [upsert_of_absent absent, keepFirst_keepFirst_append_eq_iff]
      · exact (and_iff_right absent).symm
      · intro member
        exact absent _ member rfl

theorem savePersonalOverride_windows_iff {mapping : AbstractionMapping} {category : String}
    {name : Option String} {now : Int} :
    TableRows.upsert (·.keyHash)
        { keyHash := mapping.keyHash
          category := category
          activityName := name
          appKeyHash := tables.pairedAppKey mapping.stableId
          updatedAt := timestamp now : PersonalOverrideRow }
        (fun rule =>
          { rule with
            category := category
            activityName := name <|> rule.activityName
            appKeyHash := tables.pairedAppKey mapping.stableId <|> rule.appKeyHash
            updatedAt := timestamp now }) tables.personalOverride = tables.personalOverride ↔
      WindowRestated tables mapping category name now := by
  rw [upsert_eq_self_iff, WindowRestated]
  refine and_congr_right fun _ => forall₃_congr fun rule _ _ => ?_
  obtain ⟨key, held, heldName, app, updated⟩ := rule
  simp only [PersonalOverrideRow.mk.injEq, true_and, orElse_eq_right_iff]
  constructor
  · rintro ⟨sameCategory, sameName, sameApp, sameInstant⟩
    exact ⟨sameCategory.symm, sameName, sameApp, sameInstant.symm⟩
  · rintro ⟨sameCategory, sameName, sameApp, sameInstant⟩
    exact ⟨sameCategory.symm, sameName, sameApp, sameInstant.symm⟩

theorem updateClassification_eq_iff {eventId label category : String} {name : Option String} :
    (tables.updateClassification eventId label category name).rawEventBuffer =
        tables.rawEventBuffer ↔
      EventRestated tables eventId label category name := by
  rw [Tables.updateClassification, update_eq_self_iff, EventRestated]
  refine forall₂_congr fun event _ => ?_
  rw [beq_iff_eq]
  refine imp_congr_right fun _ => ?_
  obtain ⟨⟩ := event
  simp only [RawEventRow.mk.injEq, true_and, and_true, orElse_eq_right_iff]
  constructor
  · rintro ⟨sameLabel, sameName, sameCategory, tier, status, confidence, source⟩
    exact ⟨sameLabel.symm, sameCategory.symm, tier.symm, status.symm, confidence.symm,
      source.symm, sameName⟩
  · rintro ⟨sameLabel, sameCategory, tier, status, confidence, source, sameName⟩
    exact ⟨sameLabel.symm, sameName, sameCategory.symm, tier.symm, status.symm,
      confidence.symm, source.symm⟩

end Restated

section Harmless

variable (router : Router) (moment : Moment) (tables : Tables)

/-- Every write after the rung and before the one that fails says what is there. -/
def CorrectionRestated (correction : EventCorrection) (label : String) (name : Option String) :
    Prop :=
  moment.fails .savePersonalOverride = false →
    ∀ mapping, tables.mappingOfStableId correction.stableId = some mapping →
      WindowRestated tables mapping correction.category name moment.now ∧
        PrototypesSettled tables mapping.keyHash correction.category moment.now ∧
        (moment.fails .updateClassification = false →
          EventRestated tables correction.eventId label correction.category name)

/-- A correction that changes nothing when it is refused: it is turned away before its first
write, or it writes no rung and restates what the rest says. -/
def HarmlessCorrection (correction : EventCorrection) : Prop :=
  ∀ label, overrideLabelForCategory correction.category = some label →
    (router.hasAbstractionMap && router.hasUploadBatches && router.hasCorrectionHttp) = true →
    ∀ name, normalizedLocalActivityName correction.localActivityName = .ok name →
    (moment.fails .savePersonalAppOverride = true ∨
        tables.appIdentityForEvent correction.eventId = none) ∧
      CorrectionRestated moment tables correction label name

/-- An edit of a window's rule that writes no rung. -/
def HarmlessUpdate (update : OverrideUpdate) : Prop :=
  (overrideLabelForCategory update.category).isSome = true →
    router.hasAbstractionMap = true →
    ∀ name, normalizedLocalActivityName update.localActivityName = .ok name →
    editingSiteRule moment update.stableId tables = false →
    editingAppRule moment update.stableId tables = false →
    moment.fails .savePersonalAppOverride = true ∨
      tables.appIdentityForStableId update.stableId = none

theorem saveCorrection_eq (correction : EventCorrection) (label : String) (name : Option String) :
    saveCorrection moment correction label name tables =
      if moment.fails .savePersonalOverride then (.error .storage, tables)
      else
        match tables.savePersonalOverride correction.stableId correction.category name
            moment.now with
        | .error error => (.error error, tables)
        | .ok saved =>
          if moment.fails .updateClassification then (.error .storage, saved)
          else
            let reclassified :=
              saved.updateClassification correction.eventId label correction.category name
            if moment.fails .updateEventClassification then (.error .storage, reclassified)
            else
              (.ok (), reclassified.updateEventClassification correction.eventId label
                correction.category) := by
  unfold saveCorrection attempt write
  cases moment.fails .savePersonalOverride with
  | true => rfl
  | false =>
    cases saves : tables.savePersonalOverride correction.stableId correction.category name
        moment.now with
    | error error => simp [andThen, saves, Except.map]
    | ok saved =>
      cases moment.fails .updateClassification with
      | true => simp [andThen, saves, Except.map]
      | false =>
        cases moment.fails .updateEventClassification <;>
          simp [andThen, saves, Except.map]

/-- A correction that is refused has changed nothing where it restates what is stored. -/
theorem saveCorrection_sameRecords_iff (correction : EventCorrection) (label : String)
    (name : Option String) {error : PersistenceError}
    (refused : (saveCorrection moment correction label name tables).1 = .error error) :
    SameRecords tables (saveCorrection moment correction label name tables).2 ↔
      CorrectionRestated moment tables correction label name := by
  rw [saveCorrection_eq] at refused ⊢
  unfold CorrectionRestated
  cases windowFails : moment.fails .savePersonalOverride with
  | true => simp [SameRecords.refl]
  | false =>
    cases found : tables.mappingOfStableId correction.stableId with
    | none => simp [Tables.savePersonalOverride, found, SameRecords.refl]
    | some mapping =>
      have windows := @savePersonalOverride_windows_iff tables mapping correction.category
        name moment.now
      have prototypes := @trimPrototypes_learnPrototype_eq_iff tables mapping.keyHash
        correction.category moment.now
      have events := @updateClassification_eq_iff tables correction.eventId label
        correction.category name
      cases eventFails : moment.fails .updateClassification with
      | true =>
        simp only [Tables.savePersonalOverride, found, Bool.false_eq_true, if_false, if_true,
          true_imp_iff, Option.some.injEq, forall_eq', Bool.true_eq_false, false_imp_iff,
          and_true]
        constructor
        · intro same
          exact ⟨windows.mp same.windows, prototypes.mp same.prototypes⟩
        · rintro ⟨restated, settled⟩
          exact ⟨windows.mpr restated, rfl, rfl, prototypes.mpr settled, rfl, rfl⟩
      | false =>
        cases batchFails : moment.fails .updateEventClassification with
        | false =>
          simp [Tables.savePersonalOverride, found, windowFails, eventFails, batchFails] at refused
        | true =>
          simp only [Tables.savePersonalOverride, found, Bool.false_eq_true, if_false,
            if_true, true_imp_iff, Option.some.injEq, forall_eq']
          constructor
          · intro same
            exact ⟨windows.mp same.windows, prototypes.mp same.prototypes, events.mp same.events⟩
          · rintro ⟨restated, settled, said⟩
            exact ⟨windows.mpr restated, rfl, rfl, prototypes.mpr settled, events.mpr said, rfl⟩

theorem saveCorrection_apps (correction : EventCorrection) (label : String) (name : Option String) :
    (saveCorrection moment correction label name tables).2.personalAppOverride =
      tables.personalAppOverride := by
  rw [saveCorrection_eq]
  split
  · rfl
  · split
    · rfl
    · rename_i saved saves
      obtain ⟨mapping, -, rfl⟩ := tables.savePersonalOverride_eq_ok saves
      split
      · rfl
      · dsimp only
        split <;> rfl

theorem generalize_spec (fails : Bool) {identity : Option (String × Option String)}
    {category : String} {name : Option String} {now : Int} :
    let generalized := (attempt fails (fun current =>
      .ok (current.saveRung identity category name now)) tables).2
    (fails = true ∨ identity = none → generalized = tables) ∧ (¬ (fails = true ∨ identity = none) →
        generalized.personalAppOverride ≠ tables.personalAppOverride) := by
  cases fails with
  | true => simp [attempt]
  | false =>
    cases identity with
    | none => simp [attempt, Tables.saveRung]
    | some identity =>
      refine ⟨by simp, fun _ => ?_⟩
      exact @Tables.saveRung_of_isSome tables (some identity) rfl category name now

theorem correctionAnswer_eq_error {Value : Type} {code : String}
    {outcome : Except PersistenceError Value × Tables}
    (refused : (correctionAnswer outcome).1 = classificationCorrectionError code) :
    ∃ error, outcome.1 = .error error := by
  obtain ⟨result, reached⟩ := outcome
  cases result with
  | ok value => cases refused
  | error error => exact ⟨error, rfl⟩

theorem attempt_of_error {Value : Type} {fails : Bool}
    {change : Tables → Except PersistenceError (Value × Tables)} {error : PersistenceError}
    (refused : (attempt fails change tables).1 = .error error) :
    (attempt fails change tables).2 = tables := by
  rcases attempt_eq fails change tables with ⟨value, changed, -, -, done⟩ | ⟨other, done⟩
  · rw [done] at refused
    cases refused
  · rw [done]

theorem correctEventClassification_sameRecords_iff {correction : EventCorrection} {code : String}
    (refused : (correctEventClassification router moment correction tables).1 =
      classificationCorrectionError code) :
    SameRecords tables (correctEventClassification router moment correction tables).2 ↔
      HarmlessCorrection router moment tables correction := by
  unfold correctEventClassification at refused ⊢
  cases labelled : overrideLabelForCategory correction.category with
  | none => simp [HarmlessCorrection, labelled, SameRecords.refl]
  | some label =>
    cases available : router.hasAbstractionMap && router.hasUploadBatches &&
        router.hasCorrectionHttp with
    | false => simp [HarmlessCorrection, available, SameRecords.refl]
    | true =>
      cases named : normalizedLocalActivityName correction.localActivityName with
      | error unnamed => simp [HarmlessCorrection, named, SameRecords.refl]
      | ok name =>
        simp only [labelled, available, named, Bool.not_true, Bool.false_eq_true,
          if_false, correctionAnswer_tables] at refused ⊢
        obtain ⟨error, refused⟩ := correctionAnswer_eq_error refused
        have harmless : HarmlessCorrection router moment tables correction ↔
            (moment.fails .savePersonalAppOverride = true ∨
              tables.appIdentityForEvent correction.eventId = none) ∧
            CorrectionRestated moment tables correction label name := by
          simp only [HarmlessCorrection, labelled, available, named, Option.some.injEq,
            Except.ok.injEq, true_imp_iff, forall_eq']
        rw [harmless]
        obtain ⟨unwritten, written⟩ := @generalize_spec tables
          (moment.fails .savePersonalAppOverride)
          (tables.appIdentityForEvent correction.eventId) correction.category name
          moment.now
        by_cases silent : moment.fails .savePersonalAppOverride = true ∨
            tables.appIdentityForEvent correction.eventId = none
        · have same : generalizeCorrection moment correction name tables = tables :=
            unwritten silent
          rw [same] at refused ⊢
          rw [saveCorrection_sameRecords_iff moment tables correction label name refused]
          exact (and_iff_right silent).symm
        · refine iff_of_false (fun same => ?_) fun harmless => silent harmless.1
          have kept := same.apps
          rw [saveCorrection_apps] at kept
          exact written silent kept

/-- A refused update leaves the records exactly where it is harmless. -/
theorem updateClassificationOverride_sameRecords_iff {update : OverrideUpdate} {code : String}
    (refused : (updateClassificationOverride router moment update tables).1 =
      classificationCorrectionError code) :
    SameRecords tables (updateClassificationOverride router moment update tables).2 ↔
      HarmlessUpdate router moment tables update := by
  unfold updateClassificationOverride at refused ⊢
  cases labelled : overrideLabelForCategory update.category with
  | none => simp [HarmlessUpdate, labelled, SameRecords.refl]
  | some label =>
    cases available : router.hasAbstractionMap with
    | false => simp [HarmlessUpdate, available, SameRecords.refl]
    | true =>
      cases named : normalizedLocalActivityName update.localActivityName with
      | error unnamed => simp [HarmlessUpdate, named, SameRecords.refl]
      | ok name =>
        simp only [labelled, available, named, Option.isNone_some, Bool.not_true,
          Bool.false_eq_true, if_false] at refused ⊢
        cases site : editingSiteRule moment update.stableId tables with
        | true =>
          simp only [site, if_true, correctionAnswer_tables] at refused ⊢
          obtain ⟨error, refused⟩ := correctionAnswer_eq_error refused
          rw [attempt_of_error tables refused]
          simp [HarmlessUpdate, site, SameRecords.refl]
        | false =>
          cases app : editingAppRule moment update.stableId tables with
          | true =>
            simp only [site, app, Bool.false_eq_true, if_false, if_true,
              correctionAnswer_tables] at refused ⊢
            obtain ⟨error, refused⟩ := correctionAnswer_eq_error refused
            rw [attempt_of_error tables refused]
            simp [HarmlessUpdate, app, SameRecords.refl]
          | false =>
            simp only [site, app, Bool.false_eq_true, if_false,
              correctionAnswer_tables] at refused ⊢
            obtain ⟨error, refused⟩ := correctionAnswer_eq_error refused
            rw [attempt_of_error _ refused]
            have harmless : HarmlessUpdate router moment tables update ↔
                (moment.fails .savePersonalAppOverride = true ∨
                  tables.appIdentityForStableId update.stableId = none) := by
              simp only [HarmlessUpdate, labelled, available, named, site, app,
                Option.isSome_some, Except.ok.injEq, true_imp_iff, forall_eq']
            rw [harmless]
            obtain ⟨unwritten, written⟩ := @generalize_spec tables
              (moment.fails .savePersonalAppOverride)
              (tables.appIdentityForStableId update.stableId) update.category name
              moment.now
            by_cases silent : moment.fails .savePersonalAppOverride = true ∨
                tables.appIdentityForStableId update.stableId = none
            · refine iff_of_true ?_ silent
              have same : generalizeUpdate moment update name tables = tables :=
                unwritten silent
              rw [same]
              exact SameRecords.refl tables
            · exact iff_of_false (fun same => written silent same.apps) silent

/-- A request that saves a correction or an edit. -/
def Request.IsCorrection : Request → Prop
  | .correctEventClassification _ => True
  | .updateClassificationOverride _ => True
  | _ => False

def Harmless (call : Call) : Prop :=
  match call.request with
  | .correctEventClassification correction =>
    HarmlessCorrection router call.moment tables correction
  | .updateClassificationOverride update => HarmlessUpdate router call.moment tables update
  | _ => True

/-- A correction that is refused has changed nothing exactly when it was harmless. -/
theorem refused_correction_unchanged_iff (service : Service) (call : Call)
    (isCorrection : call.request.IsCorrection) (code : String)
    (refused : router.machine.answer service call = classificationCorrectionError code) :
    SameRecords service.tables (router.machine.next service call).tables ↔
      Harmless router service.tables call := by
  obtain ⟨moment, request⟩ := call
  cases request with
  | correctEventClassification correction =>
    exact correctEventClassification_sameRecords_iff router moment service.tables refused
  | updateClassificationOverride update =>
    exact updateClassificationOverride_sameRecords_iff router moment service.tables refused
  | _ => cases isCorrection

end Harmless

def seenEditor : Service :=
  workingRouter.machine.run Service.started [(editorWindow "event" "plan" "one").at 0]

def correctsEvent (stableId : String) : Call :=
  (Request.correctEventClassification
    { eventId := "event"
      stableId := stableId
      category := "REFERENCE"
      localActivityName := none }).at 1

/-- The correction names a window that was never seen. -/
theorem refused_correction_unchanged_iff_unknown_window :
    SameRecords seenEditor.tables
        (workingRouter.machine.next seenEditor (correctsEvent "abs_two")).tables ↔
      Harmless workingRouter seenEditor.tables (correctsEvent "abs_two") :=
  refused_correction_unchanged_iff workingRouter seenEditor (correctsEvent "abs_two") trivial
    "classification_correction_persistence_failed" (by decide +kernel)

/-- The rung of the editor is saved although its window is not known. -/
theorem refused_correction_leaves_rung :
    ¬ ∀ (router : Router) (before : List Call) (call : Call), call.request.IsCorrection →
      ∀ code, router.machine.answer (router.machine.run Service.started before) call =
          classificationCorrectionError code →
        SameRecords (router.machine.run Service.started before).tables
          (router.machine.next (router.machine.run Service.started before) call).tables := by
  intro unchanged
  have same := unchanged workingRouter [(editorWindow "event" "plan" "one").at 0]
    (correctsEvent "abs_two") trivial "classification_correction_persistence_failed"
    (by decide +kernel)
  exact absurd same.apps (by decide +kernel)

end Velvt.Rules
