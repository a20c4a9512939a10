import Velvt.RuleMessages

/-!
# What a request commits

Every transaction that a request can commit, with what the handler has made sure of by then.
-/

namespace Velvt.Rules

open Relation List

section Transactions

variable {Value Other : Type} {step : Tables → Tables → Prop}

theorem attempt_eq (fails : Bool)
    (change : Tables → Except PersistenceError (Value × Tables)) (tables : Tables) :
    (∃ value changed, fails = false ∧ change tables = .ok (value, changed) ∧
        attempt fails change tables = (.ok value, changed)) ∨
      ∃ error, attempt fails change tables = (.error error, tables) := by
  cases fails with
  | true => exact .inr ⟨.storage, rfl⟩
  | false =>
    cases changes : change tables with
    | error error => exact .inr ⟨error, by simp [attempt, changes]⟩
    | ok result =>
      exact .inl ⟨result.1, result.2, rfl, rfl, by simp [attempt, changes]⟩

variable {change : Tables → Except PersistenceError (Value × Tables)} {tables : Tables}

theorem attempt_preserves {fails : Bool}
    {Inv : Tables → Prop} (before : Inv tables)
    (keeps : ∀ value changed, change tables = .ok (value, changed) → Inv changed) :
    Inv (attempt fails change tables).2 := by
  rcases attempt_eq fails change tables with ⟨value, changed, -, changes, done⟩ | ⟨error, done⟩
  · rw [done]
    exact keeps value changed changes
  · rw [done]
    exact before

theorem attempt_reaches {fails : Bool}
    (commits : ∀ value changed, change tables = .ok (value, changed) → step tables changed) :
    ReflTransGen step tables (attempt fails change tables).2 := by
  rcases attempt_eq fails change tables with ⟨value, changed, -, changes, done⟩ | ⟨error, done⟩
  · rw [done]
    exact .single (commits value changed changes)
  · rw [done]

theorem attempt_total_reaches {fails : Bool} {change : Tables → Value × Tables}
    (commits : step tables (change tables).2) :
    ReflTransGen step tables (attempt fails (fun current => .ok (change current)) tables).2 := by
  refine attempt_reaches fun value changed changes => ?_
  have same : (change tables).2 = changed := congrArg Prod.snd (Except.ok.inj changes)
  rwa [← same]

theorem andThen_reaches {first : Except PersistenceError Value × Tables}
    {next : Value → Tables → Except PersistenceError Other × Tables}
    (begins : ReflTransGen step tables first.2) (continues : ∀ value, first.1 = .ok value →
      ReflTransGen step first.2 (next value first.2).2) :
    ReflTransGen step tables (andThen first next).2 := by
  obtain ⟨outcome, reached⟩ := first
  cases outcome with
  | error error => exact begins
  | ok value => exact begins.trans (continues value rfl)

theorem andThen_eq_ok {first : Except PersistenceError Value × Tables}
    {next : Value → Tables → Except PersistenceError Other × Tables} {last : Other}
    (done : (andThen first next).1 = .ok last) :
    ∃ value, first.1 = .ok value ∧ (next value first.2).1 = .ok last ∧
      (andThen first next).2 = (next value first.2).2 := by
  obtain ⟨outcome, reached⟩ := first
  cases outcome with
  | error error => cases done
  | ok value => exact ⟨value, rfl, done, rfl⟩

theorem attempt_eq_ok {fails : Bool} {value : Value}
    (done : (attempt fails change tables).1 = .ok value) :
    change tables = .ok (value, (attempt fails change tables).2) := by
  rcases attempt_eq fails change tables with ⟨answer, changed, -, changes, same⟩ | ⟨error, same⟩
  · rw [same] at done ⊢
    cases done
    exact changes
  · rw [same] at done
    cases done

@[simp]
theorem write_eq_ok {change : Tables → Except PersistenceError Tables} {tables changed : Tables}
    {value : Unit} :
    write change tables = .ok (value, changed) ↔ change tables = .ok changed := by
  cases changes : change tables <;> simp [write, changes, Except.map]

@[simp]
theorem correctionAnswer_tables (outcome : Except PersistenceError Value × Tables) :
    (correctionAnswer outcome).2 = outcome.2 := by
  obtain ⟨result, tables⟩ := outcome
  cases result <;> rfl

theorem correctionAnswer_eq_menuStatus {outcome : Except PersistenceError Value × Tables} :
    (correctionAnswer outcome).1 = .menuStatus ↔ ∃ value, outcome.1 = .ok value := by
  obtain ⟨result, tables⟩ := outcome
  cases result <;> simp [correctionAnswer, classificationCorrectionError]

theorem correctionAnswer_answer (outcome : Except PersistenceError Value × Tables) :
    (correctionAnswer outcome).1 = .menuStatus ∨
      ∃ code, (correctionAnswer outcome).1 = classificationCorrectionError code := by
  obtain ⟨result, tables⟩ := outcome
  cases result with
  | ok value => exact .inl rfl
  | error error => exact .inr ⟨_, rfl⟩

end Transactions

/-- An abstraction of an event, made under the mapping its window has. -/
def Abstracts (router : Router) (event : RawEvent) (tables : Tables)
    (abstracted : AbstractedEvent) : Prop :=
  ∃ classified, ∃ mapping ∈ tables.abstractionMap,
    mapping.keyHash = (router.engine.identityOf event).stableKey ∧
      abstracted = router.engine.abstracted event classified mapping.stableId

section Commits

variable (router : Router) (moment : Moment) (dwells : List (UInt64 × AbstractedEvent))

/-- The transactions of a request. -/
inductive Commits : Request → Tables → Tables → Prop
  | embedded {event perception uploadEligible hasActiveBlock tables} (keyHash : String)
      (embedding : Embedding) :
      Commits (.rawEvent event perception uploadEligible hasActiveBlock) tables
        (tables.recordEmbedding keyHash embedding moment.now)
  | mapped {reported perception uploadEligible hasActiveBlock tables mapped} {event : RawEvent}
      {classified : ClassifiedWindow}
      (cleared : event = clearDeclaredMetadataBeyondBounds reported)
      (classifies : classify event perception
        (tables.personalOverrideOf (router.engine.identityOf event)) = .ok classified)
      (upserted : tables.upsertMapping
        (router.engine.mappingOf event perception classified moment.now) = .ok mapped) :
      Commits (.rawEvent reported perception uploadEligible hasActiveBlock) tables mapped
  | inserted {reported perception uploadEligible hasActiveBlock tables inserted}
      {event : RawEvent} {abstracted : AbstractedEvent}
      (cleared : event = clearDeclaredMetadataBeyondBounds reported)
      (closed : event.inProgress = false)
      (abstraction : abstracted ∈ dwells.map Prod.snd ∨ Abstracts router event tables abstracted)
      (stored : tables.insertRawEvent
        (rawEventRow router.engine moment event abstracted uploadEligible) = .ok inserted) :
      Commits (.rawEvent reported perception uploadEligible hasActiveBlock) tables inserted
  | named {event perception uploadEligible hasActiveBlock tables} (host : String)
      (closed : event.inProgress = false) :
      Commits (.rawEvent event perception uploadEligible hasActiveBlock) tables
        (tables.recordLocalSiteName event.eventId host moment.now).2
  | correctedApp {correction tables name}
      (named : normalizedLocalActivityName correction.localActivityName = .ok name) :
      Commits (.correctEventClassification correction) tables
        (tables.savePersonalAppOverride correction.eventId correction.category name moment.now).2
  | correctedWindow {correction tables saved name}
      (named : normalizedLocalActivityName correction.localActivityName = .ok name)
      (saves : tables.savePersonalOverride correction.stableId correction.category name
        moment.now = .ok saved) :
      Commits (.correctEventClassification correction) tables saved
  | correctedEvent {correction tables name} (label : String) :
      Commits (.correctEventClassification correction) tables
        (tables.updateClassification correction.eventId label correction.category name)
  | correctedBatch {correction tables} (label : String) :
      Commits (.correctEventClassification correction) tables
        (tables.updateEventClassification correction.eventId label correction.category)
  | updatedApp {update tables name}
      (named : normalizedLocalActivityName update.localActivityName = .ok name) :
      Commits (.updateClassificationOverride update) tables
        (tables.savePersonalAppOverrideByStableId update.stableId update.category name moment.now).2
  | updatedWindow {update tables saved name}
      (named : normalizedLocalActivityName update.localActivityName = .ok name)
      (saves : tables.savePersonalOverride update.stableId update.category name
        moment.now = .ok saved) :
      Commits (.updateClassificationOverride update) tables saved
  | editedSite {update tables name}
      (named : normalizedLocalActivityName update.localActivityName = .ok name)
      (held : (tables.siteScopeOverride update.stableId).isSome = true) :
      Commits (.updateClassificationOverride update) tables
        (tables.editSiteScopeOverride update.stableId update.category name moment.now)
  | editedApp {update tables saved name}
      (named : normalizedLocalActivityName update.localActivityName = .ok name)
      (saves : tables.saveAppScopeOverride update.stableId none update.category name
        moment.now = .ok saved) :
      Commits (.updateClassificationOverride update) tables saved
  | taughtApp {teaching tables saved name} (bundle : Option String)
      (named : normalizedLocalActivityName teaching.activityName = .ok name)
      (saves : tables.saveAppScopeOverride teaching.keyHash bundle teaching.category name
        moment.now = .ok saved) :
      Commits (.setApplicationCategory teaching) tables saved
  | taughtSite {teaching tables name}
      (named : normalizedLocalActivityName teaching.activityName = .ok name) :
      Commits (.setSiteCategory teaching) tables
        (tables.saveSiteScopeOverride teaching.keyHash teaching.category name moment.now)
  | removedWindow {stableId tables} :
      Commits (.removeClassificationOverride stableId) tables
        (tables.removePersonalOverride stableId).2
  | removedApp {stableId tables} :
      Commits (.removeClassificationOverride stableId) tables
        (tables.removeAppScopeOverride stableId).2
  | removedSite {stableId tables} :
      Commits (.removeClassificationOverride stableId) tables
        (tables.removeSiteScopeOverride stableId).2
  | reset {tables} : Commits .resetClassificationOverrides tables tables.resetPersonalOverrides
  | swept {pass tables} : Commits (.sweep pass) tables (sweep moment pass tables)
  | requeued {batchEvent tables} :
      Commits (.queueBatchEvents batchEvent) tables { tables with batchEvent := batchEvent }

/-- The tables that commits of a request lead to. -/
abbrev Reaches (request : Request) : Tables → Tables → Prop :=
  ReflTransGen (Commits router moment dwells request)

end Commits

section RawEvents

variable {router : Router} {moment : Moment} {dwells : List (UInt64 × AbstractedEvent)}
  {reported event : RawEvent} {perception : Perception}
  {uploadEligible hasActiveBlock : Bool} {tables : Tables}

theorem observe_reaches :
    Reaches router moment dwells (.rawEvent reported perception uploadEligible hasActiveBlock)
      tables (router.engine.observe moment event perception tables) := by
  unfold AbstractionEngine.observe
  split
  · split
    · exact .refl
    · exact .single (.embedded _ _)
  · exact .refl

theorem resolveId_spec {classified : ClassifiedWindow}
    (cleared : event = clearDeclaredMetadataBeyondBounds reported)
    (classifies : classify event perception
      (tables.personalOverrideOf (router.engine.identityOf event)) = .ok classified) :
    Reaches router moment dwells (.rawEvent reported perception uploadEligible hasActiveBlock)
        tables (router.engine.resolveId moment event perception classified tables).2 ∧
      ∀ stableId, (router.engine.resolveId moment event perception classified tables).1 =
          .ok stableId →
        ∃ mapping ∈
            (router.engine.resolveId moment event perception classified tables).2.abstractionMap,
          mapping.keyHash = (router.engine.identityOf event).stableKey ∧
            mapping.stableId = stableId := by
  unfold AbstractionEngine.resolveId
  split
  · exact ⟨.refl, by simp⟩
  · split
    · exact ⟨.refl, by simp⟩
    · rename_i upserted upserts
      have commits : Reaches router moment dwells
          (.rawEvent reported perception uploadEligible hasActiveBlock) tables upserted :=
        .single (.mapped cleared classifies upserts)
      split
      · rename_i row found
        split
        · exact ⟨commits, by simp⟩
        · refine ⟨commits, fun stableId resolved => ⟨row, ?_, ?_, ?_⟩⟩
          · exact mem_of_find?_eq_some found
          · simpa using List.find?_some found
          · simpa using resolved
      · exact ⟨commits, by simp⟩

/-- What the engine writes for a window, and what it hands on. -/
theorem process_spec (cleared : event = clearDeclaredMetadataBeyondBounds reported) :
    Reaches router moment dwells (.rawEvent reported perception uploadEligible hasActiveBlock)
        tables (router.engine.process moment event perception tables).2 ∧
      ∀ abstracted, (router.engine.process moment event perception tables).1 = .ok abstracted →
        Abstracts router event (router.engine.process moment event perception tables).2
          abstracted := by
  have observed : Reaches router moment dwells
      (.rawEvent reported perception uploadEligible hasActiveBlock) tables
      (router.engine.observe moment event perception tables) := observe_reaches
  unfold AbstractionEngine.process
  generalize router.engine.observe moment event perception tables = before at observed ⊢
  dsimp only
  cases read : before.readPersonalOverride (router.engine.identityOf event) moment.fails with
  | error error => exact ⟨observed, by simp [Except.bind]⟩
  | ok rule =>
    simp only [Except.bind]
    cases classifies : classify event perception rule with
    | error error => exact ⟨observed, by simp⟩
    | ok classified =>
      rw [before.readPersonalOverride_eq_ok read] at classifies
      have resolution := @resolveId_spec router moment dwells reported event perception
        uploadEligible hasActiveBlock before classified cleared classifies
      dsimp only
      generalize router.engine.resolveId moment event perception classified before =
        outcome at resolution ⊢
      obtain ⟨resolves, stored⟩ := resolution
      obtain ⟨result, resolved⟩ := outcome
      cases result with
      | error error => exact ⟨observed.trans resolves, by simp⟩
      | ok stableId =>
        obtain ⟨mapping, member, keyed, rfl⟩ := stored stableId rfl
        dsimp only
        split
        · exact ⟨observed.trans resolves, by simp⟩
        · refine ⟨observed.trans resolves, fun abstracted done => ?_⟩
          cases done
          exact ⟨classified, mapping, member, keyed, rfl⟩

theorem recordSiteName_reaches {row : RawEventRow} {abstracted : AbstractedEvent}
    (closed : reported.inProgress = false) (sameId : row.eventId = reported.eventId) :
    Reaches router moment dwells (.rawEvent reported perception uploadEligible hasActiveBlock)
      tables (recordSiteName moment row abstracted tables) := by
  unfold recordSiteName
  split
  · refine attempt_total_reaches ?_
    rw [sameId]
    exact .named _ closed
  · exact .refl

@[simp]
theorem clearDeclaredMetadataBeyondBounds_eventId :
    (clearDeclaredMetadataBeyondBounds reported).eventId = reported.eventId := by
  unfold clearDeclaredMetadataBeyondBounds
  split <;> rfl

@[simp]
theorem clearDeclaredMetadataBeyondBounds_inProgress :
    (clearDeclaredMetadataBeyondBounds reported).inProgress = reported.inProgress := by
  unfold clearDeclaredMetadataBeyondBounds
  split <;> rfl

theorem storeRawEvent_reaches {abstracted : AbstractedEvent}
    (cleared : event = clearDeclaredMetadataBeyondBounds reported)
    (closed : event.inProgress = false)
    (abstraction : abstracted ∈ dwells.map Prod.snd ∨ Abstracts router event tables abstracted) :
    Reaches router moment dwells (.rawEvent reported perception uploadEligible hasActiveBlock)
      tables (storeRawEvent router moment event abstracted uploadEligible tables).2 := by
  unfold storeRawEvent
  have sameId : event.eventId = reported.eventId := by simp [cleared]
  have stillClosed : reported.inProgress = false := by simpa [cleared] using closed
  rcases attempt_eq (moment.fails .insertRawEvent)
    (write (·.insertRawEvent (rawEventRow router.engine moment event abstracted uploadEligible)))
    tables with ⟨value, inserted, -, inserts, done⟩ | ⟨error, done⟩
  · rw [write_eq_ok] at inserts
    simp only [done]
    exact .head (.inserted cleared closed abstraction inserts)
      (recordSiteName_reaches stillClosed sameId)
  · simp only [done]
    exact .refl

theorem observeDwellInProgress_reaches {service : Service}
    (cleared : event = clearDeclaredMetadataBeyondBounds reported) :
    Reaches router moment dwells (.rawEvent reported perception uploadEligible hasActiveBlock)
      service.tables
      (observeDwellInProgress router moment event perception hasActiveBlock service).2.tables := by
  have processed := (@process_spec router moment dwells reported event perception
    uploadEligible hasActiveBlock service.tables cleared).1
  unfold observeDwellInProgress
  split
  · exact .refl
  · split <;> rename_i result <;> rw [result] at processed <;> exact processed

theorem observeClosedDwell_reaches {service : Service}
    (cleared : event = clearDeclaredMetadataBeyondBounds reported)
    (closed : event.inProgress = false) :
    Reaches router moment service.inProgressDwells
      (.rawEvent reported perception uploadEligible hasActiveBlock) service.tables
      (observeClosedDwell router moment event perception uploadEligible service).2.tables := by
  unfold observeClosedDwell
  split
  · rename_i dwell found
    refine storeRawEvent_reaches cleared closed (.inl ?_)
    exact mem_map_of_mem (mem_of_find?_eq_some found)
  · have processing := @process_spec router moment service.inProgressDwells reported event
      perception uploadEligible hasActiveBlock service.tables cleared
    obtain ⟨processed, abstracts⟩ := processing
    split
    · rename_i abstracted after result
      rw [result] at processed abstracts
      exact processed.trans (storeRawEvent_reaches cleared closed (.inr (abstracts _ rfl)))
    · rename_i result
      rw [result] at processed
      exact processed

end RawEvents

section Corrections

variable {router : Router} {moment : Moment} {dwells : List (UInt64 × AbstractedEvent)}
  {tables : Tables}

theorem write_reaches {request : Request} {fails : Bool}
    {change : Tables → Except PersistenceError Tables}
    (commits : ∀ changed, change tables = .ok changed →
      Commits router moment dwells request tables changed) :
    Reaches router moment dwells request tables (attempt fails (write change) tables).2 := by
  refine attempt_reaches fun value changed changes => ?_
  exact commits changed (write_eq_ok.mp changes)

theorem correctEventClassification_reaches (correction : EventCorrection) :
    Reaches router moment dwells (.correctEventClassification correction) tables
      (correctEventClassification router moment correction tables).2 := by
  unfold correctEventClassification
  split
  · exact .refl
  · rename_i label _
    split
    · exact .refl
    · split
      · exact .refl
      · rename_i name named
        rw [correctionAnswer_tables]
        have generalized : Reaches router moment dwells
            (.correctEventClassification correction) tables
            (generalizeCorrection moment correction name tables) :=
          attempt_total_reaches (.correctedApp named)
        refine generalized.trans (andThen_reaches (andThen_reaches ?_ ?_) ?_)
        · exact write_reaches fun saved saves => .correctedWindow named saves
        · intro _ _
          exact write_reaches fun saved saves => by
            rw [← Except.ok.inj saves]
            exact .correctedEvent label
        · intro _ _
          exact write_reaches fun saved saves => by
            rw [← Except.ok.inj saves]
            exact .correctedBatch label

theorem updateClassificationOverride_reaches (update : OverrideUpdate) :
    Reaches router moment dwells (.updateClassificationOverride update) tables
      (updateClassificationOverride router moment update tables).2 := by
  unfold updateClassificationOverride
  split
  · exact .refl
  · split
    · exact .refl
    · split
      · exact .refl
      · rename_i name named
        split
        · rename_i editing
          rw [correctionAnswer_tables]
          refine write_reaches fun saved saves => ?_
          rw [← Except.ok.inj saves]
          refine .editedSite named ?_
          simp only [editingSiteRule, Bool.and_eq_true] at editing
          exact editing.2
        · split
          · rw [correctionAnswer_tables]
            exact write_reaches fun saved saves => .editedApp named saves
          · rw [correctionAnswer_tables]
            have generalized : Reaches router moment dwells
                (.updateClassificationOverride update) tables
                (generalizeUpdate moment update name tables) :=
              attempt_total_reaches (.updatedApp named)
            exact generalized.trans (write_reaches fun saved saves => .updatedWindow named saves)

theorem normalizedAppStableId_eq_some {value key : String}
    (normalized : normalizedAppStableId value = some key) : key = value := by
  rw [normalizedAppStableId, Option.ite_none_right_eq_some] at normalized
  exact (Option.some.inj normalized.2).symm

theorem setApplicationCategory_reaches (teaching : CategoryTeaching) :
    Reaches router moment dwells (.setApplicationCategory teaching) tables
      (setApplicationCategory router moment teaching tables).2 := by
  unfold setApplicationCategory
  split
  · exact .refl
  · split
    · exact .refl
    · split
      · exact .refl
      · rename_i key normalized
        obtain rfl := normalizedAppStableId_eq_some normalized
        split
        · exact .refl
        · rename_i name named
          rw [correctionAnswer_tables]
          exact write_reaches fun saved saves => .taughtApp _ named saves

theorem setSiteCategory_reaches (teaching : CategoryTeaching) :
    Reaches router moment dwells (.setSiteCategory teaching) tables
      (setSiteCategory router moment teaching tables).2 := by
  unfold setSiteCategory
  split
  · exact .refl
  · split
    · exact .refl
    · split
      · exact .refl
      · rename_i key normalized
        obtain rfl := normalizedAppStableId_eq_some normalized
        split
        · exact .refl
        · rename_i name named
          rw [correctionAnswer_tables]
          refine write_reaches fun saved saves => ?_
          rw [← Except.ok.inj saves]
          exact .taughtSite named

theorem orRemove_reaches {request : Request} {call : StoreCall}
    {remove : Tables → Bool × Tables} {removed : Bool}
    (commits : Commits router moment dwells request tables (remove tables).2) :
    Reaches router moment dwells request tables (orRemove moment call remove removed tables).2 := by
  unfold orRemove
  split
  · exact .refl
  · exact attempt_total_reaches commits

theorem removeClassificationOverride_reaches (stableId : String) :
    Reaches router moment dwells (.removeClassificationOverride stableId) tables
      (removeClassificationOverride router moment stableId tables).2 := by
  unfold removeClassificationOverride
  split
  · exact .refl
  · rw [correctionAnswer_tables]
    refine andThen_reaches (andThen_reaches (orRemove_reaches .removedWindow) ?_) ?_
    · exact fun _ _ => orRemove_reaches .removedApp
    · exact fun _ _ => orRemove_reaches .removedSite

theorem resetClassificationOverrides_reaches :
    Reaches router moment dwells .resetClassificationOverrides tables
      (resetClassificationOverrides router moment tables).2 := by
  unfold resetClassificationOverrides
  split
  · exact .refl
  · rw [correctionAnswer_tables]
    refine write_reaches fun saved saves => ?_
    rw [← Except.ok.inj saves]
    exact .reset

end Corrections

theorem handle_reaches (router : Router) (service : Service) (call : Call) :
    Reaches router call.moment service.inProgressDwells call.request service.tables
      (handle router service call).2.tables := by
  obtain ⟨moment, request⟩ := call
  cases request with
  | rawEvent reported perception uploadEligible hasActiveBlock =>
    simp only [handle, handleRawEvent]
    split
    · exact observeDwellInProgress_reaches rfl
    · rename_i closed
      exact observeClosedDwell_reaches rfl (by simpa using closed)
  | correctEventClassification correction =>
    exact correctEventClassification_reaches correction
  | updateClassificationOverride update =>
    exact updateClassificationOverride_reaches update
  | setApplicationCategory teaching => exact setApplicationCategory_reaches teaching
  | setSiteCategory teaching => exact setSiteCategory_reaches teaching
  | removeClassificationOverride stableId =>
    exact removeClassificationOverride_reaches stableId
  | resetClassificationOverrides => exact resetClassificationOverrides_reaches
  | sweep pass => exact .single .swept
  | queueBatchEvents batchEvent => exact .single .requeued
  | restart => exact .refl

section Dwells

variable {router : Router} {moment : Moment} {event : RawEvent} {perception : Perception}
  {service : Service}

variable {dwell : UInt64 × AbstractedEvent}

theorem mem_remember {fingerprint : UInt64} {abstracted : AbstractedEvent}
    {dwells : List (UInt64 × AbstractedEvent)}
    (held : dwell ∈ remember fingerprint abstracted dwells) :
    dwell ∈ dwells ∨ dwell = (fingerprint, abstracted) := by
  rw [remember, mem_append, mem_singleton] at held
  rcases held with other | new
  · left
    split at other
    · exact mem_of_mem_filter (mem_of_mem_tail other)
    · exact mem_of_mem_filter other
  · exact .inr new

theorem observeDwellInProgress_dwells {hasActiveBlock : Bool}
    (reported : RawEvent) (cleared : event = clearDeclaredMetadataBeyondBounds reported)
    (held : dwell ∈ (observeDwellInProgress router moment event perception hasActiveBlock
      service).2.inProgressDwells) :
    dwell ∈ service.inProgressDwells ∨
      Abstracts router event (observeDwellInProgress router moment event perception
        hasActiveBlock service).2.tables dwell.2 := by
  have abstracts := (@process_spec router moment [] reported event perception false
    hasActiveBlock service.tables cleared).2
  unfold observeDwellInProgress at held ⊢
  split at held
  · exact .inl held
  · rename_i active
    rw [if_neg active]
    split at held
    · rename_i abstracted processed result
      rw [result] at abstracts
      rcases mem_remember held with before | rfl
      · exact .inl before
      · exact .inr (abstracts _ rfl)
    · exact .inl held

theorem observeClosedDwell_dwells {uploadEligible : Bool}
    (held : dwell ∈ (observeClosedDwell router moment event perception uploadEligible
      service).2.inProgressDwells) : dwell ∈ service.inProgressDwells := by
  unfold observeClosedDwell at held
  split at held
  · exact mem_of_mem_eraseP held
  · split at held <;> exact held

theorem handle_dwells (router : Router) (service : Service) (call : Call)
    (held : dwell ∈ (handle router service call).2.inProgressDwells) :
    dwell ∈ service.inProgressDwells ∨ ∃ reported perception uploadEligible hasActiveBlock,
        call.request = .rawEvent reported perception uploadEligible hasActiveBlock ∧
          Abstracts router (clearDeclaredMetadataBeyondBounds reported)
            (handle router service call).2.tables dwell.2 := by
  obtain ⟨moment, request⟩ := call
  cases request with
  | rawEvent reported perception uploadEligible hasActiveBlock =>
    simp only [handle, handleRawEvent] at held ⊢
    split at held
    · rename_i inProgress
      rw [if_pos inProgress]
      rcases observeDwellInProgress_dwells reported rfl held with before | abstracts
      · exact .inl before
      · exact .inr ⟨reported, perception, uploadEligible, hasActiveBlock, rfl, abstracts⟩
    · exact .inl (observeClosedDwell_dwells held)
  | restart => simp [handle] at held
  | _ => exact .inl held

end Dwells

theorem Reaches.preserves {router : Router} {moment : Moment}
    {dwells : List (UInt64 × AbstractedEvent)} {request : Request} {Inv : Tables → Prop}
    {tables after : Tables}
    (keeps : ∀ {before changed}, Commits router moment dwells request before changed →
      Inv before → Inv changed)
    (reaches : Reaches router moment dwells request tables after) (initial : Inv tables) :
    Inv after := by
  induction reaches with
  | refl => exact initial
  | tail _ commits ih => exact keeps commits ih

end Velvt.Rules
