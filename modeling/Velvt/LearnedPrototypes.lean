import Velvt.RefusedCorrections

/-!
# What corrections teach

A correction also teaches the classifier: the sketch of the window becomes a prototype of the
category, where a sketch is cached.
-/

namespace Velvt.Rules

open List TableRows

namespace Tables

theorem prototypeBefore_trans {first second third : SemanticPrototype}
    (before : prototypeBefore first second = true) (after : prototypeBefore second third = true) :
    prototypeBefore first third = true := by
  simp only [prototypeBefore, Bool.or_eq_true, Bool.and_eq_true, decide_eq_true_eq,
    beq_iff_eq] at before after ⊢
  rcases before with more | ⟨sameCount, later | ⟨sameInstant, key⟩⟩ <;>
    rcases after with moreThen | ⟨sameCountThen, laterThen | ⟨sameInstantThen, keyThen⟩⟩
  · exact .inl (moreThen.trans more)
  · exact .inl (sameCountThen ▸ more)
  · exact .inl (sameCountThen ▸ more)
  · exact .inl (sameCount ▸ moreThen)
  · exact .inr ⟨sameCount.trans sameCountThen, .inl (laterThen.trans later)⟩
  · exact .inr ⟨sameCount.trans sameCountThen, .inl (sameInstantThen ▸ later)⟩
  · exact .inl (sameCount ▸ moreThen)
  · exact .inr ⟨sameCount.trans sameCountThen, .inl (sameInstant ▸ laterThen)⟩
  · exact .inr ⟨sameCount.trans sameCountThen,
      .inr ⟨sameInstant.trans sameInstantThen, lt_trans key keyThen⟩⟩

theorem prototypeBefore_total {first second : SemanticPrototype}
    (apart : first.keyHash ≠ second.keyHash) :
    prototypeBefore first second = true ∨ prototypeBefore second first = true := by
  simp only [prototypeBefore, Bool.or_eq_true, Bool.and_eq_true, decide_eq_true_eq, beq_iff_eq]
  rcases lt_trichotomy first.correctionCount second.correctionCount with fewer | same | more
  · exact .inr (.inl fewer)
  · rcases lt_trichotomy first.updatedAt second.updatedAt with older | sameInstant | newer
    · exact .inr (.inr ⟨same.symm, .inl older⟩)
    · rcases lt_or_gt_of_ne apart with key | key
      · exact .inl (.inr ⟨same, .inr ⟨sameInstant, key⟩⟩)
      · exact .inr (.inr ⟨same.symm, .inr ⟨sameInstant.symm, key⟩⟩)
    · exact .inl (.inr ⟨same, .inl newer⟩)
  · exact .inl (.inl more)

theorem countP_keepFirst_prototypes_le {prototypes : List SemanticPrototype}
    (distinct : (prototypes.map (·.keyHash)).Nodup) (selected : SemanticPrototype → Bool)
    (limit : Nat) :
    (TableRows.keepFirst selected prototypeBefore limit prototypes).countP selected ≤ limit := by
  refine countP_keepFirst_le (.of_map _ distinct)
    (fun _ _ _ before after => prototypeBefore_trans before after) ?_
  intro first firstMem second secondMem
  by_cases same : first.keyHash = second.keyHash
  · exact .inl (inj_on_of_nodup_map distinct firstMem secondMem same)
  · exact .inr (prototypeBefore_total same)

end Tables

section Limits

/-- Each window has one prototype at most, a category twelve, and the store sixty-four. -/
structure Limited (prototypes : List SemanticPrototype) : Prop where
  distinct : (prototypes.map (·.keyHash)).Nodup
  perCategory : ∀ category, prototypes.countP (fun row => row.category == category) ≤ 12
  total : prototypes.length ≤ 64

theorem Limited.sublist {fewer prototypes : List SemanticPrototype} (limited : Limited prototypes)
    (sub : fewer.Sublist prototypes) : Limited fewer where
  distinct := limited.distinct.sublist (sub.map _)
  perCategory category := sub.countP_le.trans (limited.perCategory category)
  total := sub.length_le.trans limited.total

theorem Tables.learnPrototype_spec (tables : Tables)
    (limited : Limited tables.personalSemanticPrototype) (keyHash category : String) (now : Int) :
    ((tables.learnPrototype keyHash category now).map (·.keyHash)).Nodup ∧
      ∀ other, other ≠ category →
        (tables.learnPrototype keyHash category now).countP (fun row => row.category == other) ≤
          12 := by
  unfold learnPrototype
  split
  · rename_i cached found
    refine ⟨nodup_map_key_upsert (fun _ _ => rfl) limited.distinct, fun other apart => ?_⟩
    refine le_trans ?_ (limited.perCategory other)
    by_cases present : ∃ row ∈ tables.personalSemanticPrototype, row.keyHash = keyHash
    · rw [upsert_of_present present, countP_map]
      refine countP_mono_left fun row _ counted => ?_
      rw [Function.comp_apply] at counted
      split at counted
      · exact absurd (beq_iff_eq.mp counted).symm apart
      · exact counted
    · have absent : ∀ row ∈ tables.personalSemanticPrototype, row.keyHash ≠ keyHash := by
        intro row member same
        exact present ⟨row, member, same⟩
      rw [upsert_of_absent absent, countP_append]
      simp [apart.symm]
  · exact ⟨limited.distinct, fun other _ => limited.perCategory other⟩

theorem Tables.trimPrototypes_limited {category : String} {learned : List SemanticPrototype}
    (distinct : (learned.map (·.keyHash)).Nodup) (others : ∀ other, other ≠ category →
      learned.countP (fun row => row.category == other) ≤ 12) :
    Limited (trimPrototypes category learned) := by
  have narrowed : (TableRows.keepFirst (fun row => row.category == category) prototypeBefore 12
      learned).Sublist learned := keepFirst_sublist
  have narrowedKeys := distinct.sublist (narrowed.map (·.keyHash))
  refine ⟨distinct.sublist ((trimPrototypes_sublist category learned).map _), ?_, ?_⟩
  · intro other
    by_cases same : other = category
    · subst same
      exact keepFirst_sublist.countP_le.trans (countP_keepFirst_prototypes_le distinct _ 12)
    · exact (trimPrototypes_sublist category learned).countP_le.trans (others other same)
  · have few := countP_keepFirst_prototypes_le narrowedKeys (fun _ => true) 64
    rwa [countP_eq_length_filter, filter_true] at few

theorem Limited.savePersonalOverride {tables saved : Tables}
    (limited : Limited tables.personalSemanticPrototype) {stableId category : String}
    {name : Option String} {now : Int}
    (saves : tables.savePersonalOverride stableId category name now = .ok saved) :
    Limited saved.personalSemanticPrototype := by
  obtain ⟨mapping, -, rfl⟩ := tables.savePersonalOverride_eq_ok saves
  obtain ⟨distinct, others⟩ := tables.learnPrototype_spec limited mapping.keyHash category now
  exact Tables.trimPrototypes_limited distinct others

variable {router : Router} {moment : Moment} {dwells : List (UInt64 × AbstractedEvent)}
  {request : Request} {tables changed : Tables}

/-- No request takes the prototypes over their limits. -/
theorem Commits.limited (commits : Commits router moment dwells request tables changed)
    (limited : Limited tables.personalSemanticPrototype) :
    Limited changed.personalSemanticPrototype := by
  cases commits with
  | mapped _ _ upserted =>
    obtain ⟨-, rfl⟩ := tables.upsertMapping_eq_ok upserted
    exact limited
  | inserted _ _ _ stored =>
    obtain rfl := tables.insertRawEvent_eq_ok stored
    exact limited
  | named host closed =>
    rename_i event _ _ _
    rcases tables.recordLocalSiteName_spec event.eventId host moment.now with
      unchanged | ⟨_, _, _, _, _, _, _, recorded⟩
    · rwa [unchanged]
    · rw [recorded]
      exact limited
  | correctedApp =>
    unfold Tables.savePersonalAppOverride Tables.saveRung
    split <;> exact limited
  | updatedApp =>
    unfold Tables.savePersonalAppOverrideByStableId Tables.saveRung
    split <;> exact limited
  | correctedWindow _ saves | updatedWindow _ saves => exact limited.savePersonalOverride saves
  | editedSite =>
    unfold Tables.editSiteScopeOverride
    split <;> exact limited
  | editedApp _ saves | taughtApp _ _ saves =>
    obtain rfl := tables.saveAppScopeOverride_eq_ok saves
    exact limited
  | removedWindow => exact limited.sublist filter_sublist
  | reset => exact limited.sublist (nil_sublist _)
  | swept =>
    unfold sweep
    split
    · exact limited
    · split <;> exact limited
  | _ => exact limited

end Limits

section Agreement

/-- Every prototype belongs to a rule of its window, which says the same category. -/
structure Follows (tables : Tables) : Prop where
  ruled : ∀ row ∈ tables.personalSemanticPrototype,
    ∃ rule ∈ tables.personalOverride, rule.keyHash = row.keyHash
  agrees : ∀ row ∈ tables.personalSemanticPrototype, ∀ rule ∈ tables.personalOverride,
    rule.keyHash = row.keyHash → rule.category = row.category

/-- A window that is taught a category has a sketch to learn it with, or has taught no other
one. -/
def Relearns (tables : Tables) (stableId category : String) : Prop :=
  ∀ mapping, tables.mappingOfStableId stableId = some mapping →
    (∃ cached ∈ tables.semanticEmbeddingCache, cached.keyHash = mapping.keyHash) ∨
      ∀ row ∈ tables.personalSemanticPrototype, row.keyHash = mapping.keyHash →
        row.category = category

/-- The request teaches no window a category that its prototype cannot follow. -/
def TeachesAlong (router : Router) (service : Service) (call : Call) : Prop :=
  match call.request with
  | .correctEventClassification correction =>
    (overrideLabelForCategory correction.category).isSome = true →
    (router.hasAbstractionMap && router.hasUploadBatches && router.hasCorrectionHttp) = true →
    (∃ name, normalizedLocalActivityName correction.localActivityName = .ok name) →
    call.moment.fails .savePersonalOverride = false →
      Relearns service.tables correction.stableId correction.category
  | .updateClassificationOverride update =>
    (overrideLabelForCategory update.category).isSome = true →
    router.hasAbstractionMap = true →
    (∃ name, normalizedLocalActivityName update.localActivityName = .ok name) →
    editingSiteRule call.moment update.stableId service.tables = false →
    editingAppRule call.moment update.stableId service.tables = false →
    call.moment.fails .savePersonalOverride = false →
      Relearns service.tables update.stableId update.category
  | _ => True

variable {router : Router} {moment : Moment} {dwells : List (UInt64 × AbstractedEvent)}
  {request : Request} {tables changed : Tables}

theorem Follows.of_eq (follows : Follows tables)
    (windows : changed.personalOverride = tables.personalOverride)
    (prototypes : changed.personalSemanticPrototype = tables.personalSemanticPrototype) :
    Follows changed where
  ruled := by
    rw [windows, prototypes]
    exact follows.ruled
  agrees := by
    rw [windows, prototypes]
    exact follows.agrees

theorem Tables.mem_learnPrototype {keyHash category : String} {now : Int}
    {row : SemanticPrototype} (member : row ∈ tables.learnPrototype keyHash category now) :
    row.keyHash = keyHash ∧ row.category = category ∨ row ∈ tables.personalSemanticPrototype ∧
        (row.keyHash = keyHash →
          ∀ cached ∈ tables.semanticEmbeddingCache, cached.keyHash ≠ keyHash) := by
  unfold learnPrototype at member
  split at member
  · rcases mem_upsert.mp member with ⟨old, apart⟩ | ⟨old, -, atKey, rfl⟩ | ⟨-, rfl⟩
    · exact .inr ⟨old, fun same => absurd same apart⟩
    · exact .inl ⟨atKey, rfl⟩
    · exact .inl ⟨rfl, rfl⟩
  · rename_i uncached
    refine .inr ⟨member, fun _ cached held => ?_⟩
    simpa using List.find?_eq_none.mp uncached cached held

theorem Follows.savePersonalOverride (follows : Follows tables) {stableId category : String}
    {name : Option String} {now : Int} {saved : Tables}
    (relearns : Relearns tables stableId category)
    (saves : tables.savePersonalOverride stableId category name now = .ok saved) :
    Follows saved := by
  obtain ⟨mapping, found, rfl⟩ := tables.savePersonalOverride_eq_ok saves
  -- a prototype that stays is of the window taught, or was there
  have kept : ∀ row ∈ Tables.trimPrototypes category
      (tables.learnPrototype mapping.keyHash category now),
      row.keyHash = mapping.keyHash ∧ row.category = category ∨
        row.keyHash ≠ mapping.keyHash ∧ row ∈ tables.personalSemanticPrototype := by
    intro row member
    rcases Tables.mem_learnPrototype ((Tables.trimPrototypes_sublist category _).subset member) with
      learned | ⟨before, uncached⟩
    · exact .inl learned
    · by_cases same : row.keyHash = mapping.keyHash
      · rcases relearns mapping found with ⟨cached, held, atKey⟩ | taught
        · exact absurd atKey (uncached same cached held)
        · exact .inl ⟨same, taught row before same⟩
      · exact .inr ⟨same, before⟩
  constructor
  · intro row member
    have present : row.keyHash ∈ tables.personalOverride.map (·.keyHash) ∨
        row.keyHash = mapping.keyHash := by
      rcases kept row member with ⟨same, -⟩ | ⟨-, before⟩
      · exact .inr same
      · obtain ⟨rule, held, atKey⟩ := follows.ruled row before
        exact .inl (mem_map.mpr ⟨rule, held, atKey⟩)
    refine mem_map.mp ((mem_map_key_upsert fun _ _ => ?_).mpr present)
    rfl
  · intro row member rule held atKey
    rcases mem_upsert.mp held with ⟨old, apart⟩ | ⟨old, -, ofWindow, rfl⟩ | ⟨-, rfl⟩
    · rcases kept row member with ⟨same, -⟩ | ⟨-, before⟩
      · exact absurd (atKey.trans same) apart
      · exact follows.agrees row before rule old atKey
    · rcases kept row member with ⟨-, same⟩ | ⟨other, -⟩
      · exact same.symm
      · exact absurd (atKey.symm.trans ofWindow) other
    · rcases kept row member with ⟨-, same⟩ | ⟨other, -⟩
      · exact same.symm
      · exact absurd atKey.symm other

theorem Commits.follows (commits : Commits router moment dwells request tables changed)
    (noCorrection : ∀ correction, request ≠ .correctEventClassification correction)
    (noUpdate : ∀ update, request ≠ .updateClassificationOverride update)
    (follows : Follows tables) : Follows changed := by
  cases commits with
  | mapped _ _ upserted =>
    obtain ⟨-, rfl⟩ := tables.upsertMapping_eq_ok upserted
    exact follows.of_eq rfl rfl
  | inserted _ _ _ stored =>
    obtain rfl := tables.insertRawEvent_eq_ok stored
    exact follows.of_eq rfl rfl
  | named host closed =>
    rename_i event _ _ _
    rcases tables.recordLocalSiteName_spec event.eventId host moment.now with
      unchanged | ⟨_, _, _, _, _, _, _, recorded⟩
    · rwa [unchanged]
    · rw [recorded]
      exact follows.of_eq rfl rfl
  | correctedApp | correctedWindow | correctedEvent | correctedBatch =>
    exact absurd rfl (noCorrection _)
  | updatedApp | updatedWindow | editedSite | editedApp => exact absurd rfl (noUpdate _)
  | taughtApp _ _ saves =>
    obtain rfl := tables.saveAppScopeOverride_eq_ok saves
    exact follows.of_eq rfl rfl
  | removedWindow =>
    rename_i stableId
    constructor
    · intro row member
      obtain ⟨before, apart⟩ := mem_filter.mp member
      obtain ⟨rule, held, same⟩ := follows.ruled row before
      exact ⟨rule, mem_filter.mpr ⟨held, by rwa [same]⟩, same⟩
    · intro row member rule held
      exact follows.agrees row (mem_of_mem_filter member) rule (mem_of_mem_filter held)
  | reset => exact ⟨by simp [Tables.resetPersonalOverrides, Tables.clearDisplayNames],
      by simp [Tables.resetPersonalOverrides, Tables.clearDisplayNames]⟩
  | swept =>
    unfold sweep
    split
    · exact follows
    · split <;> exact follows.of_eq rfl rfl
  | _ => exact follows.of_eq rfl rfl

theorem generalizeCorrection_eq (moment : Moment) (correction : EventCorrection)
    (name : Option String) (tables : Tables) :
    ∃ apps, generalizeCorrection moment correction name tables =
      { tables with personalAppOverride := apps } := by
  unfold generalizeCorrection attempt Tables.savePersonalAppOverride Tables.saveRung
  split
  · exact ⟨tables.personalAppOverride, rfl⟩
  · dsimp only
    split <;> exact ⟨_, rfl⟩

theorem generalizeUpdate_eq (moment : Moment) (update : OverrideUpdate)
    (name : Option String) (tables : Tables) :
    ∃ apps, generalizeUpdate moment update name tables =
      { tables with personalAppOverride := apps } := by
  unfold generalizeUpdate attempt Tables.savePersonalAppOverrideByStableId Tables.saveRung
  split
  · exact ⟨tables.personalAppOverride, rfl⟩
  · dsimp only
    split <;> exact ⟨_, rfl⟩

variable {service : Service}

theorem correctEventClassification_follows {correction : EventCorrection}
    (follows : Follows service.tables) (along : TeachesAlong router service
      { moment := moment, request := .correctEventClassification correction }) :
    Follows (correctEventClassification router moment correction service.tables).2 := by
  unfold correctEventClassification
  cases labelled : overrideLabelForCategory correction.category with
  | none => exact follows
  | some label =>
    cases available : router.hasAbstractionMap && router.hasUploadBatches &&
        router.hasCorrectionHttp with
    | false => exact follows
    | true =>
      cases named : normalizedLocalActivityName correction.localActivityName with
      | error unnamed => exact follows
      | ok name =>
        simp only [Bool.not_true, Bool.false_eq_true, if_false, correctionAnswer_tables]
        obtain ⟨apps, generalized⟩ :=
          generalizeCorrection_eq moment correction name service.tables
        have moved : Follows { service.tables with personalAppOverride := apps } :=
          follows.of_eq rfl rfl
        rw [generalized, saveCorrection_eq]
        split
        · exact moved
        · rename_i windowWritten
          have relearns : Relearns { service.tables with personalAppOverride := apps }
              correction.stableId correction.category :=
            along (by rw [labelled]; rfl) available ⟨name, named⟩ (by simpa using windowWritten)
          split
          · exact moved
          · rename_i saved saves
            have taught := moved.savePersonalOverride relearns saves
            split
            · exact taught
            · dsimp only
              split <;> exact taught.of_eq rfl rfl

/-- An update that teaches along keeps prototypes and rules together. -/
theorem updateClassificationOverride_follows {update : OverrideUpdate}
    (follows : Follows service.tables) (along : TeachesAlong router service
      { moment := moment, request := .updateClassificationOverride update }) :
    Follows (updateClassificationOverride router moment update service.tables).2 := by
  unfold updateClassificationOverride
  cases labelled : overrideLabelForCategory update.category with
  | none => exact follows
  | some label =>
    cases available : router.hasAbstractionMap with
    | false => exact follows
    | true =>
      cases named : normalizedLocalActivityName update.localActivityName with
      | error unnamed => exact follows
      | ok name =>
        simp only [Option.isNone_some, Bool.not_true, Bool.false_eq_true, if_false]
        cases site : editingSiteRule moment update.stableId service.tables with
        | true =>
          simp only [if_true, correctionAnswer_tables]
          refine attempt_preserves follows fun _ changed changes => ?_
          rw [← Except.ok.inj (write_eq_ok.mp changes)]
          unfold Tables.editSiteScopeOverride
          split <;> exact follows.of_eq rfl rfl
        | false =>
          cases app : editingAppRule moment update.stableId service.tables with
          | true =>
            simp only [Bool.false_eq_true, if_false, if_true, correctionAnswer_tables]
            refine attempt_preserves follows fun _ changed changes => ?_
            obtain rfl :=
              Tables.saveAppScopeOverride_eq_ok _ (write_eq_ok.mp changes)
            exact follows.of_eq rfl rfl
          | false =>
            simp only [Bool.false_eq_true, if_false, correctionAnswer_tables]
            obtain ⟨apps, generalized⟩ :=
              generalizeUpdate_eq moment update name service.tables
            have moved : Follows { service.tables with personalAppOverride := apps } :=
              follows.of_eq rfl rfl
            rw [generalized]
            cases fails : moment.fails .savePersonalOverride with
            | true => exact moved
            | false =>
              refine attempt_preserves moved fun _ changed changes => ?_
              exact moved.savePersonalOverride
                (along (by rw [labelled]; rfl) available ⟨name, named⟩ site app fails)
                (write_eq_ok.mp changes)

theorem Follows.handle {call : Call} (follows : Follows service.tables)
    (along : TeachesAlong router service call) :
    Follows (router.machine.next service call).tables := by
  obtain ⟨moment, request⟩ := call
  cases request with
  | correctEventClassification correction => exact correctEventClassification_follows follows along
  | updateClassificationOverride update => exact updateClassificationOverride_follows follows along
  | _ =>
    refine (handle_reaches router service _).preserves (fun commits held =>
      commits.follows ?_ ?_ held) follows <;>
    · intro other same
      cases same

end Agreement

/-- The limits hold after every run, and where no window is taught a category without a sketch to
learn it with, every prototype follows the rule of its window. -/
theorem prototypes_follow_rules (router : Router) (calls : List Call) :
    Limited (router.machine.run Service.started calls).tables.personalSemanticPrototype ∧
      (router.machine.Meets (TeachesAlong router) Service.started calls →
        Follows (router.machine.run Service.started calls).tables) := by
  have limited : ∀ (service : Service) (call : Call),
      Limited service.tables.personalSemanticPrototype →
        Limited (router.machine.next service call).tables.personalSemanticPrototype := by
    intro service call held
    exact @Reaches.preserves router _ _ _ (fun tables => Limited tables.personalSemanticPrototype)
      _ _ (fun commits before => commits.limited before) (handle_reaches router service call) held
  have follows : ∀ (service : Service) (call : Call), Follows service.tables →
      TeachesAlong router service call → Follows (router.machine.next service call).tables :=
    fun service call held along => held.handle along
  constructor
  · refine router.machine.invariant_run_of_forall limited calls ⟨?_, ?_, ?_⟩ <;>
      simp [Service.started, Tables.empty]
  · intro along
    refine router.machine.invariant_run follows ?_ along
    constructor <;> simp [Service.started, Tables.empty]

def sketchedEditor : Call :=
  match editorWindow "event" "plan" "one" with
  | .rawEvent event perception uploadEligible hasActiveBlock =>
    (Request.rawEvent event
      { perception with embedding := some { bytes := [1], dimensions := 1 } } uploadEligible
      hasActiveBlock).at 0
  | request => request.at 0

def teachesEditor (category : String) (now : Int) : Call :=
  (Request.correctEventClassification
    { eventId := "event"
      stableId := "abs_one"
      category := category
      localActivityName := none }).at now

/-- The first correction of a window teaches one prototype. -/
theorem prototypes_follow_rules_taught :
    Limited (workingRouter.machine.run Service.started
        [sketchedEditor, teachesEditor "FOCUS_WORK" 1]).tables.personalSemanticPrototype ∧
      Follows (workingRouter.machine.run Service.started
        [sketchedEditor, teachesEditor "FOCUS_WORK" 1]).tables := by
  have rules := prototypes_follow_rules workingRouter
    [sketchedEditor, teachesEditor "FOCUS_WORK" 1]
  refine ⟨rules.1, rules.2 ⟨trivial, ⟨?_, trivial⟩⟩⟩
  have untaught : (workingRouter.machine.next Service.started
      sketchedEditor).tables.personalSemanticPrototype = [] := by
    decide +kernel
  intro _ _ _ _ mapping _
  refine .inr fun row member => ?_
  rw [untaught] at member
  cases member

/-- The window is taught, its sketch ages out, and it is taught another category. -/
def staleSketch : List Call :=
  [sketchedEditor, teachesEditor "FOCUS_WORK" 1,
    (Request.sweep
      { target := .semanticEmbeddingCache
        cutoff := Duration.days 2
        batchSize := 100
        picked := (workingRouter.machine.next Service.started
          sketchedEditor).tables.semanticEmbeddingCache.map (·.keyHash) }).at (Duration.days 16),
    teachesEditor "REFERENCE" (Duration.days 16)]

/-- The prototype still teaches the category that the user has taken back. -/
theorem prototype_outlives_category :
    ¬ ∀ (router : Router) (calls : List Call),
      Follows (router.machine.run Service.started calls).tables := by
  intro follows
  exact absurd (follows workingRouter staleSketch).agrees (by decide +kernel)

end Velvt.Rules
