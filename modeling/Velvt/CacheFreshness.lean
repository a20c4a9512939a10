import Velvt.CloudCache

/-!
# What the cache serves after an invalidation

A lookup after an invalidation finds a reply to an older request only if that reply was written into
the table after the invalidation.
-/

namespace Velvt.Cloud

open StepMachine TaskPrograms List

/-- What a task has found in the cache. -/
structure Findings where
  history : List (Fetched DailySummary)
  insights : List (Fetched (Option InsightPayload))

namespace Findings

def nothing : Findings where
  history := []
  insights := []

variable (state : Findings)

/-- A payload that the task has found, or one that it has fetched. -/
def KnowsDay (day : Fetched DailySummary) : Prop :=
  day ∈ state.history ∨ day.found = none

def KnowsInsight (insight : Fetched (Option InsightPayload)) : Prop :=
  insight ∈ state.insights ∨ insight.found = none

/-- A later state of the same task. -/
structure Extends (later earlier : Findings) : Prop where
  history : earlier.history ⊆ later.history
  insights : earlier.insights ⊆ later.insights

variable {state}

theorem Extends.refl : state.Extends state :=
  ⟨List.Subset.refl _, List.Subset.refl _⟩

theorem Extends.trans {later last : Findings} (second : last.Extends later)
    (first : later.Extends state) : last.Extends state :=
  ⟨List.Subset.trans first.history second.history, List.Subset.trans first.insights second.insights⟩

theorem KnowsDay.later {later : Findings} {day : Fetched DailySummary}
    (knows : state.KnowsDay day) (extends_ : later.Extends state) : later.KnowsDay day :=
  knows.imp (fun member => extends_.history member) id

theorem KnowsInsight.later {later : Findings} {insight : Fetched (Option InsightPayload)}
    (knows : state.KnowsInsight insight) (extends_ : later.Extends state) :
    later.KnowsInsight insight :=
  knows.imp (fun member => extends_.insights member) id

end Findings

def foundDay (date : Int) : Option (HistoryCacheEntry × Nat) → List (Fetched DailySummary)
  | some (entry, moment) =>
    entry.payload.toList.map fun summary =>
      { payload := summary, sentAt := entry.sentAt, found := some ⟨date, moment⟩ }
  | none => []

def foundInsight (date : Int) :
    Option (InsightCacheEntry × Nat) → List (Fetched (Option InsightPayload))
  | some (entry, moment) =>
    if entry.isNegative then
      [{ payload := none, sentAt := entry.sentAt, found := some ⟨date, moment⟩ }]
    else
      entry.payload.toList.map fun insight =>
        { payload := some insight, sentAt := entry.sentAt, found := some ⟨date, moment⟩ }
  | none => []

namespace FetchCall

variable {Answer : Type}

/-- A task answers with what it has found or fetched. -/
def Known (state : Findings) : FetchCall Answer → Prop
  | .answerHistory history => ∀ day ∈ history.summaries, state.KnowsDay day
  | .answerInsight insight => state.KnowsInsight insight
  | _ => True

def finds (state : Findings) : FetchCall Answer → Answer → Findings
  | .readHistoryCached date, found =>
    { state with history := state.history ++ foundDay date found }
  | .readInsightCached date, found =>
    { state with insights := state.insights ++ foundInsight date found }
  | _, _ => state

end FetchCall

def findings : Protocol FetchCall Findings where
  allowed state operation := operation.Known state
  possible _ _ := True
  track state operation answer := operation.finds state answer

section Tasks

variable {Answer : Type} {state : Findings}

/-- How a task ends that knows what it answers. -/
def EndsWith (known : Answer → Findings → Prop) (state : Findings) (result : Except FetchError Answer)
    (last : Findings) : Prop :=
  last.Extends state ∧ ∀ answer, result = .ok answer → known answer last

theorem outside_ends {operation : FetchCall Answer} (allowed : operation.Known state)
    (stays : ∀ answer, operation.finds state answer = state) :
    Follows findings (EndsWith (fun _ _ => True) state) (outside operation).run state := by
  refine ⟨allowed, fun answer _ => ?_⟩
  change EndsWith _ state _ (operation.finds state answer)
  rw [stays answer]
  exact ⟨.refl, fun _ _ => trivial⟩

theorem fallible_ends {operation : FetchCall (Except FetchError Answer)}
    (allowed : operation.Known state) (stays : ∀ answer, operation.finds state answer = state) :
    Follows findings (EndsWith (fun _ _ => True) state) (fallible operation).run state := by
  refine ⟨allowed, fun answer _ => ?_⟩
  change EndsWith _ state answer (operation.finds state answer)
  rw [stays answer]
  exact ⟨.refl, fun _ _ => trivial⟩

variable {known : Answer → Findings → Prop}

theorem pure_ends {value : Answer} (isKnown : known value state) :
    Follows findings (EndsWith known state) (pure value : FetchTask Answer).run state := by
  refine ⟨.refl, ?_⟩
  rintro answer ⟨⟩
  exact isKnown

theorem throw_ends {error : FetchError} :
    Follows findings (EndsWith known state) (throw error : FetchTask Answer).run state :=
  ⟨.refl, nofun⟩

theorem bind_ends {First : Type} {first : First → Findings → Prop}
    {program : FetchTask First} {next : First → FetchTask Answer}
    (begins : Follows findings (EndsWith first state) program.run state)
    (goesOn : ∀ value later, later.Extends state → first value later →
      Follows findings (EndsWith known later) (next value).run later) :
    Follows findings (EndsWith known state) (program >>= next).run state := by
  rw [follows_except_bind]
  refine begins.mono findings ?_
  rintro (error | value) later ⟨grows, knows⟩
  · exact ⟨grows, nofun⟩
  · refine (goesOn value later grows (knows value rfl)).mono findings ?_
    rintro result last ⟨growsOn, known⟩
    exact ⟨growsOn.trans grows, known⟩

theorem withLock_ends {lock unlock : FetchCall Unit}
    {section_ : FetchTask Answer} (locks : lock.Known state) (keeps : lock.finds state () = state)
    (unlocks : ∀ last, unlock.Known last ∧ unlock.finds last () = last)
    (ends : Follows findings (EndsWith known state) section_.run state) :
    Follows findings (EndsWith known state) (withLock lock unlock section_).run state := by
  refine ⟨locks, fun _ _ => ?_⟩
  change Follows findings _ (section_.run >>= fun result => _) (lock.finds state ())
  rw [keeps, follows_bind]
  refine ends.mono findings ?_
  intro result last isLast
  refine ⟨(unlocks last).1, fun _ _ => ?_⟩
  change EndsWith known state result (unlock.finds last ())
  rw [(unlocks last).2]
  exact isLast

end Tasks

section Reads

variable {config : FetchConfig} {state : Findings}

/-- The task knows the days. -/
def KnowsDays (days : List (Fetched DailySummary)) (state : Findings) : Prop :=
  ∀ day ∈ days, state.KnowsDay day

theorem readHistoryCached_ends (date : Int) : Follows findings
      (EndsWith (fun found later => foundDay date found ⊆ later.history) state)
      (outside (.readHistoryCached date)).run state := by
  refine ⟨trivial, fun found _ => ⟨⟨subset_append_left _ _, List.Subset.refl _⟩, ?_⟩⟩
  rintro answer ⟨⟩
  exact subset_append_right _ _

theorem allHistoryCached_ends (dates : List Int) : Follows findings
      (EndsWith (fun cached later => ∀ days ∈ cached, KnowsDays days later) state)
      (allHistoryCached dates).run state := by
  induction dates generalizing state with
  | nil =>
    refine pure_ends ?_
    rintro days ⟨⟩
    simp [KnowsDays]
  | cons date dates ih =>
    refine bind_ends (readHistoryCached_ends date) ?_
    intro found later _ isFound
    cases found with
    | none => exact pure_ends nofun
    | some row =>
      obtain ⟨entry, moment⟩ := row
      cases parsed : entry.payload with
      | none =>
        simp only [parsed]
        exact pure_ends nofun
      | some summary =>
        simp only [parsed]
        refine bind_ends ih ?_
        intro cached last grows knows
        refine pure_ends ?_
        intro days isDays
        obtain ⟨rest, isRest, rfl⟩ := Option.map_eq_some_iff.mp isDays
        intro day member
        rcases mem_cons.mp member with rfl | member
        · refine Or.inl (grows.history (isFound ?_))
          simp [foundDay, parsed]
        · exact knows rest isRest day member

theorem knowsDays_cloudHistory {days : List (Fetched DailySummary)} (knows : KnowsDays days state) :
    KnowsDays (cloudHistory days).summaries state := by
  intro day member
  exact knows day (by simpa [cloudHistory, mem_insertionSort] using member)

theorem fetchHistoryFromApi_ends :
    Follows findings (EndsWith KnowsDays state) fetchHistoryFromApi.run state := by
  refine bind_ends (outside_ends trivial fun _ => rfl) ?_
  intro sentAt sent _ _
  refine bind_ends (fallible_ends trivial fun _ => rfl) ?_
  intro response received _ _
  split
  · exact throw_ends
  · split
    · exact throw_ends
    · refine pure_ends ?_
      intro day member
      obtain ⟨summary, -, rfl⟩ := mem_map.mp member
      exact Or.inr rfl

theorem upsertEach_ends (expiresAt : Int) (days : List (Fetched DailySummary)) :
    Follows findings (EndsWith (fun _ _ => True) state) (upsertEach expiresAt days).run state := by
  induction days generalizing state with
  | nil => exact pure_ends trivial
  | cons day days ih =>
    refine bind_ends (fallible_ends trivial fun _ => rfl) ?_
    intro _ later _ _
    exact ih

theorem pushHistory_ends (history : HistoryPayload) :
    Follows findings (EndsWith (fun _ _ => True) state) (pushHistory config history).run state := by
  unfold pushHistory
  split
  · exact outside_ends trivial fun _ => rfl
  · exact pure_ends trivial

theorem pushInsight_ends (insight : InsightPayload) :
    Follows findings (EndsWith (fun _ _ => True) state) (pushInsight config insight).run state := by
  unfold pushInsight
  split
  · exact outside_ends trivial fun _ => rfl
  · exact pure_ends trivial

theorem fetchHistory_ends (days : Nat) (dates : List Int) :
    Follows findings (EndsWith (fun history => KnowsDays history.summaries) state)
      (fetchHistory config days dates).run state := by
  refine withLock_ends trivial rfl (fun _ => ⟨trivial, rfl⟩) ?_
  refine bind_ends (allHistoryCached_ends dates) ?_
  intro cached looked _ knows
  cases cached with
  | some summaries => exact pure_ends (knowsDays_cloudHistory (knows summaries rfl))
  | none =>
    refine bind_ends fetchHistoryFromApi_ends ?_
    intro summaries fetched _ isFetched
    refine bind_ends (outside_ends trivial fun _ => rfl) ?_
    intro now timed grows _
    refine bind_ends (upsertEach_ends _ _) ?_
    intro _ written growsOn _
    have known : KnowsDays (cloudHistory summaries).summaries written :=
      fun day member => ((knowsDays_cloudHistory isFetched day member).later grows).later growsOn
    refine bind_ends (pushHistory_ends _) ?_
    intro _ pushed growsLast _
    exact pure_ends fun day member => (known day member).later growsLast

theorem dailyHistory_ends (days : Nat) :
    Follows findings (EndsWith (fun history => KnowsDays history.summaries) state)
      (dailyHistory config days).run state := by
  refine bind_ends (outside_ends trivial fun _ => rfl) ?_
  intro now timed _ _
  refine bind_ends (allHistoryCached_ends _) ?_
  intro cached looked _ knows
  cases cached with
  | some summaries => exact pure_ends (knowsDays_cloudHistory (knows summaries rfl))
  | none => exact fetchHistory_ends _ _

theorem cachedDailyHistory_ends (days : Nat) : Follows findings
      (EndsWith (fun cached later => ∀ history ∈ cached, KnowsDays history.summaries later) state)
      (cachedDailyHistory days).run state := by
  refine bind_ends (outside_ends trivial fun _ => rfl) ?_
  intro now timed _ _
  refine bind_ends (allHistoryCached_ends _) ?_
  intro cached looked _ knows
  refine pure_ends ?_
  intro history isHistory
  obtain ⟨summaries, isCached, rfl⟩ := Option.map_eq_some_iff.mp isHistory
  exact knowsDays_cloudHistory (knows summaries isCached)

theorem insightCached_ends (date : Int) : Follows findings
      (EndsWith (fun cached later => ∀ insight ∈ cached, later.KnowsInsight insight) state)
      (insightCached date).run state := by
  have looks : Follows findings
      (EndsWith (fun found later => foundInsight date found ⊆ later.insights) state)
      (outside (.readInsightCached date)).run state := by
    refine ⟨trivial, fun found _ => ⟨⟨List.Subset.refl _, subset_append_left _ _⟩, ?_⟩⟩
    rintro answer ⟨⟩
    exact subset_append_right _ _
  refine bind_ends looks ?_
  intro found later _ isFound
  cases found with
  | none => exact pure_ends nofun
  | some row =>
    obtain ⟨entry, moment⟩ := row
    dsimp only
    split
    next negative =>
      refine pure_ends ?_
      rintro insight ⟨⟩
      exact Or.inl (isFound (by simp [foundInsight, negative]))
    next positive =>
      refine pure_ends ?_
      intro insight isInsight
      obtain ⟨payload, isPayload, rfl⟩ := Option.map_eq_some_iff.mp isInsight
      exact Or.inl (isFound (by simp [foundInsight, positive, isPayload]))

theorem fetchInsightFromApi_ends :
    Follows findings (EndsWith (fun insight later => later.KnowsInsight insight) state)
      fetchInsightFromApi.run state := by
  refine bind_ends (outside_ends trivial fun _ => rfl) ?_
  intro sentAt sent _ _
  refine bind_ends (fallible_ends trivial fun _ => rfl) ?_
  intro response received _ _
  split
  · split
    · exact throw_ends
    · exact pure_ends (Or.inr rfl)
  · split
    · exact pure_ends (Or.inr rfl)
    · exact throw_ends

theorem fetchInsight_ends (date : Int) :
    Follows findings (EndsWith (fun insight later => later.KnowsInsight insight) state)
      (fetchInsight config date).run state := by
  refine withLock_ends trivial rfl (fun _ => ⟨trivial, rfl⟩) ?_
  refine bind_ends (insightCached_ends date) ?_
  intro cached looked _ knows
  cases cached with
  | some insight => exact pure_ends (knows insight rfl)
  | none =>
    refine bind_ends (outside_ends trivial fun _ => rfl) ?_
    intro now timed _ _
    refine bind_ends fetchInsightFromApi_ends ?_
    intro insight fetched _ known
    split
    · refine bind_ends (fallible_ends trivial fun _ => rfl) ?_
      intro _ written grows _
      refine bind_ends (pushInsight_ends _) ?_
      intro _ pushed growsOn _
      exact pure_ends ((known.later grows).later growsOn)
    · refine bind_ends (fallible_ends trivial fun _ => rfl) ?_
      intro _ written grows _
      exact pure_ends (known.later grows)

theorem dailyInsight_ends (date : Int) :
    Follows findings (EndsWith (fun insight later => later.KnowsInsight insight) state)
      (dailyInsight config date).run state := by
  refine bind_ends (insightCached_ends date) ?_
  intro cached looked _ knows
  cases cached with
  | some insight => exact pure_ends (knows insight rfl)
  | none => exact fetchInsight_ends date

theorem readHistory_follows (days : Nat) :
    Follows findings (fun _ _ => True) (readHistory config days) state := by
  unfold readHistory
  rw [follows_bind]
  refine (dailyHistory_ends days).mono findings ?_
  rintro (error | history) last ⟨-, knows⟩
  · exact trivial
  · exact ⟨knows history rfl, fun _ _ => trivial⟩

theorem readCachedHistory_follows (days : Nat) :
    Follows findings (fun _ _ => True) (readCachedHistory days) state := by
  unfold readCachedHistory
  rw [follows_bind]
  refine (cachedDailyHistory_ends days).mono findings ?_
  rintro (error | _ | history) last ⟨-, knows⟩
  · exact trivial
  · exact trivial
  · exact ⟨knows (some history) rfl history rfl, fun _ _ => trivial⟩

theorem readInsight_follows (date : Int) :
    Follows findings (fun _ _ => True) (readInsight config date) state := by
  unfold readInsight
  rw [follows_bind]
  refine (dailyInsight_ends date).mono findings ?_
  rintro (error | insight) last ⟨-, knows⟩
  · exact trivial
  · exact ⟨knows insight rfl, fun _ _ => trivial⟩

theorem refreshAll_follows (days : Nat) :
    Follows findings (fun _ _ => True) (refreshAll config days) state := by
  unfold refreshAll
  rw [follows_bind]
  refine (dailyHistory_ends days).mono findings ?_
  intro _ later _
  refine ⟨trivial, fun now _ => ?_⟩
  change Follows findings _ ((dailyInsight config (utcDate now)).run >>= fun _ => _) later
  rw [follows_bind]
  exact (dailyInsight_ends _).mono findings fun _ _ _ => trivial

end Reads

section Freshness

variable {Payload : Type}

/-- No invalidation that covers the date came between a request and now. -/
def SentAfter (covers : InvalidationTarget → Bool) (invalidations : List Invalidation)
    (sentAt : Nat) : Prop :=
  ∀ invalidation ∈ invalidations, covers invalidation.target = true → ¬sentAt < invalidation.moment
  deriving Decidable

/-- No invalidation that covers the date came between the lookup and now. -/
def FoundAfter (covers : Int → InvalidationTarget → Bool) (invalidations : List Invalidation)
    (served : Fetched Payload) : Prop :=
  ∀ lookup ∈ served.found, ∀ invalidation ∈ invalidations,
    covers lookup.date invalidation.target = true → invalidation.moment < lookup.moment
  deriving Decidable

/-- A payload that was found in the cache was not fetched by a request that had left before an
invalidation of its date, if that was complete by some moment. -/
def ServedFresh (covers : Int → InvalidationTarget → Bool) (invalidations : List Invalidation)
    (byThen : Lookup → Nat) (served : Fetched Payload) : Prop :=
  ∀ lookup ∈ served.found, ∀ invalidation ∈ invalidations,
    covers lookup.date invalidation.target = true → invalidation.moment ≤ byThen lookup →
      ¬served.sentAt < invalidation.moment

/-- Every answer from the cache obeys the invalidations that were complete when it was given. -/
structure InvalidationsHold (shared : FetchShared) : Prop where
  history : ∀ given ∈ shared.historyAnswers, ∀ day ∈ given.answer.summaries,
    ServedFresh (fun date target => target.coversHistory date) shared.invalidations
      (fun _ => given.moment) day
  insights : ∀ given ∈ shared.insightAnswers,
    ServedFresh (fun date target => target.coversInsight date) shared.invalidations
      (fun _ => given.moment) given.answer

/-- A payload that was served fresh up to a moment in the past. -/
structure Settled (covers : Int → InvalidationTarget → Bool) (shared : FetchShared)
    (byThen : Lookup → Nat) (served : Fetched Payload) : Prop where
  fresh : ServedFresh covers shared.invalidations byThen served
  past : ∀ lookup ∈ served.found, byThen lookup ≤ shared.moment

/-- What the tasks have found is settled up to its lookup and what was answered up to the
answer, and the rows are younger than the invalidations of their dates. -/
structure Undisturbed (shared : FetchShared) (standings : List Findings) : Prop where
  rows : ∀ entry ∈ shared.history,
    SentAfter (fun target => target.coversHistory entry.date) shared.invalidations entry.sentAt
  insightRows : ∀ entry ∈ shared.insights,
    SentAfter (fun target => target.coversInsight entry.date) shared.invalidations entry.sentAt
  moments : ∀ invalidation ∈ shared.invalidations, invalidation.moment ≤ shared.moment
  days : ∀ state ∈ standings, ∀ day ∈ state.history,
    Settled (fun date target => target.coversHistory date) shared Lookup.moment day
  insights : ∀ state ∈ standings, ∀ insight ∈ state.insights,
    Settled (fun date target => target.coversInsight date) shared Lookup.moment insight
  historyAnswers : ∀ given ∈ shared.historyAnswers, ∀ day ∈ given.answer.summaries,
    Settled (fun date target => target.coversHistory date) shared (fun _ => given.moment) day
  insightAnswers : ∀ given ∈ shared.insightAnswers,
    Settled (fun date target => target.coversInsight date) shared (fun _ => given.moment)
      given.answer

/-- No invalidation of its date overtakes a reply between its request and its write, nor a
payload from the cache between its lookup and its answer. -/
def NothingOvertaken : CallCondition FetchCall FetchShared FetchInput
  | _, input, shared, .upsertHistory entry =>
    input.storeFails = false →
      SentAfter (fun target => target.coversHistory entry.date) shared.invalidations entry.sentAt
  | _, input, shared, .upsertInsight entry =>
    input.storeFails = false →
      SentAfter (fun target => target.coversInsight entry.date) shared.invalidations entry.sentAt
  | _, _, shared, .answerHistory history => ∀ day ∈ history.summaries,
    FoundAfter (fun date target => target.coversHistory date) shared.invalidations day
  | _, _, shared, .answerInsight insight =>
    FoundAfter (fun date target => target.coversInsight date) shared.invalidations insight
  | _, _, _, _ => True

instance (Answer : Type) (input : FetchInput) (shared : FetchShared)
    (operation : FetchCall Answer) : Decidable (NothingOvertaken Answer input shared operation) := by
  cases operation <;> dsimp only [NothingOvertaken] <;> infer_instance

variable {covers : Int → InvalidationTarget → Bool} {shared after : FetchShared}
  {standings : List Findings} {served : Fetched Payload} {input : FetchInput}
  {byThen : Lookup → Nat}

theorem Settled.of_fetched (fetched : served.found = none) :
    Settled covers shared byThen served := by
  constructor
  · intro lookup isLookup
    rw [fetched] at isLookup
    cases isLookup
  · intro lookup isLookup
    rw [fetched] at isLookup
    cases isLookup

theorem Settled.later (settled : Settled covers shared byThen served)
    (same : after.invalidations = shared.invalidations) (passed : shared.moment ≤ after.moment) :
    Settled covers after byThen served where
  fresh := by
    rw [ServedFresh, same]
    exact settled.fresh
  past := fun lookup isLookup => (settled.past lookup isLookup).trans passed

theorem Settled.of_lookup {payload : Payload} {sentAt : Nat} {date : Int}
    (sent : SentAfter (covers date) shared.invalidations sentAt)
    (same : after.invalidations = shared.invalidations) (passed : after.moment = shared.moment + 1) :
    Settled covers after Lookup.moment
      { payload := payload, sentAt := sentAt, found := some ⟨date, shared.moment + 1⟩ } where
  fresh := by
    rintro lookup ⟨⟩ invalidation member isCovered -
    rw [same] at member
    exact sent invalidation member isCovered
  past := by
    rintro lookup ⟨⟩
    exact passed.ge

/-- What is settled up to its lookup, and was not overtaken since, is settled up to now. -/
theorem Settled.answered (settled : Settled covers shared Lookup.moment served)
    (inTime : FoundAfter covers shared.invalidations served) :
    Settled covers shared (fun _ => shared.moment) served where
  fresh := by
    intro lookup isLookup invalidation member isCovered _
    have before := inTime lookup isLookup invalidation member isCovered
    exact settled.fresh lookup isLookup invalidation member isCovered before.le
  past := fun _ _ => Nat.le_refl _

theorem Settled.invalidated (settled : Settled covers shared byThen served)
    (target : InvalidationTarget) :
    Settled covers (shared.invalidate input target) byThen served := by
  unfold FetchShared.invalidate
  split
  · exact settled
  · constructor
    · intro lookup isLookup invalidation member isCovered before
      rcases mem_append.mp member with old | isNew
      · exact settled.fresh lookup isLookup invalidation old isCovered before
      · rw [mem_singleton.mp isNew] at before
        have past := settled.past lookup isLookup
        dsimp only at before
        omega
    · exact fun lookup isLookup => (settled.past lookup isLookup).trans (Nat.le_succ _)

/-- An invalidation drops the rows that it covers. -/
theorem Undisturbed.invalidate (undisturbed : Undisturbed shared standings)
    (target : InvalidationTarget) : Undisturbed (shared.invalidate input target) standings := by
  have answers : (shared.invalidate input target).historyAnswers = shared.historyAnswers ∧
      (shared.invalidate input target).insightAnswers = shared.insightAnswers := by
    unfold FetchShared.invalidate
    split <;> exact ⟨rfl, rfl⟩
  refine ⟨?_, ?_, ?_,
    fun state member day held => (undisturbed.days state member day held).invalidated target,
    fun state member insight held =>
      (undisturbed.insights state member insight held).invalidated target, ?_, ?_⟩
  · unfold FetchShared.invalidate
    split
    · exact undisturbed.rows
    · intro entry member invalidation isInvalidation isCovered
      obtain ⟨old, kept⟩ := mem_filter.mp member
      rcases mem_append.mp isInvalidation with before | isNew
      · exact undisturbed.rows entry old invalidation before isCovered
      · rw [mem_singleton.mp isNew] at isCovered
        simp [isCovered] at kept
  · unfold FetchShared.invalidate
    split
    · exact undisturbed.insightRows
    · intro entry member invalidation isInvalidation isCovered
      obtain ⟨old, kept⟩ := mem_filter.mp member
      rcases mem_append.mp isInvalidation with before | isNew
      · exact undisturbed.insightRows entry old invalidation before isCovered
      · rw [mem_singleton.mp isNew] at isCovered
        simp [isCovered] at kept
  · unfold FetchShared.invalidate
    split
    · exact undisturbed.moments
    · intro invalidation member
      rcases mem_append.mp member with before | isNew
      · exact (undisturbed.moments invalidation before).trans (Nat.le_succ _)
      · rw [mem_singleton.mp isNew]
  · rw [answers.1]
    exact fun given member day isDay =>
      (undisturbed.historyAnswers given member day isDay).invalidated target
  · rw [answers.2]
    exact fun given member => (undisturbed.insightAnswers given member).invalidated target

/-- What a call may change: rows and answers come in that are settled, a task finds what is. -/
structure Adds (shared after : FetchShared) (state next : Findings) : Prop where
  invalidations : after.invalidations = shared.invalidations
  passed : shared.moment ≤ after.moment
  rows : ∀ entry ∈ after.history, entry ∈ shared.history ∨
    SentAfter (fun target => target.coversHistory entry.date) shared.invalidations entry.sentAt
  insightRows : ∀ entry ∈ after.insights, entry ∈ shared.insights ∨
    SentAfter (fun target => target.coversInsight entry.date) shared.invalidations entry.sentAt
  days : ∀ day ∈ next.history, day ∈ state.history ∨
    Settled (fun date target => target.coversHistory date) after Lookup.moment day
  insights : ∀ insight ∈ next.insights, insight ∈ state.insights ∨
    Settled (fun date target => target.coversInsight date) after Lookup.moment insight
  historyAnswers : ∀ given ∈ after.historyAnswers, given ∈ shared.historyAnswers ∨
    ∀ day ∈ given.answer.summaries,
      Settled (fun date target => target.coversHistory date) after (fun _ => given.moment) day
  insightAnswers : ∀ given ∈ after.insightAnswers, given ∈ shared.insightAnswers ∨
    Settled (fun date target => target.coversInsight date) after (fun _ => given.moment)
      given.answer

variable {state : Findings}

theorem Adds.refl : Adds shared shared state state where
  invalidations := rfl
  passed := Nat.le_refl _
  rows := fun _ member => Or.inl member
  insightRows := fun _ member => Or.inl member
  days := fun _ member => Or.inl member
  insights := fun _ member => Or.inl member
  historyAnswers := fun _ member => Or.inl member
  insightAnswers := fun _ member => Or.inl member

section

variable (undisturbed : Undisturbed shared standings)

include undisturbed

theorem Undisturbed.step {index : Nat}
    {state next : Findings} (isState : standings[index]? = some state)
    (adds : Adds shared after state next) : Undisturbed after (standings.set index next) := by
  have known := mem_of_getElem? isState
  constructor
  · intro entry member
    rw [adds.invalidations]
    rcases adds.rows entry member with before | isNew
    · exact undisturbed.rows entry before
    · exact isNew
  · intro entry member
    rw [adds.invalidations]
    rcases adds.insightRows entry member with before | isNew
    · exact undisturbed.insightRows entry before
    · exact isNew
  · intro invalidation member
    rw [adds.invalidations] at member
    exact (undisturbed.moments invalidation member).trans adds.passed
  · intro other member found isFound
    rcases mem_or_eq_of_mem_set member with before | rfl
    · exact (undisturbed.days other before found isFound).later adds.invalidations adds.passed
    · rcases adds.days found isFound with before | isNew
      · exact (undisturbed.days state known found before).later adds.invalidations adds.passed
      · exact isNew
  · intro other member found isFound
    rcases mem_or_eq_of_mem_set member with before | rfl
    · exact (undisturbed.insights other before found isFound).later adds.invalidations adds.passed
    · rcases adds.insights found isFound with before | isNew
      · exact (undisturbed.insights state known found before).later adds.invalidations adds.passed
      · exact isNew
  · intro answer member
    rcases adds.historyAnswers answer member with before | isNew
    · exact fun found isFound =>
        (undisturbed.historyAnswers answer before found isFound).later adds.invalidations adds.passed
    · exact isNew
  · intro answer member
    rcases adds.insightAnswers answer member with before | isNew
    · exact (undisturbed.insightAnswers answer before).later adds.invalidations adds.passed
    · exact isNew

theorem Undisturbed.knowsDay
    (member : state ∈ standings) {day : Fetched DailySummary} (knows : state.KnowsDay day) :
    Settled (fun date target => target.coversHistory date) shared Lookup.moment day := by
  rcases knows with found | fetched
  · exact undisturbed.days state member day found
  · exact .of_fetched fetched

theorem Undisturbed.knowsInsight
    (member : state ∈ standings) {insight : Fetched (Option InsightPayload)}
    (knows : state.KnowsInsight insight) :
    Settled (fun date target => target.coversInsight date) shared Lookup.moment insight := by
  rcases knows with found | fetched
  · exact undisturbed.insights state member insight found
  · exact .of_fetched fetched

theorem foundDay_settled {date : Int} {wanted : HistoryCacheEntry → Bool}
    (keyed : ∀ entry, wanted entry = true → entry.date = date) {day : Fetched DailySummary}
    (isFound : day ∈ foundDay date
      ((shared.history.find? wanted).map fun entry => (entry, shared.moment + 1)))
    (same : after.invalidations = shared.invalidations) (passed : after.moment = shared.moment + 1) :
    Settled (fun date target => target.coversHistory date) after Lookup.moment day := by
  cases looked : shared.history.find? wanted with
  | none => simp [looked, foundDay] at isFound
  | some entry =>
    simp only [looked, Option.map_some, foundDay, mem_map] at isFound
    obtain ⟨summary, -, rfl⟩ := isFound
    have sent := undisturbed.rows entry (mem_of_find?_eq_some looked)
    rw [keyed entry (List.find?_some looked)] at sent
    exact .of_lookup sent same passed

theorem foundInsight_settled {date : Int}
    {wanted : InsightCacheEntry → Bool} (keyed : ∀ entry, wanted entry = true → entry.date = date)
    {insight : Fetched (Option InsightPayload)} (isFound : insight ∈ foundInsight date
      ((shared.insights.find? wanted).map fun entry => (entry, shared.moment + 1)))
    (same : after.invalidations = shared.invalidations) (passed : after.moment = shared.moment + 1) :
    Settled (fun date target => target.coversInsight date) after Lookup.moment insight := by
  cases looked : shared.insights.find? wanted with
  | none => simp [looked, foundInsight] at isFound
  | some entry =>
    have sent := undisturbed.insightRows entry (mem_of_find?_eq_some looked)
    rw [keyed entry (List.find?_some looked)] at sent
    simp only [looked, Option.map_some, foundInsight] at isFound
    split at isFound
    · rw [mem_singleton.mp isFound]
      exact .of_lookup sent same passed
    · obtain ⟨payload, -, rfl⟩ := mem_map.mp isFound
      exact .of_lookup sent same passed

end

theorem performFetch_upholds : Upholds performFetch findings NothingOvertaken Undisturbed := by
  intro Answer input shared standings index state operation answer after undisturbed isState
    known fresh handled
  refine ⟨trivial, undisturbed.step isState ?_⟩
  have held := mem_of_getElem? isState
  cases operation with
  | utcNow | receiveHistory | receiveInsight | pushHistory _ | pushInsight _ =>
    cases handled
    exact .refl
  | readHistoryCached date =>
    obtain ⟨rfl, rfl⟩ := Prod.mk.inj (Option.some.inj handled)
    refine ⟨rfl, Nat.le_succ _, fun _ member => Or.inl member, fun _ member => Or.inl member, ?_,
      fun _ member => Or.inl member, fun _ member => Or.inl member,
      fun _ member => Or.inl member⟩
    intro day member
    refine (mem_append.mp member).imp id fun isFound => ?_
    split at isFound
    · cases isFound
    · refine foundDay_settled undisturbed ?_ isFound rfl rfl
      intro entry matched
      simpa using (Bool.and_eq_true_iff.mp matched).1
  | readInsightCached date =>
    obtain ⟨rfl, rfl⟩ := Prod.mk.inj (Option.some.inj handled)
    refine ⟨rfl, Nat.le_succ _, fun _ member => Or.inl member, fun _ member => Or.inl member,
      fun _ member => Or.inl member, ?_, fun _ member => Or.inl member,
      fun _ member => Or.inl member⟩
    intro insight member
    refine (mem_append.mp member).imp id fun isFound => ?_
    split at isFound
    · cases isFound
    · refine foundInsight_settled undisturbed ?_ isFound rfl rfl
      intro entry matched
      simpa using (Bool.and_eq_true_iff.mp matched).1
  | lockHistory days =>
    simp only [performFetch] at handled
    split at handled
    · cases handled
    · cases handled
      exact { Adds.refl with }
  | lockInsight date =>
    simp only [performFetch] at handled
    split at handled
    · cases handled
    · cases handled
      exact { Adds.refl with }
  | unlockHistory days =>
    cases handled
    exact { Adds.refl with }
  | unlockInsight date =>
    cases handled
    exact { Adds.refl with }
  | send =>
    cases handled
    exact { Adds.refl with passed := Nat.le_succ _ }
  | upsertHistory entry =>
    simp only [performFetch, FetchShared.command] at handled
    split at handled
    · cases handled
      exact .refl
    next stored =>
      cases handled
      refine { Adds.refl with rows := ?_ }
      intro row member
      rcases mem_cons.mp member with rfl | before
      · exact Or.inr (fresh (by simpa using stored))
      · exact Or.inl (mem_of_mem_filter before)
  | upsertInsight entry =>
    simp only [performFetch, FetchShared.command] at handled
    split at handled
    · cases handled
      exact .refl
    next stored =>
      cases handled
      refine { Adds.refl with insightRows := ?_ }
      intro row member
      rcases mem_cons.mp member with rfl | before
      · exact Or.inr (fresh (by simpa using stored))
      · exact Or.inl (mem_of_mem_filter before)
  | answerHistory history =>
    cases handled
    refine { Adds.refl with historyAnswers := ?_ }
    intro answer member
    refine (mem_append.mp member).imp id fun isNew => ?_
    rw [mem_singleton.mp isNew]
    intro day isDay
    have settled := undisturbed.knowsDay held (known day isDay)
    exact (settled.answered (fresh day isDay)).later rfl (Nat.le_refl _)
  | answerInsight insight =>
    cases handled
    refine { Adds.refl with insightAnswers := ?_ }
    intro answer member
    refine (mem_append.mp member).imp id fun isNew => ?_
    rw [mem_singleton.mp isNew]
    exact ((undisturbed.knowsInsight held known).answered fresh).later rfl (Nat.le_refl _)

end Freshness

section Runs

variable {config : FetchConfig}

/-- The service whose tasks know what they answer, with a settled cache. -/
abbrev Steady (world : FetchWorld) : Prop :=
  World.Sound findings .nothing (fun _ => True) Undisturbed world

theorem opened_steady (history : List HistoryCacheEntry) (insights : List InsightCacheEntry) :
    Steady (FetchWorld.opened history insights) := by
  refine .initial ?_
  constructor <;> simp [SentAfter]

theorem Undisturbed.enters (shared : FetchShared) (standings : List Findings)
    (undisturbed : Undisturbed shared standings) :
    Undisturbed shared (standings ++ [.nothing]) := by
  refine { undisturbed with days := ?_, insights := ?_ }
  · exact forall_mem_concat undisturbed.days (by simp [Findings.nothing])
  · exact forall_mem_concat undisturbed.insights (by simp [Findings.nothing])

/-- The step of an operation: where a task advances, nothing is overtaken. -/
def StaysFresh (world : FetchWorld) (operation : FetchOperation × FetchInput) : Prop :=
  match operation with
  | (.advance task, input) => World.Admits NothingOvertaken world task input
  | _ => True

instance (world : FetchWorld) : ∀ operation, Decidable (StaysFresh world operation)
  | (operation, input) => by cases operation <;> dsimp only [StaysFresh] <;> infer_instance

theorem Steady.next {world : FetchWorld} (steady : Steady world)
    (operation : FetchOperation × FetchInput) (fresh : StaysFresh world operation) :
    Steady ((fetchMachine config).next world operation) := by
  obtain ⟨operation, input⟩ := operation
  cases operation with
  | dailyHistory days => exact steady.spawn (readHistory_follows days) Undisturbed.enters
  | cachedDailyHistory days => exact steady.spawn (readCachedHistory_follows days) Undisturbed.enters
  | dailyInsight date => exact steady.spawn (readInsight_follows date) Undisturbed.enters
  | refreshAll days => exact steady.spawn (refreshAll_follows days) Undisturbed.enters
  | advance task => exact steady.advance performFetch_upholds fresh
  | invalidate target => exact steady.disturb (steady.holds.invalidate target)

/-- In every run that never writes a reply to a request older than an invalidation of its date,
and in which no such invalidation comes between a lookup and its answer, nothing that is
answered from the cache after an invalidation was fetched by a request from before it. -/
theorem cache_serves_invalidated_dates_fresh (config : FetchConfig)
    (history : List HistoryCacheEntry) (insights : List InsightCacheEntry)
    (operations : List (FetchOperation × FetchInput))
    (fresh : (fetchMachine config).Meets StaysFresh (FetchWorld.opened history insights)
      operations) :
    InvalidationsHold
      ((fetchMachine config).run (FetchWorld.opened history insights) operations).shared := by
  have steady : Steady ((fetchMachine config).run (FetchWorld.opened history insights) operations) :=
    (fetchMachine config).invariant_run (fun world operation holds admitted =>
      holds.next operation admitted) (opened_steady history insights) fresh
  have undisturbed := steady.holds
  constructor
  · exact fun answer member day isDay => (undisturbed.historyAnswers answer member day isDay).fresh
  · exact fun answer member => (undisturbed.insightAnswers answer member).fresh

def plainConfig : FetchConfig where
  historyTtl := 3600
  insightTtl := 3600
  insightNegativeTtl := 600
  hasPushAdapter := false

def insightReply (text : String) : FetchInput where
  now := 0
  lookupFails := false
  storeFails := false
  historyReply := .error .http
  insightReply := .ok { status := 200, body := some { date := 0, text := text } }

/-- The insights are invalidated between two reads that nothing else overlaps. -/
def renewedSteps : List FetchOperation :=
  [.dailyInsight 0] ++ List.replicate 9 (.advance 0) ++ [.invalidate .insightAll, .dailyInsight 0] ++
    List.replicate 9 (.advance 1) ++ [.dailyInsight 0] ++ List.replicate 2 (.advance 2)

def renewedRun : List (FetchOperation × FetchInput) :=
  renewedSteps.map fun operation => (operation, insightReply "new")

/-- After an invalidation the insight is fetched again, and then read from the cache. -/
theorem renewed_reads_are_fresh :
    (fetchMachine plainConfig).Meets StaysFresh (FetchWorld.opened [] []) renewedRun ∧
      InvalidationsHold
        ((fetchMachine plainConfig).run (FetchWorld.opened [] []) renewedRun).shared := by
  have fresh : (fetchMachine plainConfig).Meets StaysFresh (FetchWorld.opened [] []) renewedRun := by
    decide +kernel
  exact ⟨fresh, cache_serves_invalidated_dates_fresh plainConfig [] [] renewedRun fresh⟩

/-- A request leaves before the insights are invalidated, and its reply arrives after. -/
def overtakenSteps : List FetchOperation :=
  [.dailyInsight 0] ++ List.replicate 5 (.advance 0) ++ [.invalidate .insightAll] ++
    List.replicate 4 (.advance 0) ++ [.dailyInsight 0] ++ List.replicate 2 (.advance 1)

def overtakenWorld : FetchWorld :=
  (fetchMachine plainConfig).run (FetchWorld.opened [] [])
    (overtakenSteps.map fun operation => (operation, insightReply "old"))

/-- The read after the invalidation finds the row that the older reply has left. -/
theorem overtaken_reply_is_served : ¬InvalidationsHold overtakenWorld.shared := by
  intro hold
  have facts : overtakenWorld.shared.insightAnswers =
      [⟨{ payload := some ⟨0, "old"⟩, sentAt := 3, found := none }, 4⟩,
        ⟨{ payload := some ⟨0, "old"⟩, sentAt := 3, found := some ⟨0, 5⟩ }, 5⟩] ∧
      overtakenWorld.shared.invalidations = [⟨.insightAll, 4⟩] := by
    decide +kernel
  have served := hold.insights
    ⟨{ payload := some ⟨0, "old"⟩, sentAt := 3, found := some ⟨0, 5⟩ }, 5⟩
    (by rw [facts.1]; decide)
  rw [facts.2] at served
  exact served ⟨0, 5⟩ rfl ⟨.insightAll, 4⟩ (by decide) rfl (by decide) (by decide)

end Runs

end Velvt.Cloud
