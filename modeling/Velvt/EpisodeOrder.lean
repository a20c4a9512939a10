import Velvt.DayShifts

/-!
# The order of the episodes

An analysis sorts its episodes, and the key of the order need not tell two episodes apart.
-/

namespace Velvt.Antecedents

open List

variable {floats : Floats} {attempts : Nat} {episodes other first second : List Episode}
  {config : MinerConfig} {candidate : Candidate} {null : Prop} {rng : Rng}

def Episode.seen (episode : Episode) : Int × Int × Bool × List Presence :=
  (episode.dayIndex, episode.onsetAt, episode.outcome,
    registry.map fun candidate => candidate.presence episode.features)

/-- Two windows with the same episodes in order, of which the same is seen at every position if
the null is computed. -/
structure SameWindow (null : Prop) (first second : List Episode) : Prop where
  sorted : first.Pairwise Before
  sortedToo : second.Pairwise Before
  perm : first.Perm second
  seen : null → first.map Episode.seen = second.map Episode.seen

theorem presence_of_seen {one two : Episode} (same : one.seen = two.seen)
    (registered : candidate ∈ registry) :
    candidate.presence one.features = candidate.presence two.features := by
  have presences : registry.map (fun candidate => candidate.presence one.features) =
      registry.map fun candidate => candidate.presence two.features :=
    congrArg (fun seen => seen.2.2.2) same
  exact map_inj_left.mp presences candidate registered

theorem map_congr {α : Type*} {view : Episode → α}
    (ofSeen : ∀ one two : Episode, one.seen = two.seen → view one = view two)
    (same : first.map Episode.seen = second.map Episode.seen) :
    first.map view = second.map view := by
  induction first generalizing second with
  | nil =>
    obtain rfl := map_eq_nil_iff.mp same.symm
    rfl
  | cons one first ih =>
    cases second with
    | nil => exact absurd same (by simp)
    | cons two second =>
      rw [map_cons, map_cons, List.cons.injEq] at same
      rw [map_cons, map_cons, ofSeen one two same.1, ih same.2]

theorem dayStartsFrom_congr {current : Option Int} {index : Nat}
    (same : first.map Episode.dayIndex = second.map Episode.dayIndex) :
    dayStartsFrom current index first = dayStartsFrom current index second := by
  induction first generalizing second current index with
  | nil =>
    obtain rfl := map_eq_nil_iff.mp same.symm
    rfl
  | cons one first ih =>
    cases second with
    | nil => exact absurd same (by simp)
    | cons two second =>
      rw [map_cons, map_cons, List.cons.injEq] at same
      rw [dayStartsFrom, dayStartsFrom, same.1, ih same.2, ih same.2]

theorem armIndices_eq (ordered : List Episode) (want : Presence) :
    armIndices candidate ordered want =
      (((ordered.map fun episode => candidate.presence episode.features).zipIdx.filter
        fun entry => entry.1 = want).map fun entry => entry.2 % 2 ^ 32) := by
  rw [armIndices, zipIdx_map, filter_map, map_map]
  rfl

theorem armIndices_congr (registered : candidate ∈ registry) (want : Presence)
    (same : first.map Episode.seen = second.map Episode.seen) :
    armIndices candidate first want = armIndices candidate second want := by
  rw [armIndices_eq, armIndices_eq,
    map_congr (fun _ _ seen => presence_of_seen seen registered) same]

theorem outcomes_congr (same : first.map Episode.seen = second.map Episode.seen) :
    first.map Episode.outcome = second.map Episode.outcome :=
  map_congr (fun _ _ seen => congrArg (fun seen => seen.2.2.1) seen) same

theorem dayStartIndices_congr (same : first.map Episode.seen = second.map Episode.seen) :
    dayStartIndices first = dayStartIndices second :=
  dayStartsFrom_congr (map_congr (fun _ _ seen => congrArg Prod.fst seen) same)

theorem distinctDays_congr (same : SameWindow null first second) :
    distinctDays first = distinctDays second := by
  obtain ⟨increasing, days⟩ :=
    @distinctDaysFrom_sorted first none same.sorted fun _ isNone => absurd isNone (by simp)
  obtain ⟨increasingToo, daysToo⟩ :=
    @distinctDaysFrom_sorted second none same.sortedToo fun _ isNone => absurd isNone (by simp)
  have nodup := increasing.imp fun less => less.ne
  have nodupToo := increasingToo.imp fun less => less.ne
  have perm : (distinctDays first).Perm (distinctDays second) := by
    apply (perm_ext_iff_of_nodup nodup nodupToo).mpr
    intro day
    rw [days, daysToo, (same.perm.map Episode.dayIndex).mem_iff]
  exact perm.eq_of_pairwise (fun _ _ _ _ less more => absurd more less.asymm) increasing
    increasingToo

theorem SameWindow.dayStarts (same : SameWindow null first second) :
    dayStartIndices first = dayStartIndices second := by
  have days : ∀ {window : List Episode}, window.Pairwise Before →
      (window.map Episode.dayIndex).Pairwise (· ≤ ·) := by
    intro window sorted
    exact pairwise_map.mpr (sorted.imp fun before => by unfold Before at before; omega)
  exact dayStartsFrom_congr ((same.perm.map _).eq_of_pairwise (fun _ _ _ _ => le_antisymm)
    (days same.sorted) (days same.sortedToo))

theorem countEpisode_comm (counts : Arm × Arm × Nat) (one two : Episode) :
    countEpisode candidate (countEpisode candidate counts one) two =
      countEpisode candidate (countEpisode candidate counts two) one := by
  unfold countEpisode
  cases candidate.presence one.features <;> cases candidate.presence two.features <;>
    simp only [Arm.count, Nat.add_right_comm]

theorem estimate_perm (perm : first.Perm second) :
    estimate candidate first = estimate candidate second := by
  rw [estimate, estimate, perm.foldl_eq' fun one _ two _ counts => countEpisode_comm counts one two]

section Stages

variable {shifts : List Nat}

theorem mineCandidate_congr (registered : candidate ∈ registry) (same : SameWindow null first second)
    (needed : config.controls.permutationNull = true →
      isTestable config (estimate candidate first) = true → null) :
    mineCandidate floats first shifts config candidate =
      mineCandidate floats second shifts config candidate := by
  rw [mineCandidate, mineCandidate, ← estimate_perm same.perm]
  by_cases tested : isTestable config (estimate candidate first) = true
  · by_cases nullOn : config.controls.permutationNull = true
    · have seen := same.seen (needed nullOn tested)
      rw [armIndices_congr registered .present seen, armIndices_congr registered .absent seen,
        outcomes_congr seen]
    · simp only [if_neg nullOn]
  · simp [tested]

theorem permutationTest_congr (registered : candidate ∈ registry) {permutations : Nat}
    (seen : first.map Episode.seen = second.map Episode.seen) :
    permutationTest floats candidate first permutations rng =
      permutationTest floats candidate second permutations rng := by
  rw [permutationTest, permutationTest, armIndices_congr registered .present seen,
    armIndices_congr registered .absent seen, outcomes_congr seen, dayStartIndices_congr seen]

theorem inOrder_eq (sorted : first.Pairwise Before) : inOrder first = first :=
  sorted.insertionSort_eq

theorem mine_congr (same : SameWindow null first second)
    (needed : config.controls.permutationNull = true →
      (∃ candidate ∈ registry, isTestable config (estimate candidate first) = true) → null) :
    mine floats attempts first config = mine floats attempts second config := by
  have results : ∀ shifts, registry.map (mineCandidate floats first shifts config) =
      registry.map (mineCandidate floats second shifts config) := by
    intro shifts
    exact map_congr_left fun candidate registered => mineCandidate_congr registered same
      fun nullOn tested => needed nullOn ⟨candidate, registered, tested⟩
  rw [mine, mine, inOrder_eq same.sorted, inOrder_eq same.sortedToo, same.perm.length_eq,
    distinctDays_congr same]
  dsimp only
  rw [same.dayStarts, results]

theorem mine_few (same : SameWindow null first second)
    (few : first.length < 2 * max config.minSupport 1 ∨ config.controls.permutationNull = true ∧
        (distinctDays first).length < config.minDaysForPermutation) :
    mine floats attempts first config = mine floats attempts second config := by
  rw [mine, mine, inOrder_eq same.sorted, inOrder_eq same.sortedToo, same.perm.length_eq,
    distinctDays_congr same]
  rw [same.perm.length_eq, distinctDays_congr same] at few
  dsimp only
  by_cases short : second.length < 2 * max config.minSupport 1
  · rw [if_pos short, if_pos short]
  · rw [if_neg short, if_neg short, if_pos (few.resolve_left short),
      if_pos (few.resolve_left short)]

theorem confirm_congr {discovery : CandidateResult} (registered : discovery.candidate ∈ registry)
    (same : SameWindow null first second) (needed : config.controls.permutationNull = true → null) :
    confirm floats attempts first config discovery rng =
      confirm floats attempts second config discovery rng := by
  rw [confirm, confirm, estimate_perm same.perm, distinctDays_congr same]
  by_cases nullOn : config.controls.permutationNull = true
  · simp only [permutationTest_congr registered (same.seen (needed nullOn))]
  · simp only [if_neg nullOn]

theorem findings_congr {heldOut heldOutToo : Option (List Episode)}
    {discoveries : List CandidateResult}
    (needed : ∀ discovery ∈ discoveries, discovery.candidate ∈ registry ∧
      (config.controls.permutationNull = true → null))
    (same : Option.Rel (SameWindow null) heldOut heldOutToo) :
    findings floats attempts heldOut config discoveries rng =
      findings floats attempts heldOutToo config discoveries rng := by
  induction discoveries generalizing rng with
  | nil => rfl
  | cons discovery later ih =>
    obtain ⟨⟨first, nullOn⟩, others⟩ := forall_mem_cons.mp needed
    cases same with
    | none => rfl
    | some window =>
      unfold findings
      simp only [confirm_congr first window nullOn, ih others]

end Stages

section Registered

variable {count : Nat} {results : Fin count → CandidateResult} {tested : List (Fin count)}
  {View : Type*} {view : CandidateResult → View}

theorem foldl_view {Entry : Type*} {entries : List Entry}
    {step : (Fin count → CandidateResult) → Entry → Fin count → CandidateResult}
    (keeps : ∀ results entry index, view (step results entry index) = view (results index))
    (index : Fin count) : view (entries.foldl step results index) = view (results index) := by
  induction entries generalizing results with
  | nil => rfl
  | cons entry entries ih => rw [foldl_cons, ih, keeps]

theorem update_view {result : CandidateResult} {index : Fin count}
    (keeps : view result = view (results index)) (other : Fin count) :
    view (Function.update results index result other) = view (results other) := by
  by_cases same : other = index
  · rw [same, Function.update_self, keeps]
  · rw [Function.update_of_ne same]

theorem stepQValue_view (keepsQ : ∀ result q, view { result with qValue := q } = view result)
    {family : ℚ} {entries : List ((Fin count × ℚ) × Nat)}
    {state : ℚ × (Fin count → CandidateResult)} (index : Fin count) :
    view ((entries.foldl (fun state entry => stepQValue family entry state) state).2 index) =
      view (state.2 index) := by
  induction entries generalizing state with
  | nil => rfl
  | cons entry entries ih =>
    rw [foldl_cons, ih]
    change view (Function.update state.2 entry.1.1 _ index) = _
    exact update_view (keepsQ _ _) index

/-- The correction writes q-values and verdicts, and leaves the rest of each result. -/
theorem applyFdr_view (view : CandidateResult → View)
    (keepsQ : ∀ result q, view { result with qValue := q } = view result)
    (keepsFdr : ∀ result passed, view { result with passedFdr := passed } = view result)
    (index : Fin count) : view (applyFdr results tested config index) = view (results index) := by
  rw [applyFdr]
  split
  · rfl
  · dsimp only
    have valued := @stepQValue_view count _ view keepsQ (max config.familySize tested.length : Nat)
      (ranked results tested).zipIdx.reverse (1, results) index
    split
    · cases largestPosition config.fdrQ (max config.familySize tested.length : Nat)
          (ranked results tested) with
      | none => exact valued
      | some cut =>
        refine (foldl_view ?_ index).trans valued
        exact fun _ _ other => update_view (keepsFdr _ _) other
    · refine (foldl_view ?_ index).trans valued
      exact fun _ _ other => update_view (keepsFdr _ _) other

def CandidateResult.withoutInterval (result : CandidateResult) : CandidateResult :=
  { result with credibleInterval := none }

theorem attachIntervals_withoutInterval {results after : List CandidateResult}
    (attached : attachIntervals floats attempts config results rng = some after) :
    after.map (·.withoutInterval) = results.map (·.withoutInterval) := by
  induction results generalizing rng after with
  | nil =>
    obtain rfl := Option.some.inj attached
    rfl
  | cons result results ih =>
    rw [attachIntervals] at attached
    split at attached
    · simp only [Option.bind_eq_bind, Option.bind_eq_some_iff, Option.pure_def,
        Option.some.injEq] at attached
      obtain ⟨interval, -, later, attachedLater, rfl⟩ := attached
      rw [map_cons, map_cons, ih attachedLater]
      rfl
    · simp only [Option.bind_eq_bind, Option.bind_eq_some_iff, Option.pure_def,
        Option.some.injEq] at attached
      obtain ⟨later, attachedLater, rfl⟩ := attached
      rw [map_cons, map_cons, ih attachedLater]

theorem mineCandidate_candidate {ordered : List Episode} {shifts : List Nat} :
    (mineCandidate floats ordered shifts config candidate).candidate = candidate ∧
      (mineCandidate floats ordered shifts config candidate).passedSupport =
        isTestable config (estimate candidate ordered) := by
  rw [mineCandidate]
  dsimp only
  split
  · exact ⟨rfl, rfl⟩
  · split
    · exact ⟨rfl, rfl⟩
    · exact ⟨rfl, rfl⟩

/-- Where mining gives a report, there are enough episodes and days, and the results are the
corrected ones of the registry up to their intervals. -/
theorem mine_eq_ok {report : MiningReport}
    (mined : mine floats attempts episodes config = some (.ok report)) :
    2 * max config.minSupport 1 ≤ (inOrder episodes).length ∧
      (config.controls.permutationNull = true →
        config.minDaysForPermutation ≤ (distinctDays (inOrder episodes)).length) ∧
      ∃ shifts results, results = registry.map (mineCandidate floats (inOrder episodes) shifts config) ∧
        report.results.map (·.withoutInterval) =
          (ofFn (applyFdr results.get (testedIndices results) config)).map (·.withoutInterval) := by
  rw [mine] at mined
  dsimp only at mined
  split at mined
  · exact absurd (Option.some.inj mined) (by simp)
  · rename_i long
    split at mined
    · exact absurd (Option.some.inj mined) (by simp)
    · rename_i many
      simp only [Option.bind_eq_bind, Option.bind_eq_some_iff, Option.pure_def,
        Option.some.injEq, Except.ok.injEq] at mined
      obtain ⟨results, attached, rfl⟩ := mined
      exact ⟨Nat.le_of_not_lt long, fun nullOn => Nat.le_of_not_lt fun few => many ⟨nullOn, few⟩,
        _, _, rfl, attachIntervals_withoutInterval attached⟩

/-- Every result is that of a registered antecedent, and says whether it is tested. -/
theorem mine_registered {report : MiningReport}
    (mined : mine floats attempts episodes config = some (.ok report)) :
    ∀ result ∈ report.results, result.candidate ∈ registry ∧
      result.passedSupport = isTestable config (estimate result.candidate (inOrder episodes)) := by
  obtain ⟨-, -, shifts, _, rfl, same⟩ := mine_eq_ok mined
  intro result member
  obtain ⟨corrected, isCorrected, alike⟩ := mem_map.mp (same ▸ mem_map_of_mem member)
  obtain ⟨index, rfl⟩ := mem_ofFn.mp isCorrected
  have named := congrArg CandidateResult.candidate alike
  have supported := congrArg CandidateResult.passedSupport alike
  dsimp only [CandidateResult.withoutInterval] at named supported
  rw [applyFdr_view CandidateResult.candidate (fun _ _ => rfl) fun _ _ => rfl] at named
  rw [applyFdr_view CandidateResult.passedSupport (fun _ _ => rfl) fun _ _ => rfl] at supported
  obtain ⟨candidate, registered, isResult⟩ := mem_map.mp (get_mem _ index)
  rw [← isResult, mineCandidate_candidate.1] at named
  rw [← isResult, mineCandidate_candidate.2] at supported
  exact named ▸ ⟨registered, supported.symm⟩

end Registered

section Analyses

variable {report : MiningReport}

/-- Two episodes of one day and onset have the same outcome, and are the same to every registered
antecedent. -/
def TiesAlike (episodes : List Episode) : Prop :=
  ∀ one ∈ episodes, ∀ two ∈ episodes, one.dayIndex = two.dayIndex → one.onsetAt = two.onsetAt →
    one.outcome = two.outcome ∧ ∀ candidate ∈ registry,
      candidate.presence one.features = candidate.presence two.features

/-- The window has the episodes and the days that the permutation null needs, and an antecedent
to test with it. -/
def EnoughForNull (window : List Episode) (config : MinerConfig) : Prop :=
  2 * max config.minSupport 1 ≤ window.length ∧
    config.minDaysForPermutation ≤ (distinctDays window).length ∧
    ∃ candidate ∈ registry, isTestable config (estimate candidate window) = true

/-- The permutation null is on, the single look is due, and there is a window with enough
episodes and days, in which some antecedent is tested. -/
def ReachesNull (episodes : List Episode) (config : MinerConfig) : Prop :=
  config.controls.permutationNull = true ∧
    (∀ required ∈ config.singleLookAtEpisodes, required ≤ episodes.length) ∧
    ∃ windows, split (inOrder episodes) config = some windows ∧
      EnoughForNull windows.discovery config

def SeenBefore (one two : Int × Int × Bool × List Presence) : Prop :=
  one.1 < two.1 ∨ one.1 = two.1 ∧ one.2.1 ≤ two.2.1

theorem TiesAlike.seen (alike : TiesAlike episodes) (perm : episodes.Perm other) :
    (inOrder episodes).map Episode.seen = (inOrder other).map Episode.seen := by
  have sorted : ∀ episodes, ((inOrder episodes).map Episode.seen).Pairwise SeenBefore :=
    fun episodes => pairwise_map.mpr (inOrder_sorted episodes)
  have samePerm := (((inOrder_perm episodes).trans perm).trans (inOrder_perm other).symm).map
    Episode.seen
  apply samePerm.eq_of_pairwise _ (sorted episodes) (sorted other)
  intro seen seenToo isSeen isSeenToo before after
  obtain ⟨one, isOne, rfl⟩ := mem_map.mp isSeen
  obtain ⟨two, isTwo, rfl⟩ := mem_map.mp isSeenToo
  have tied : one.dayIndex = two.dayIndex ∧ one.onsetAt = two.onsetAt := by
    unfold SeenBefore Episode.seen at before after
    dsimp only at before after
    omega
  have isTwoToo := perm.mem_iff.mpr ((inOrder_perm other).mem_iff.mp isTwo)
  obtain ⟨outcome, presences⟩ :=
    alike one ((inOrder_perm episodes).mem_iff.mp isOne) two isTwoToo tied.1 tied.2
  rw [Episode.seen, Episode.seen, tied.1, tied.2, outcome, map_congr_left presences]

theorem SameWindow.inOrder (perm : episodes.Perm other) (alike : null → TiesAlike episodes) :
    SameWindow null (inOrder episodes) (inOrder other) where
  sorted := inOrder_sorted episodes
  sortedToo := inOrder_sorted other
  perm := ((inOrder_perm episodes).trans perm).trans (inOrder_perm other).symm
  seen holds := (alike holds).seen perm

theorem SameWindow.filter (same : SameWindow null first second) (keep : Int → Bool) :
    SameWindow null (first.filter fun episode => keep episode.dayIndex)
      (second.filter fun episode => keep episode.dayIndex) where
  sorted := same.sorted.filter _
  sortedToo := same.sortedToo.filter _
  perm := same.perm.filter _
  seen holds := by
    have kept : ∀ window : List Episode,
        (window.filter fun episode => keep episode.dayIndex).map Episode.seen =
          (window.map Episode.seen).filter fun seen => keep seen.1 := by
      intro window
      rw [filter_map]
      rfl
    rw [kept, kept, same.seen holds]

/-- Two splits into the same windows. -/
structure SameSplit (null : Prop) (one two : Windows) : Prop where
  discovery : SameWindow null one.discovery two.discovery
  confirmation : Option.Rel (SameWindow null) one.confirmation two.confirmation
  discoveryDays : one.discoveryDays = two.discoveryDays
  confirmationDays : one.confirmationDays = two.confirmationDays

theorem split_congr (same : SameWindow null first second) :
    Option.Rel (SameSplit null) (split first config) (split second config) := by
  rw [split, split, ← distinctDays_congr same]
  dsimp only
  split
  · split
    · exact Option.Rel.none
    · apply Option.Rel.some
      exact ⟨same.filter fun day => decide (day < _),
        Option.Rel.some (same.filter fun day => decide (_ ≤ day)), rfl, rfl⟩
  · exact Option.Rel.some ⟨same, Option.Rel.none, rfl, rfl⟩

theorem mine_same (same : SameWindow null first second)
    (needed : config.controls.permutationNull = true → EnoughForNull first config → null) :
    mine floats attempts first config = mine floats attempts second config := by
  by_cases short : first.length < 2 * max config.minSupport 1
  · exact mine_few same (Or.inl short)
  · by_cases few : config.controls.permutationNull = true ∧
        (distinctDays first).length < config.minDaysForPermutation
    · exact mine_few same (Or.inr few)
    · apply mine_congr same
      intro nullOn tested
      have many := Nat.le_of_not_lt fun less => few ⟨nullOn, less⟩
      exact needed nullOn ⟨Nat.le_of_not_lt short, many, tested⟩

theorem enough_of_mine (sorted : first.Pairwise Before)
    (nullOn : config.controls.permutationNull = true)
    (mined : mine floats attempts first config = some (.ok report)) {discovery : CandidateResult}
    (member : discovery ∈ report.results) (found : discovery.isDiscovery = true) :
    EnoughForNull first config := by
  obtain ⟨long, many, -⟩ := mine_eq_ok mined
  obtain ⟨registered, supported⟩ := mine_registered mined discovery member
  rw [CandidateResult.isDiscovery, Bool.and_eq_true, Bool.and_eq_true] at found
  rw [inOrder_eq sorted] at long many supported
  exact ⟨long, many nullOn, discovery.candidate, registered, supported ▸ found.1.1⟩

/-- Where ties are alike, the report does not depend on the order of the episodes. -/
theorem analyse_perm (perm : episodes.Perm other)
    (alike : ReachesNull episodes config → TiesAlike episodes) :
    analyse floats attempts episodes config = analyse floats attempts other config := by
  have same := SameWindow.inOrder perm alike
  have splits := @split_congr _ _ config _ same
  rw [analyse, analyse, distinctDays_congr same, same.perm.length_eq]
  dsimp only
  cases look : config.singleLookAtEpisodes.filter ((inOrder other).length < ·) with
  | some required => rfl
  | none =>
    dsimp only
    cases isSplit : split (inOrder episodes) config with
    | none =>
      rw [isSplit] at splits
      cases other : split (inOrder other) config with
      | none => rfl
      | some windows =>
        rw [other] at splits
        exact absurd splits (fun related => nomatch related)
    | some windows =>
      rw [isSplit] at splits
      cases isSplitToo : split (inOrder other) config with
      | none =>
        rw [isSplitToo] at splits
        exact absurd splits (fun related => nomatch related)
      | some windowsToo =>
        rw [isSplitToo] at splits
        obtain ⟨related⟩ := splits
        have needed : config.controls.permutationNull = true →
            EnoughForNull windows.discovery config → ReachesNull episodes config := by
          intro nullOn enough
          refine ⟨nullOn, fun required isRequired => ?_, windows, isSplit, enough⟩
          have due := Option.filter_eq_none_iff.mp look required isRequired
          rw [decide_eq_true_eq, (inOrder_perm other).length_eq, ← perm.length_eq] at due
          exact Nat.le_of_not_lt due
        have sameMined := @mine_same floats attempts _ _ config _ related.discovery needed
        dsimp only
        rw [related.discoveryDays, related.confirmationDays, ← sameMined]
        cases mined : mine floats attempts windows.discovery config with
        | none => rfl
        | some outcome =>
          cases outcome with
          | error abstention => rfl
          | ok report =>
            have enough : ∀ discovery ∈ report.results.filter CandidateResult.isDiscovery,
                discovery.candidate ∈ registry ∧
                  (config.controls.permutationNull = true → ReachesNull episodes config) := by
              intro discovery isDiscovery
              obtain ⟨member, found⟩ := mem_filter.mp isDiscovery
              refine ⟨(mine_registered mined discovery member).1, fun nullOn => ?_⟩
              exact needed nullOn
                (enough_of_mine related.discovery.sorted nullOn mined member found)
            dsimp only
            rw [findings_congr enough related.confirmation]

/-- The order of the episodes makes no difference where ties are alike or no null is computed. The
windows are always split by days, and the shifts of the null are always by days. -/
theorem analyse_by_days (floats : Floats) (attempts : Nat) (episodes : List Episode)
    (config : MinerConfig) :
    ((ReachesNull episodes config → TiesAlike episodes) → ∀ other, episodes.Perm other →
      analyse floats attempts episodes config = analyse floats attempts other config) ∧
    ∀ windows, split (inOrder episodes) config = some windows →
      SplitByDays episodes windows ∧
      ∀ ordered, ordered = inOrder windows.discovery ∨ ordered ∈ windows.confirmation → ∀ rng,
        ShiftsByDays ordered config.permutations
          (chooseShifts (dayStartIndices ordered) config.permutations rng).1 := by
  constructor
  · exact fun alike other perm => analyse_perm perm alike
  · intro windows isSplit
    have sorted := inOrder_sorted episodes
    obtain ⟨before, covers⟩ := split_byDays isSplit
    refine ⟨⟨before, covers.trans (inOrder_perm episodes)⟩, ?_⟩
    intro ordered isWindow rng
    have discoverySorted := split_sorted sorted isSplit (Or.inl rfl)
    rw [inOrder_eq discoverySorted] at isWindow
    exact chooseShifts_byDays (split_sorted sorted isSplit isWindow) _ rng

end Analyses

def atHour (localHour : Nat) : EpisodeFeatures where
  localHour
  weekend := false
  precedingCategory := none
  precedingTransition := none
  blockElapsedSeconds := 0
  focusActive := false
  priorBlockPhase := none
  priorInterventionOutcome := none
  runIndex := 0
  gapSeconds := none

/-- Four days, the second with one episode at night and one at noon that have the same onset. -/
def tiedEpisodes (tied : List Episode) : List Episode :=
  ⟨0, 0, atHour 0, true⟩ :: tied ++ [⟨2, 0, atHour 12, true⟩, ⟨3, 0, atHour 12, true⟩]

def atNight : Episode := ⟨1, 0, atHour 0, false⟩

def atNoon : Episode := ⟨1, 0, atHour 12, true⟩

def lowFloors : MinerConfig :=
  { minSupport := 1, minDaysForPermutation := 2, singleLookAtEpisodes := none }

/-- First-order approximations, none of which is needed for two days. -/
def firstOrder : Floats := ⟨fun x => (x + 1) / 2, fun x => 1 + x, fun x => x - 1, 1.41421356⟩

/-- Two episodes that the key does not tell apart: their order decides what the shift by one day
compares, and with it the p-values. -/
theorem tied_episodes_change_the_result :
    (tiedEpisodes [atNight, atNoon]).Perm (tiedEpisodes [atNoon, atNight]) ∧
      analyse firstOrder 0 (tiedEpisodes [atNight, atNoon]) lowFloors ≠
        analyse firstOrder 0 (tiedEpisodes [atNoon, atNight]) lowFloors := by
  constructor
  · decide +kernel
  · intro same
    have sameP := congrArg (Option.map fun analysis : Analysis => analysis.discovery.map
      fun report => report.results.map CandidateResult.permutationP) same
    revert sameP
    decide +kernel

end Velvt.Antecedents
