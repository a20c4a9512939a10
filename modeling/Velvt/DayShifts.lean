import Velvt.AntecedentMining

/-!
# Windows and shifts by whole days

In the order of days and onsets, the episodes of a day stand together.
-/

namespace Velvt.Antecedents

open List

variable {ordered : List Episode} {episode : Episode} {current : Option Int} {day : Int}
  {start index requested : Nat} {rng : Rng} {config : MinerConfig} {windows : Windows}

instance : Std.Total Before where
  total first second := by
    unfold Before
    omega

instance : IsTrans Episode Before where
  trans first second third before later := by
    unfold Before at *
    omega

theorem inOrder_perm (episodes : List Episode) : (inOrder episodes).Perm episodes :=
  perm_insertionSort _ _

theorem inOrder_sorted (episodes : List Episode) : (inOrder episodes).Pairwise Before :=
  pairwise_insertionSort _ _

theorem Before.dayIndex_le {first second : Episode} (before : Before first second) :
    first.dayIndex ≤ second.dayIndex := by
  unfold Before at before
  omega

/-- Each day once, in order. -/
theorem distinctDaysFrom_sorted (sorted : ordered.Pairwise Before)
    (atLeast : ∀ now ∈ current, ∀ episode ∈ ordered, now ≤ episode.dayIndex) :
    (distinctDaysFrom current ordered).Pairwise (· < ·) ∧
      ∀ day, day ∈ distinctDaysFrom current ordered ↔
        day ∈ ordered.map Episode.dayIndex ∧ current ≠ some day := by
  induction ordered generalizing current with
  | nil => exact ⟨List.Pairwise.nil, fun day => by simp [distinctDaysFrom]⟩
  | cons first later ih =>
    obtain ⟨least, sortedLater⟩ := pairwise_cons.mp sorted
    have fromFirst : ∀ now ∈ some first.dayIndex, ∀ episode ∈ later,
        now ≤ episode.dayIndex := by
      rintro now isFirst episode isLater
      obtain rfl := Option.some.inj isFirst
      exact (least episode isLater).dayIndex_le
    obtain ⟨increasing, days⟩ := ih sortedLater fromFirst
    rw [distinctDaysFrom]
    by_cases same : current = some first.dayIndex
    · rw [if_pos same, same]
      refine ⟨increasing, fun day => ?_⟩
      rw [days, map_cons, mem_cons]
      constructor
      · rintro ⟨isDay, other⟩
        exact ⟨Or.inr isDay, other⟩
      · rintro ⟨rfl | isDay, other⟩
        · exact absurd rfl other
        · exact ⟨isDay, other⟩
    · rw [if_neg same]
      constructor
      · apply pairwise_cons.mpr ⟨?_, increasing⟩
        intro day isDay
        obtain ⟨isLater, other⟩ := (days day).mp isDay
        obtain ⟨episode, isEpisode, rfl⟩ := mem_map.mp isLater
        apply lt_of_le_of_ne (least episode isEpisode).dayIndex_le
        exact fun equal => other (congrArg some equal)
      · intro day
        rw [mem_cons, days, map_cons, mem_cons]
        constructor
        · rintro (rfl | ⟨isDay, -⟩)
          · exact ⟨Or.inl rfl, same⟩
          · refine ⟨Or.inr isDay, ?_⟩
            rintro rfl
            obtain ⟨episode, isEpisode, rfl⟩ := mem_map.mp isDay
            have notEarlier := atLeast _ rfl first mem_cons_self
            have notLater := (least episode isEpisode).dayIndex_le
            exact same (congrArg some (le_antisymm notEarlier notLater))
        · rintro ⟨rfl | isDay, other⟩
          · exact Or.inl rfl
          · by_cases isFirst : day = first.dayIndex
            · exact Or.inl isFirst
            · refine Or.inr ⟨isDay, ?_⟩
              exact fun equal => isFirst (Option.some.inj equal).symm

theorem length_distinctDays (sorted : ordered.Pairwise Before) :
    (distinctDays ordered).length = (ordered.map Episode.dayIndex).toFinset.card := by
  obtain ⟨increasing, days⟩ :=
    @distinctDaysFrom_sorted ordered none sorted fun _ isNone => absurd isNone (by simp)
  rw [distinctDays, ← toFinset_card_of_nodup (increasing.imp fun less => less.ne)]
  congr 1
  ext day
  rw [mem_toFinset, mem_toFinset, days]
  simp

theorem length_dayStartsFrom :
    (dayStartsFrom current index ordered).length = (distinctDaysFrom current ordered).length := by
  induction ordered generalizing current index with
  | nil => rfl
  | cons first later ih =>
    rw [dayStartsFrom, distinctDaysFrom]
    split
    · exact ih
    · rw [length_cons, length_cons, ih]

theorem dayStartsFrom_sorted : (dayStartsFrom current index ordered).Pairwise (· < ·) ∧
      ∀ start ∈ dayStartsFrom current index ordered, index ≤ start := by
  induction ordered generalizing current index with
  | nil => exact ⟨List.Pairwise.nil, fun _ isStart => absurd isStart not_mem_nil⟩
  | cons first later ih =>
    rw [dayStartsFrom]
    split
    · obtain ⟨increasing, after⟩ := @ih current (index + 1)
      exact ⟨increasing, fun start isStart => Nat.le_of_succ_le (after start isStart)⟩
    · obtain ⟨increasing, after⟩ := @ih (some first.dayIndex) (index + 1)
      constructor
      · exact pairwise_cons.mpr ⟨fun start isStart => after start isStart, increasing⟩
      · intro start isStart
        obtain rfl | isLater := mem_cons.mp isStart
        · exact Nat.le_refl _
        · exact Nat.le_of_succ_le (after start isLater)

theorem dayStartsFrom_changes (isStart : start ∈ dayStartsFrom current index ordered)
    (after : index < start) :
    ∃ position before episode, start = index + (position + 1) ∧
      ordered[position]? = some before ∧ ordered[position + 1]? = some episode ∧
        before.dayIndex ≠ episode.dayIndex := by
  induction ordered generalizing current index with
  | nil => exact absurd isStart not_mem_nil
  | cons first later ih =>
    -- In both branches the day of the first episode is current for the later ones.
    have moves : start ∈ dayStartsFrom (some first.dayIndex) (index + 1) later := by
      rw [dayStartsFrom] at isStart
      split at isStart
      · rename_i same
        rwa [same] at isStart
      · exact (mem_cons.mp isStart).resolve_left after.ne'
    by_cases next : start = index + 1
    · cases later with
      | nil => exact absurd moves not_mem_nil
      | cons second rest =>
        refine ⟨0, first, second, next, rfl, rfl, fun same => ?_⟩
        rw [dayStartsFrom, if_pos (congrArg some same)] at moves
        have beyond := dayStartsFrom_sorted.2 start moves
        omega
    · have notBefore := dayStartsFrom_sorted.2 start moves
      obtain ⟨position, before, episode, placed, isBefore, isEpisode, changes⟩ :=
        ih moves (by omega)
      exact ⟨position + 1, before, episode, by omega, isBefore, isEpisode, changes⟩

/-- No episode at the position or after it has a day of one before it. -/
def StartsDay (ordered : List Episode) (start : Nat) : Prop :=
  start < ordered.length ∧ ∀ earlier later before after, earlier < start → start ≤ later →
    ordered[earlier]? = some before → ordered[later]? = some after →
      before.dayIndex < after.dayIndex

theorem dayIndex_le_of_le (sorted : ordered.Pairwise Before) {earlier later : Nat}
    {before after : Episode} (atMost : earlier ≤ later)
    (isBefore : ordered[earlier]? = some before) (isAfter : ordered[later]? = some after) :
    before.dayIndex ≤ after.dayIndex := by
  obtain rfl | less := atMost.eq_or_lt
  · rw [isBefore] at isAfter
    rw [Option.some.inj isAfter]
  · obtain ⟨inside, rfl⟩ := List.getElem?_eq_some_iff.mp isBefore
    obtain ⟨insideToo, rfl⟩ := List.getElem?_eq_some_iff.mp isAfter
    exact (pairwise_iff_getElem.mp sorted earlier later inside insideToo less).dayIndex_le

theorem startsDay_of_mem (sorted : ordered.Pairwise Before)
    (isStart : start ∈ dayStartIndices ordered) (positive : 0 < start) :
    StartsDay ordered start := by
  obtain ⟨position, last, first, placed, isLast, isFirst, changes⟩ :=
    dayStartsFrom_changes isStart positive
  rw [Nat.zero_add] at placed
  subst placed
  refine ⟨(List.getElem?_eq_some_iff.mp isFirst).1, ?_⟩
  intro earlier later before after isEarlier isLater isBefore isAfter
  have upTo := dayIndex_le_of_le sorted (Nat.le_of_lt_succ isEarlier) isBefore isLast
  have between := dayIndex_le_of_le sorted (Nat.le_succ position) isLast isFirst
  have onwards := dayIndex_le_of_le sorted isLater isFirst isAfter
  omega

theorem pos_of_mem_drop (isStart : start ∈ (dayStartIndices ordered).drop 1) : 0 < start := by
  have sorted := (@dayStartsFrom_sorted ordered none 0).1
  rw [dayStartIndices] at isStart
  cases starts : dayStartsFrom none 0 ordered with
  | nil =>
    rw [starts] at isStart
    exact absurd isStart not_mem_nil
  | cons first later =>
    rw [starts] at isStart sorted
    exact Nat.zero_lt_of_lt ((pairwise_cons.mp sorted).1 start isStart)

theorem swap_perm (entries : List Nat) (left right : Nat) :
    (swap entries left right).Perm entries := by
  rw [swap]
  split
  · rename_i first second isFirst isSecond
    obtain ⟨inside, rfl⟩ := List.getElem?_eq_some_iff.mp isFirst
    obtain ⟨insideToo, rfl⟩ := List.getElem?_eq_some_iff.mp isSecond
    exact set_set_perm inside insideToo
  · exact List.Perm.refl _

theorem foldl_pickShift_perm (indices : List Nat) (chosen : List Nat × Rng) :
    (indices.foldl pickShift chosen).1.Perm chosen.1 := by
  induction indices generalizing chosen with
  | nil => exact List.Perm.refl _
  | cons index indices ih =>
    rw [foldl_cons]
    exact (ih _).trans (swap_perm _ _ _)

theorem chooseShifts_spec (starts : List Nat) (requested : Nat) (rng : Rng) :
    ∃ taken : List Nat, (chooseShifts starts requested rng).1.Perm taken ∧
      taken.Subperm (starts.drop 1) ∧ taken.length = min (starts.length - 1) requested := by
  rw [chooseShifts]
  dsimp only
  by_cases few : (starts.drop 1).length ≤ requested
  · rw [if_pos few]
    rw [length_drop] at few
    refine ⟨starts.drop 1, List.Perm.refl _, List.Subperm.refl _, ?_⟩
    rw [length_drop, min_eq_left few]
  · rw [if_neg few]
    have shuffled := foldl_pickShift_perm (List.range requested) (starts.drop 1, rng)
    refine ⟨_, perm_insertionSort _ _, ?_, ?_⟩
    · exact (take_sublist _ _).subperm.trans shuffled.subperm
    · rw [length_take, shuffled.length_eq, length_drop, min_comm]

/-- The shifts of a window by whole days: distinct starts of days other than the first, as many
as requested or as there are. -/
structure ShiftsByDays (ordered : List Episode) (requested : Nat) (shifts : List Nat) : Prop where
  distinct : shifts.Nodup
  nonzero : ∀ shift ∈ shifts, shift ≠ 0
  startsDay : ∀ shift ∈ shifts, StartsDay ordered shift
  length : shifts.length = min ((ordered.map Episode.dayIndex).toFinset.card - 1) requested

theorem chooseShifts_byDays (sorted : ordered.Pairwise Before) (requested : Nat) (rng : Rng) :
    ShiftsByDays ordered requested (chooseShifts (dayStartIndices ordered) requested rng).1 := by
  obtain ⟨taken, chosen, available, counted⟩ :=
    chooseShifts_spec (dayStartIndices ordered) requested rng
  have increasing := (@dayStartsFrom_sorted ordered none 0).1
  have isStart : ∀ shift ∈ (chooseShifts (dayStartIndices ordered) requested rng).1,
      shift ∈ (dayStartIndices ordered).drop 1 :=
    fun shift isShift => available.subset (chosen.subset isShift)
  constructor
  case distinct =>
    apply chosen.nodup_iff.mpr
    obtain ⟨reordered, same, sub⟩ := available
    apply same.nodup_iff.mp
    exact ((increasing.imp fun less => less.ne).sublist (drop_sublist 1 _)).sublist sub
  case nonzero => exact fun shift isShift => (pos_of_mem_drop (isStart shift isShift)).ne'
  case startsDay =>
    intro shift isShift
    have among := isStart shift isShift
    exact startsDay_of_mem sorted (mem_of_mem_drop among) (pos_of_mem_drop among)
  case length =>
    rw [chosen.length_eq, counted, dayStartIndices, length_dayStartsFrom, ← distinctDays,
      length_distinctDays sorted]

theorem split_cases (isSplit : split ordered config = some windows) :
    windows.discovery = ordered ∧ windows.confirmation = none ∨ ∃ boundary : Int,
        windows.discovery = ordered.filter (fun episode => episode.dayIndex < boundary) ∧
        windows.confirmation =
          some (ordered.filter fun episode => boundary ≤ episode.dayIndex) := by
  rw [split] at isSplit
  by_cases heldOutOn : config.controls.heldOutReplication = true
  · rw [if_pos heldOutOn] at isSplit
    dsimp only at isSplit
    split at isSplit
    · exact absurd isSplit (by simp)
    · obtain rfl := Option.some.inj isSplit
      exact Or.inr ⟨_, rfl, rfl⟩
  · rw [if_neg heldOutOn] at isSplit
    obtain rfl := Option.some.inj isSplit
    exact Or.inl ⟨rfl, rfl⟩

theorem split_sorted (sorted : ordered.Pairwise Before)
    (isSplit : split ordered config = some windows) {window : List Episode}
    (isWindow : window = windows.discovery ∨ window ∈ windows.confirmation) :
    window.Pairwise Before := by
  obtain ⟨mined, none⟩ | ⟨boundary, mined, heldOut⟩ := split_cases isSplit
  · rw [mined, none] at isWindow
    obtain rfl | isNone := isWindow
    · exact sorted
    · exact absurd isNone (by simp)
  · rw [mined, heldOut] at isWindow
    obtain rfl | isSome := isWindow
    · exact sorted.filter _
    · obtain rfl := Option.some.inj isSome
      exact sorted.filter _

/-- The days of the windows are disjoint, one window before the other, and every episode is in one
of them. -/
structure SplitByDays (episodes : List Episode) (windows : Windows) : Prop where
  before : ∀ heldOut ∈ windows.confirmation, ∀ first ∈ windows.discovery, ∀ second ∈ heldOut,
    first.dayIndex < second.dayIndex
  covers : (windows.discovery ++ windows.confirmation.getD []).Perm episodes

theorem split_byDays (isSplit : split ordered config = some windows) :
    SplitByDays ordered windows := by
  obtain ⟨mined, none⟩ | ⟨boundary, mined, held⟩ := split_cases isSplit
  · constructor
    case before =>
      intro heldOut isHeldOut
      rw [none] at isHeldOut
      exact absurd isHeldOut (by simp)
    case covers => rw [mined, none, Option.getD_none, append_nil]
  · constructor
    case before =>
      intro heldOut isHeldOut first isFirst second isSecond
      rw [held] at isHeldOut
      obtain rfl := Option.some.inj isHeldOut
      rw [mined] at isFirst
      have early := of_decide_eq_true (mem_filter.mp isFirst).2
      have late := of_decide_eq_true (mem_filter.mp isSecond).2
      exact early.trans_le late
    case covers =>
      rw [mined, held, Option.getD_some]
      convert filter_append_perm _ ordered using 3
      ext episode
      rw [← decide_not]
      exact decide_eq_decide.mpr not_lt.symm

end Velvt.Antecedents
