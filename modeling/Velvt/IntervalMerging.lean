import Mathlib.Data.List.Pairwise
import Mathlib.Order.MinMax

/-!
# Merging intervals

Closed intervals that are sorted by their starts are merged one after the other: an interval that
starts inside the last one extends it, any other begins anew.
-/

namespace IntervalMerging

open List

variable {Point : Type*} [LinearOrder Point]

/-- The point lies in the interval. -/
def Within (point : Point) (interval : Point × Point) : Prop :=
  interval.1 ≤ point ∧ point ≤ interval.2

def mergeFrom : Point × Point → List (Point × Point) → List (Point × Point)
  | last, [] => [last]
  | last, interval :: rest =>
    if interval.1 ≤ last.2 then mergeFrom (last.1, max last.2 interval.2) rest
    else last :: mergeFrom interval rest

def merge : List (Point × Point) → List (Point × Point)
  | [] => []
  | interval :: rest => mergeFrom interval rest

/-- Two of the intervals have a point in common. -/
def Meet (intervals : List (Point × Point)) (first second : Point × Point) : Prop :=
  first ∈ intervals ∧ second ∈ intervals ∧ ∃ point, Within point first ∧ Within point second

/-- A chain of common points connects two intervals. -/
def Chained (intervals : List (Point × Point)) : Point × Point → Point × Point → Prop :=
  Relation.ReflTransGen (Meet intervals)

/-- An interval is the union of some that are connected. -/
structure Hull (intervals : List (Point × Point)) (hull : Point × Point) : Prop where
  proper : hull.1 ≤ hull.2
  inside : ∀ interval ∈ intervals, hull.1 ≤ interval.1 ∧ interval.2 ≤ hull.2
  covered : ∀ point, Within point hull → ∃ interval ∈ intervals, Within point interval
  chained : ∀ first ∈ intervals, ∀ second ∈ intervals, Chained intervals first second

/-- The intervals are sorted by their starts, and none is empty. -/
structure Sorted (intervals : List (Point × Point)) : Prop where
  starts : intervals.Pairwise fun first second => first.1 ≤ second.1
  proper : ∀ interval ∈ intervals, interval.1 ≤ interval.2

variable {intervals others : List (Point × Point)} {first second hull interval : Point × Point}

theorem Meet.symm (meet : Meet intervals first second) : Meet intervals second first := by
  obtain ⟨isFirst, isSecond, point, inFirst, inSecond⟩ := meet
  exact ⟨isSecond, isFirst, point, inSecond, inFirst⟩

theorem Chained.symm (chained : Chained intervals first second) :
    Chained intervals second first := by
  induction chained with
  | refl => exact .refl
  | tail _ meet ih => exact .head meet.symm ih

theorem Chained.mono (more : ∀ interval ∈ intervals, interval ∈ others)
    (chained : Chained intervals first second) : Chained others first second := by
  induction chained with
  | refl => exact .refl
  | tail _ meet ih =>
    obtain ⟨isOne, isTwo, meets⟩ := meet
    exact .tail ih ⟨more _ isOne, more _ isTwo, meets⟩

theorem hull_singleton (proper : interval.1 ≤ interval.2) : Hull [interval] interval where
  proper := proper
  inside other isOther := by
    rw [mem_singleton.mp isOther]
    exact ⟨le_rfl, le_rfl⟩
  covered _ within := ⟨interval, mem_singleton_self _, within⟩
  chained one isOne two isTwo := by
    rw [mem_singleton.mp isOne, mem_singleton.mp isTwo]
    exact .refl

theorem Hull.extend (isHull : Hull intervals hull) (starts : Within interval.1 hull)
    (proper : interval.1 ≤ interval.2) :
    Hull (intervals ++ [interval]) (hull.1, max hull.2 interval.2) := by
  obtain ⟨touched, isTouched, touches⟩ := isHull.covered interval.1 starts
  have old : ∀ one ∈ intervals, one ∈ intervals ++ [interval] :=
    fun one isOne => mem_append_left _ isOne
  have isNew : interval ∈ intervals ++ [interval] :=
    mem_append_right _ (mem_singleton_self _)
  have meets : Meet (intervals ++ [interval]) touched interval :=
    ⟨old touched isTouched, isNew, interval.1, touches, le_rfl, proper⟩
  -- Every interval is connected to the one that the new interval touches.
  have toTouched : ∀ one ∈ intervals ++ [interval],
      Chained (intervals ++ [interval]) one touched := by
    intro one isOne
    rcases mem_append.mp isOne with before | isLast
    · exact (isHull.chained one before touched isTouched).mono old
    · rw [mem_singleton.mp isLast]
      exact .single meets.symm
  constructor
  · exact isHull.proper.trans (le_max_left _ _)
  · intro one isOne
    rcases mem_append.mp isOne with before | isLast
    · obtain ⟨start, finish⟩ := isHull.inside one before
      exact ⟨start, finish.trans (le_max_left _ _)⟩
    · rw [mem_singleton.mp isLast]
      exact ⟨starts.1, le_max_right _ _⟩
  · rintro point ⟨start, finish⟩
    by_cases inside : point ≤ hull.2
    · obtain ⟨one, isOne, within⟩ := isHull.covered point ⟨start, inside⟩
      exact ⟨one, old one isOne, within⟩
    · rw [not_le] at inside
      have inNew : point ≤ interval.2 := (le_max_iff.mp finish).resolve_left (not_le.mpr inside)
      exact ⟨interval, isNew, starts.2.trans inside.le, inNew⟩
  · intro one isOne two isTwo
    exact (toTouched one isOne).trans (toTouched two isTwo).symm

/-- Intervals in classes, each with its hull. -/
structure Classes (intervals merged : List (Point × Point)) where
  classes : List (List (Point × Point) × (Point × Point))
  split : (classes.flatMap (·.1)) = intervals
  hulls : classes.map (·.2) = merged
  isHull : ∀ entry ∈ classes, Hull entry.1 entry.2

theorem mergeFrom_classes {last : Point × Point} {before : List (Point × Point)}
    (isHull : Hull before last) (sorted : Sorted intervals)
    (after : ∀ interval ∈ intervals, last.1 ≤ interval.1) :
    Nonempty (Classes (before ++ intervals) (mergeFrom last intervals)) := by
  induction intervals generalizing last before with
  | nil => exact ⟨[(before, last)], by simp, rfl, by simpa using isHull⟩
  | cons interval rest ih =>
    obtain ⟨starts, restStarts⟩ := pairwise_cons.mp sorted.starts
    obtain ⟨proper, restProper⟩ := forall_mem_cons.mp sorted.proper
    obtain ⟨startsAfter, restAfter⟩ := forall_mem_cons.mp after
    rw [mergeFrom]
    split
    next inside =>
      have extended := isHull.extend ⟨startsAfter, inside⟩ proper
      have merged := ih extended ⟨restStarts, restProper⟩ restAfter
      rwa [append_assoc, singleton_append] at merged
    next =>
      obtain ⟨classes, isSplit, hulls, areHulls⟩ :=
        ih (hull_singleton proper) ⟨restStarts, restProper⟩ starts
      refine ⟨(before, last) :: classes, ?_, ?_, forall_mem_cons.mpr ⟨isHull, areHulls⟩⟩
      · rw [flatMap_cons, isSplit, singleton_append]
      · rw [map_cons, hulls]

theorem merge_classes (sorted : Sorted intervals) :
    Nonempty (Classes intervals (merge intervals)) := by
  cases intervals with
  | nil => exact ⟨[], rfl, rfl, by simp⟩
  | cons interval rest =>
    obtain ⟨starts, restStarts⟩ := pairwise_cons.mp sorted.starts
    obtain ⟨proper, restProper⟩ := forall_mem_cons.mp sorted.proper
    exact mergeFrom_classes (hull_singleton proper) ⟨restStarts, restProper⟩ starts

theorem mergeFrom_apart {last : Point × Point} (sorted : Sorted intervals)
    (after : ∀ interval ∈ intervals, last.1 ≤ interval.1) :
    (mergeFrom last intervals).Pairwise (fun one two => one.2 < two.1) ∧
      ∀ one ∈ mergeFrom last intervals, last.1 ≤ one.1 := by
  induction intervals generalizing last with
  | nil => simp [mergeFrom]
  | cons interval rest ih =>
    obtain ⟨starts, restStarts⟩ := pairwise_cons.mp sorted.starts
    obtain ⟨proper, restProper⟩ := forall_mem_cons.mp sorted.proper
    obtain ⟨startsAfter, restAfter⟩ := forall_mem_cons.mp after
    have restSorted : Sorted rest := ⟨restStarts, restProper⟩
    rw [mergeFrom]
    split
    next inside => exact @ih (last.1, max last.2 interval.2) restSorted restAfter
    next apart =>
      obtain ⟨pairwise, follows⟩ := @ih interval restSorted starts
      refine ⟨pairwise_cons.mpr ⟨?_, pairwise⟩, ?_⟩
      · intro one isOne
        exact (not_le.mp apart).trans_le (follows one isOne)
      · exact forall_mem_cons.mpr ⟨le_rfl, fun one isOne => startsAfter.trans (follows one isOne)⟩

theorem merge_apart (sorted : Sorted intervals) :
    (merge intervals).Pairwise fun one two => one.2 < two.1 := by
  cases intervals with
  | nil => exact .nil
  | cons interval rest =>
    obtain ⟨starts, restStarts⟩ := pairwise_cons.mp sorted.starts
    obtain ⟨-, restProper⟩ := forall_mem_cons.mp sorted.proper
    exact (mergeFrom_apart ⟨restStarts, restProper⟩ starts).1

theorem exists_hull (sorted : Sorted intervals) (isHull : hull ∈ merge intervals) :
    ∃ members, Hull members hull ∧ ∀ interval ∈ members, interval ∈ intervals := by
  obtain ⟨classes, isSplit, hulls, areHulls⟩ := merge_classes sorted
  rw [← hulls] at isHull
  obtain ⟨entry, isEntry, rfl⟩ := mem_map.mp isHull
  refine ⟨entry.1, areHulls entry isEntry, ?_⟩
  intro interval isMember
  rw [← isSplit]
  exact mem_flatMap_of_mem isEntry isMember

theorem exists_merged (sorted : Sorted intervals) (isInterval : interval ∈ intervals) :
    ∃ hull ∈ merge intervals, hull.1 ≤ interval.1 ∧ interval.2 ≤ hull.2 := by
  obtain ⟨classes, isSplit, hulls, areHulls⟩ := merge_classes sorted
  rw [← isSplit] at isInterval
  obtain ⟨entry, isEntry, isMember⟩ := mem_flatMap.mp isInterval
  refine ⟨entry.2, ?_, (areHulls entry isEntry).inside interval isMember⟩
  rw [← hulls]
  exact mem_map_of_mem isEntry

theorem within_merge_iff (sorted : Sorted intervals) {point : Point} :
    (∃ hull ∈ merge intervals, Within point hull) ↔
      ∃ interval ∈ intervals, Within point interval := by
  constructor
  · rintro ⟨hull, isMerged, within⟩
    obtain ⟨members, isHull, areIntervals⟩ := exists_hull sorted isMerged
    obtain ⟨interval, isMember, inInterval⟩ := isHull.covered point within
    exact ⟨interval, areIntervals interval isMember, inInterval⟩
  · rintro ⟨interval, isInterval, start, finish⟩
    obtain ⟨hull, isMerged, before, after⟩ := exists_merged sorted isInterval
    exact ⟨hull, isMerged, before.trans start, finish.trans after⟩

theorem merged_unique (sorted : Sorted intervals) {point : Point} {one two : Point × Point}
    (isOne : one ∈ merge intervals) (isTwo : two ∈ merge intervals) (inOne : Within point one)
    (inTwo : Within point two) : one = two := by
  by_contra different
  have symmetric : Std.Symm fun one two : Point × Point => one.2 < two.1 ∨ two.2 < one.1 :=
    ⟨fun _ _ => Or.symm⟩
  have apart : (merge intervals).Pairwise fun one two => one.2 < two.1 ∨ two.2 < one.1 :=
    (merge_apart sorted).imp Or.inl
  rcases apart.forall isOne isTwo different with before | after
  · exact absurd (inTwo.1.trans inOne.2) (not_le.mpr before)
  · exact absurd (inOne.1.trans inTwo.2) (not_le.mpr after)

theorem merged_together_iff (sorted : Sorted intervals) {one two : Point} :
    (∃ hull ∈ merge intervals, Within one hull ∧ Within two hull) ↔
      ∃ first ∈ intervals, ∃ second ∈ intervals,
        Within one first ∧ Within two second ∧ Chained intervals first second := by
  constructor
  · rintro ⟨hull, isMerged, inOne, inTwo⟩
    obtain ⟨members, isHull, areIntervals⟩ := exists_hull sorted isMerged
    obtain ⟨first, isFirst, inFirst⟩ := isHull.covered one inOne
    obtain ⟨second, isSecond, inSecond⟩ := isHull.covered two inTwo
    exact ⟨first, areIntervals first isFirst, second, areIntervals second isSecond, inFirst,
      inSecond, (isHull.chained first isFirst second isSecond).mono areIntervals⟩
  · rintro ⟨first, isFirst, second, isSecond, inFirst, inSecond, chained⟩
    obtain ⟨hull, isMerged, before, after⟩ := exists_merged sorted isFirst
    -- The hull of the first interval is that of every interval along the chain.
    have inside : hull.1 ≤ second.1 ∧ second.2 ≤ hull.2 := by
      clear inSecond isSecond
      induction chained with
      | refl => exact ⟨before, after⟩
      | tail _ meet ih =>
        obtain ⟨-, isNext, point, inLast, inNext⟩ := meet
        obtain ⟨next, isNextMerged, nextBefore, nextAfter⟩ := exists_merged sorted isNext
        have same : hull = next := merged_unique sorted isMerged isNextMerged
          ⟨ih.1.trans inLast.1, inLast.2.trans ih.2⟩
          ⟨nextBefore.trans inNext.1, inNext.2.trans nextAfter⟩
        exact same ▸ ⟨nextBefore, nextAfter⟩
    exact ⟨hull, isMerged, ⟨before.trans inFirst.1, inFirst.2.trans after⟩,
      inside.1.trans inSecond.1, inSecond.2.trans inside.2⟩

end IntervalMerging
