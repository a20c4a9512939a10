import Velvt.Dashboard

/-!
# What a cluster of switches is

A run is three consecutive transitions within the window of a cluster.
-/

namespace Velvt.Dashboard

open IntervalMerging Option

section Prefixes

variable {α : Type*}

theorem lt_length_takeWhile_iff {accept : α → Bool} {list : List α} {index : Nat}
    (closed : list.Pairwise fun before after => accept after → accept before) :
    index < (list.takeWhile accept).length ↔ ∃ entry ∈ list[index]?, accept entry := by
  induction list generalizing index with
  | nil => simp
  | cons head rest ih =>
    obtain ⟨headClosed, restClosed⟩ := List.pairwise_cons.mp closed
    by_cases accepted : accept head
    · rw [List.takeWhile_cons_of_pos accepted]
      cases index with
      | zero => simp [accepted]
      | succ index => simpa using ih restClosed
    · rw [List.takeWhile_cons_of_neg accepted]
      constructor
      · intro impossible
        simp at impossible
      · rintro ⟨entry, isEntry, isAccepted⟩
        cases index with
        | zero =>
          simp only [List.getElem?_cons_zero, mem_some_iff] at isEntry
          exact absurd (isEntry ▸ isAccepted) accepted
        | succ index =>
          rw [List.getElem?_cons_succ] at isEntry
          exact absurd (headClosed entry (List.mem_of_getElem? isEntry) isAccepted) accepted

end Prefixes

section Runs

/-- The transitions are in nondecreasing time order. -/
def InOrder (transitions : List LocalTransitionMarker) : Prop :=
  transitions.Pairwise fun before after => before.occurredAt ≤ after.occurredAt
  deriving Decidable

/-- The second transition is no more than the window of a cluster later than the first. -/
def Near (transitions : List LocalTransitionMarker) (start finish : Nat) : Prop :=
  ∃ first ∈ transitions[start]?, ∃ last ∈ transitions[finish]?,
    numSeconds (last.occurredAt - first.occurredAt) ≤ 300

/-- Three consecutive transitions, the first of them at the index, span at most 300 whole
seconds. -/
def Qualifies (transitions : List LocalTransitionMarker) (start : Nat) : Prop :=
  Near transitions start (start + 2)

/-- The transition is one of the three. -/
def Covers (start index : Nat) : Prop := start ≤ index ∧ index ≤ start + 2

/-- Two qualifying runs share a transition. -/
def Share (transitions : List LocalTransitionMarker) (first second : Nat) : Prop :=
  Qualifies transitions first ∧ Qualifies transitions second ∧
    ∃ index, Covers first index ∧ Covers second index

/-- Two transitions are joined by a chain of qualifying runs that share a transition. -/
def Joined (transitions : List LocalTransitionMarker) (one two : Nat) : Prop :=
  ∃ first second, Qualifies transitions first ∧ Covers first one ∧ Covers second two ∧
    Relation.ReflTransGen (Share transitions) first second

variable {transitions : List LocalTransitionMarker} {start finish index one two : Nat}

theorem numSeconds_mono {shorter longer : Int} (le : shorter ≤ longer) :
    numSeconds shorter ≤ numSeconds longer :=
  Int.tdiv_le_tdiv (by decide) le

theorem Near.lt_length (near : Near transitions start finish) : finish < transitions.length := by
  obtain ⟨_, -, last, isLast, -⟩ := near
  exact (List.getElem?_eq_some_iff.mp isLast).1

theorem InOrder.occurredAt_le (inOrder : InOrder transitions) {before after : LocalTransitionMarker}
    (le : start ≤ finish) (isBefore : before ∈ transitions[start]?)
    (isAfter : after ∈ transitions[finish]?) : before.occurredAt ≤ after.occurredAt := by
  obtain ⟨startInside, rfl⟩ := List.getElem?_eq_some_iff.mp isBefore
  obtain ⟨finishInside, rfl⟩ := List.getElem?_eq_some_iff.mp isAfter
  rcases Nat.eq_or_lt_of_le le with rfl | lt
  · exact le_rfl
  · exact List.pairwise_iff_getElem.mp inOrder start finish startInside finishInside lt

theorem Near.inside (inOrder : InOrder transitions) (near : Near transitions start finish)
    (starts : start ≤ one) (le : one ≤ two) (ends : two ≤ finish) : Near transitions one two := by
  have inLength := near.lt_length
  obtain ⟨first, isFirst, last, isLast, close⟩ := near
  have isOne : transitions[one]? = some transitions[one] := List.getElem?_eq_getElem (by omega)
  have isTwo : transitions[two]? = some transitions[two] := List.getElem?_eq_getElem (by omega)
  have startLe := inOrder.occurredAt_le starts isFirst isOne
  have endLe := inOrder.occurredAt_le ends isTwo isLast
  exact ⟨_, isOne, _, isTwo, (numSeconds_mono (by omega)).trans close⟩

end Runs

section Windows

def reach (transitions : List LocalTransitionMarker) (start : Nat) : Nat :=
  match transitions.drop start with
  | [] => start
  | first :: later =>
    start + (later.takeWhile fun transition =>
      decide (numSeconds (transition.occurredAt - first.occurredAt) ≤ 300)).length

variable {transitions : List LocalTransitionMarker} {start finish index one two : Nat}

theorem le_reach_iff (inOrder : InOrder transitions) (inside : start < transitions.length)
    (le : start ≤ index) : index ≤ reach transitions start ↔ Near transitions start index := by
  have split : transitions.drop start = transitions[start] :: transitions.drop (start + 1) :=
    List.drop_eq_getElem_cons inside
  have isFirst : transitions[start]? = some transitions[start] := List.getElem?_eq_getElem inside
  rw [reach, split]
  dsimp only
  rcases Nat.eq_or_lt_of_le le with rfl | lt
  · have near : Near transitions start start :=
      ⟨_, isFirst, _, isFirst, by rw [Int.sub_self]; decide⟩
    simp [near]
  obtain ⟨offset, rfl⟩ := Nat.exists_eq_add_of_lt lt
  -- The loop stops at the first transition that is not near, and none after it is.
  have closed : (transitions.drop (start + 1)).Pairwise fun before after =>
      decide (numSeconds (after.occurredAt - transitions[start].occurredAt) ≤ 300) = true →
        decide (numSeconds (before.occurredAt - transitions[start].occurredAt) ≤ 300) = true := by
    apply (List.Pairwise.sublist (List.drop_sublist _ _) inOrder).imp
    intro before after order
    have shorter := numSeconds_mono (Int.sub_le_sub_right order transitions[start].occurredAt)
    simp only [decide_eq_true_eq]
    exact shorter.trans
  have counted := @lt_length_takeWhile_iff _ _ _ offset closed
  rw [List.getElem?_drop, show start + 1 + offset = start + offset + 1 by omega] at counted
  constructor
  · intro reached
    obtain ⟨last, isLast, close⟩ := counted.mp (by omega)
    exact ⟨_, isFirst, last, isLast, of_decide_eq_true close⟩
  · rintro ⟨first, first_eq, last, isLast, close⟩
    rw [isFirst, mem_some_iff] at first_eq
    have counts := counted.mpr ⟨last, isLast, decide_eq_true (first_eq ▸ close)⟩
    omega

theorem switchingWindow_eq (inside : start < transitions.length) :
    switchingWindow transitions start =
      if start + 2 ≤ reach transitions start then some (start, reach transitions start)
      else none := by
  have split : transitions.drop start = transitions[start] :: transitions.drop (start + 1) :=
    List.drop_eq_getElem_cons inside
  have minutes : switchingClusterWindowSeconds = 300 := rfl
  simp only [switchingWindow, reach, split, switchingClusterMinTransitions, minutes]
  congr 1
  apply propext
  omega

def windows (transitions : List LocalTransitionMarker) : List (Nat × Nat) :=
  (List.range transitions.length).filterMap (switchingWindow transitions)

section

variable (inOrder : InOrder transitions)

include inOrder

theorem mem_windows_iff {window : Nat × Nat} :
    window ∈ windows transitions ↔
      Qualifies transitions window.1 ∧ window.2 = reach transitions window.1 := by
  rw [windows, List.mem_filterMap]
  constructor
  · rintro ⟨start, isStart, isWindow⟩
    rw [List.mem_range] at isStart
    rw [switchingWindow_eq isStart, ite_none_right_eq_some] at isWindow
    obtain ⟨long, isWindow⟩ := isWindow
    rw [← some_inj.mp isWindow]
    exact ⟨(le_reach_iff inOrder isStart (by omega)).mp long, rfl⟩
  · rintro ⟨qualifies, isReach⟩
    have inLength := qualifies.lt_length
    have isStart : window.1 < transitions.length := by omega
    have long := (le_reach_iff inOrder isStart (by omega)).mpr qualifies
    refine ⟨window.1, List.mem_range.mpr isStart, ?_⟩
    rw [switchingWindow_eq isStart, if_pos long, ← isReach]

theorem Qualifies.le_reach (qualifies : Qualifies transitions start) :
    start + 2 ≤ reach transitions start := by
  have inLength := qualifies.lt_length
  exact (le_reach_iff inOrder (by omega) (by omega)).mpr qualifies

theorem Qualifies.near_reach (qualifies : Qualifies transitions start) :
    Near transitions start (reach transitions start) := by
  have long := qualifies.le_reach inOrder
  have inLength := qualifies.lt_length
  exact (le_reach_iff inOrder (by omega) (by omega)).mp le_rfl

theorem sorted_windows : Sorted (windows transitions) where
  starts := by
    rw [windows, List.pairwise_filterMap]
    apply (List.pairwise_lt_range).imp_of_mem
    intro before after isBefore isAfter lt one isOne two isTwo
    rw [List.mem_range] at isBefore isAfter
    rw [switchingWindow_eq isBefore, ite_none_right_eq_some] at isOne
    rw [switchingWindow_eq isAfter, ite_none_right_eq_some] at isTwo
    rw [← some_inj.mp isOne.2, ← some_inj.mp isTwo.2]
    exact lt.le
  proper window isWindow := by
    obtain ⟨qualifies, isReach⟩ := (mem_windows_iff inOrder).mp isWindow
    have long := qualifies.le_reach inOrder
    omega

theorem exists_run_inside (qualifies : Qualifies transitions start)
    (starts : start ≤ index) (ends : index ≤ reach transitions start) :
    ∃ run, start ≤ run ∧ run + 2 ≤ reach transitions start ∧ Covers run index := by
  have long := qualifies.le_reach inOrder
  refine ⟨min index (reach transitions start - 2), ?_, ?_, ?_⟩
  · omega
  · omega
  · constructor <;> omega

theorem qualifies_inside (qualifies : Qualifies transitions start)
    (starts : start ≤ index) (ends : index + 2 ≤ reach transitions start) :
    Qualifies transitions index :=
  (qualifies.near_reach inOrder).inside inOrder starts (by omega) ends

theorem chain_inside (qualifies : Qualifies transitions start)
    (starts : start ≤ index) (ends : index + 2 ≤ reach transitions start) :
    Relation.ReflTransGen (Share transitions) start index := by
  induction index, starts using Nat.le_induction with
  | base => exact .refl
  | succ index starts ih =>
    apply (ih (by omega)).tail
    refine ⟨qualifies_inside inOrder qualifies starts (by omega),
      qualifies_inside inOrder qualifies (by omega) ends, index + 1, ?_, ?_⟩
    · constructor <;> omega
    · constructor <;> omega

end

theorem Share.symm {first second : Nat} (share : Share transitions first second) :
    Share transitions second first := by
  obtain ⟨isFirst, isSecond, index, inFirst, inSecond⟩ := share
  exact ⟨isSecond, isFirst, index, inSecond, inFirst⟩

theorem chain_symm {first second : Nat}
    (chain : Relation.ReflTransGen (Share transitions) first second) :
    Relation.ReflTransGen (Share transitions) second first := by
  induction chain with
  | refl => exact .refl
  | tail _ share ih => exact .head share.symm ih

theorem chain_of_meet (inOrder : InOrder transitions) {first second : Nat × Nat}
    (meet : Meet (windows transitions) first second) :
    Relation.ReflTransGen (Share transitions) first.1 second.1 := by
  obtain ⟨isFirst, isSecond, index, inFirst, inSecond⟩ := meet
  obtain ⟨firstQualifies, firstReach⟩ := (mem_windows_iff inOrder).mp isFirst
  obtain ⟨secondQualifies, secondReach⟩ := (mem_windows_iff inOrder).mp isSecond
  obtain ⟨run, starts, ends, covers⟩ :=
    exists_run_inside inOrder firstQualifies inFirst.1 (firstReach ▸ inFirst.2)
  obtain ⟨other, otherStarts, otherEnds, otherCovers⟩ :=
    exists_run_inside inOrder secondQualifies inSecond.1 (secondReach ▸ inSecond.2)
  have share : Share transitions run other :=
    ⟨qualifies_inside inOrder firstQualifies starts ends,
      qualifies_inside inOrder secondQualifies otherStarts otherEnds, index, covers, otherCovers⟩
  have toRun := chain_inside inOrder firstQualifies starts ends
  have toOther := chain_inside inOrder secondQualifies otherStarts otherEnds
  exact (toRun.tail share).trans (chain_symm toOther)

theorem meet_of_share (inOrder : InOrder transitions) {first second : Nat}
    (share : Share transitions first second) :
    Meet (windows transitions) (first, reach transitions first)
      (second, reach transitions second) := by
  obtain ⟨isFirst, isSecond, index, inFirst, inSecond⟩ := share
  have firstLong := isFirst.le_reach inOrder
  have secondLong := isSecond.le_reach inOrder
  exact ⟨(mem_windows_iff inOrder).mpr ⟨isFirst, rfl⟩, (mem_windows_iff inOrder).mpr ⟨isSecond, rfl⟩,
    index, ⟨inFirst.1, inFirst.2.trans firstLong⟩, ⟨inSecond.1, inSecond.2.trans secondLong⟩⟩

end Windows

section Clusters

/-- Groups of transitions, each from its first index to its last, are the clusters of switches. -/
structure ClustersOf (transitions : List LocalTransitionMarker) (groups : List (Nat × Nat)) :
    Prop where
  contiguous : ∀ group ∈ groups, group.1 ≤ group.2 ∧ group.2 < transitions.length
  apart : groups.Pairwise fun before after => before.2 < after.1
  belongs_iff : ∀ index, (∃ group ∈ groups, Within index group) ↔
    ∃ start, Qualifies transitions start ∧ Covers start index
  together_iff : ∀ one two, (∃ group ∈ groups, Within one group ∧ Within two group) ↔
    Joined transitions one two

/-- What is said of a group: the instants of its first and last transition, and their number. -/
structure Reports (transitions : List LocalTransitionMarker) (group : Nat × Nat)
    (cluster : LocalSwitchingCluster) : Prop where
  startedAt : transitions[group.1]?.map (·.occurredAt) = some cluster.startedAt
  endedAt : transitions[group.2]?.map (·.occurredAt) = some cluster.endedAt
  transitionCount : cluster.transitionCount = group.2 + 1 - group.1

variable {transitions : List LocalTransitionMarker} {toUppercase : Char → String}

theorem joined_iff (inOrder : InOrder transitions) {one two : Nat} :
    (∃ first ∈ windows transitions, ∃ second ∈ windows transitions,
        Within one first ∧ Within two second ∧ IntervalMerging.Chained (windows transitions) first second) ↔
      Joined transitions one two := by
  constructor
  · rintro ⟨first, isFirst, second, isSecond, inFirst, inSecond, chained⟩
    obtain ⟨firstQualifies, firstReach⟩ := (mem_windows_iff inOrder).mp isFirst
    obtain ⟨secondQualifies, secondReach⟩ := (mem_windows_iff inOrder).mp isSecond
    obtain ⟨run, starts, ends, covers⟩ :=
      exists_run_inside inOrder firstQualifies inFirst.1 (firstReach ▸ inFirst.2)
    obtain ⟨other, otherStarts, otherEnds, otherCovers⟩ :=
      exists_run_inside inOrder secondQualifies inSecond.1 (secondReach ▸ inSecond.2)
    have fromRun := chain_symm (chain_inside inOrder firstQualifies starts ends)
    have toOther := chain_inside inOrder secondQualifies otherStarts otherEnds
    have between : Relation.ReflTransGen (Share transitions) first.1 second.1 := by
      clear inSecond isSecond secondQualifies secondReach otherStarts otherEnds toOther
      induction chained with
      | refl => exact .refl
      | tail _ meet ih => exact ih.trans (chain_of_meet inOrder meet)
    exact ⟨run, other, qualifies_inside inOrder firstQualifies starts ends, covers, otherCovers,
      (fromRun.trans between).trans toOther⟩
  · rintro ⟨first, second, isFirst, inFirst, inSecond, chain⟩
    have chained : IntervalMerging.Chained (windows transitions) (first, reach transitions first)
        (second, reach transitions second) :=
      chain.lift (fun start => (start, reach transitions start))
        fun _ _ share => meet_of_share inOrder share
    have isSecond : Qualifies transitions second := by
      rcases chain.cases_tail with rfl | ⟨_, -, share⟩
      · exact isFirst
      · exact share.2.1
    have firstLong := isFirst.le_reach inOrder
    have secondLong := isSecond.le_reach inOrder
    exact ⟨_, (mem_windows_iff inOrder).mpr ⟨isFirst, rfl⟩, _,
      (mem_windows_iff inOrder).mpr ⟨isSecond, rfl⟩, ⟨inFirst.1, inFirst.2.trans firstLong⟩,
      ⟨inSecond.1, inSecond.2.trans secondLong⟩, chained⟩

theorem clustersOf_switchingGroups (inOrder : InOrder transitions) :
    ClustersOf transitions (switchingGroups transitions) := by
  have sorted := sorted_windows inOrder
  have isMerge : switchingGroups transitions = merge (windows transitions) := rfl
  rw [isMerge]
  constructor
  · intro group isGroup
    obtain ⟨members, isHull, areWindows⟩ := exists_hull sorted isGroup
    obtain ⟨window, isMember, -, ends⟩ := isHull.covered group.2 ⟨isHull.proper, le_rfl⟩
    obtain ⟨qualifies, isReach⟩ := (mem_windows_iff inOrder).mp (areWindows window isMember)
    have inLength := (qualifies.near_reach inOrder).lt_length
    have proper := isHull.proper
    omega
  · exact merge_apart sorted
  · intro index
    rw [within_merge_iff sorted]
    constructor
    · rintro ⟨window, isWindow, inWindow⟩
      obtain ⟨qualifies, isReach⟩ := (mem_windows_iff inOrder).mp isWindow
      obtain ⟨run, starts, ends, covers⟩ :=
        exists_run_inside inOrder qualifies inWindow.1 (isReach ▸ inWindow.2)
      exact ⟨run, qualifies_inside inOrder qualifies starts ends, covers⟩
    · rintro ⟨start, qualifies, covers⟩
      have long := qualifies.le_reach inOrder
      exact ⟨(start, reach transitions start), (mem_windows_iff inOrder).mpr ⟨qualifies, rfl⟩,
        covers.1, covers.2.trans long⟩
  · intro one two
    rw [merged_together_iff sorted]
    exact joined_iff inOrder

theorem reports_switchingCluster {group : Nat × Nat} (le : group.1 ≤ group.2)
    (inside : group.2 < transitions.length) (index : Nat) :
    Reports transitions group (switchingCluster toUppercase transitions group index) := by
  have length_eq : ((transitions.drop group.1).take (group.2 + 1 - group.1)).length =
      group.2 + 1 - group.1 := by
    rw [List.length_take, List.length_drop]
    omega
  constructor
  · have head_eq : ((transitions.drop group.1).take (group.2 + 1 - group.1)).head? =
        some transitions[group.1] := by
      rw [List.head?_take, List.head?_drop, List.getElem?_eq_getElem (by omega), if_neg (by omega)]
    simp only [switchingCluster, head_eq, List.getElem?_eq_getElem (show group.1 < transitions.length by omega),
      map_some, getD_some]
  · have last_eq : ((transitions.drop group.1).take (group.2 + 1 - group.1)).getLast? =
        some transitions[group.2] := by
      rw [List.getLast?_eq_getElem?, length_eq, List.getElem?_take_of_lt (by omega),
        List.getElem?_drop, show group.1 + (group.2 + 1 - group.1 - 1) = group.2 by omega,
        List.getElem?_eq_getElem inside]
    simp only [switchingCluster, last_eq, List.getElem?_eq_getElem inside, map_some, getD_some]
  · exact length_eq

/-- The clusters of transitions in time order are contiguous groups of them, disjoint and in
order.  A transition belongs to one exactly where it is in three consecutive transitions that span
at most 300 seconds, and two belong to the same one exactly where a chain of such runs joins
them. -/
theorem clusters_are_connected_runs (inOrder : InOrder transitions) :
    ∃ groups, ClustersOf transitions groups ∧
      List.Forall₂ (Reports transitions) groups (groupSwitchingClusters toUppercase transitions) := by
  have clusters := clustersOf_switchingGroups inOrder
  refine ⟨switchingGroups transitions, clusters, ?_⟩
  rw [groupSwitchingClusters, List.forall₂_map_right_iff, List.forall₂_iff_get]
  refine ⟨by simp, ?_⟩
  intro index inGroups inIndexed
  have isGroup := List.get_mem (switchingGroups transitions) ⟨index, inGroups⟩
  obtain ⟨le, inside⟩ := clusters.contiguous _ isGroup
  simpa using reports_switchingCluster le inside index

def changeAt (seconds : Int) : LocalTransitionMarker :=
  { id := "", occurredAt := fromTimestamp seconds, fromCategory := "DOCS", toCategory := "MAIL"
    confidence := .high }

def touchingRuns : List LocalTransitionMarker := [0, 150, 300, 601, 700, 800].map changeAt

/-- Two runs of three transitions side by side, too far apart to share one. -/
theorem touching_runs_stay_apart :
    switchingGroups touchingRuns = [(0, 2), (3, 5)] ∧
      ∃ groups, ClustersOf touchingRuns groups ∧
        List.Forall₂ (Reports touchingRuns) groups (groupSwitchingClusters toString touchingRuns) :=
  ⟨by decide +kernel, clusters_are_connected_runs (by decide +kernel)⟩

end Clusters

end Velvt.Dashboard
