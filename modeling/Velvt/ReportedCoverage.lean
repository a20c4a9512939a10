import Velvt.DisjointSpans
import Velvt.WorkBlockEvidence

/-!
# Reported coverage

The seconds that reported dwells covered while a ledger row was open are at most the
seconds of the rows, whatever was reported: merging spans adds nothing to their length,
and one pass of the coverage loop counts no instant of a row twice.
-/

namespace Velvt

open DisjointSpans List

def lengthAfter (start : Int) (span : Span) : Int :=
  max (span.2 - max span.1 start) 0

/-- The lengths of the parts of spans at or after an instant, added up. -/
def totalAfter (start : Int) (spans : List Span) : Int :=
  (spans.map (lengthAfter start)).sum

@[simp]
theorem totalAfter_nil (start : Int) : totalAfter start [] = 0 :=
  rfl

@[simp]
theorem totalAfter_cons (start : Int) (span : Span) (spans : List Span) :
    totalAfter start (span :: spans) = lengthAfter start span + totalAfter start spans := by
  simp [totalAfter]

theorem totalAfter_anti {earlier later : Int} (ordered : earlier ≤ later)
    (spans : List Span) : totalAfter later spans ≤ totalAfter earlier spans := by
  induction spans with
  | nil => exact le_rfl
  | cons span spans ih =>
    simp only [totalAfter_cons, lengthAfter]
    omega

theorem totalAfter_nonneg (start : Int) (spans : List Span) : 0 ≤ totalAfter start spans := by
  induction spans with
  | nil => exact le_rfl
  | cons span spans ih =>
    simp only [totalAfter_cons, lengthAfter]
    omega

theorem overlapSeconds_le (left right : Span) : 1000000000 * overlapSeconds left right ≤
      max (min left.2 right.2 - max left.1 right.1) 0 := by
  simp only [overlapSeconds]
  split
  next shares =>
    rw [numSeconds, Int.tdiv_eq_ediv_of_nonneg (by omega)]
    omega
  · omega

theorem coverOne_le {left : Span} (proper : left.1 ≤ left.2) (running : List Span) :
    1000000000 * (coverOne left running).1 + totalAfter left.2 (coverOne left running).2 ≤
      totalAfter left.1 running := by
  induction running with
  | nil => simp [coverOne]
  | cons right rest ih =>
    have shared := overlapSeconds_le left right
    have fewer := totalAfter_anti proper rest
    simp only [coverOne]
    split
    · simp only [totalAfter_cons, lengthAfter]
      omega
    · simp only [totalAfter_cons, lengthAfter]
      omega

theorem coveredLoop_le {seen : List Span} (proper : ∀ span ∈ seen, span.1 ≤ span.2)
    (ordered : seen.Pairwise fun first second => first.2 ≤ second.1)
    {start : Int} (after : ∀ span ∈ seen, start ≤ span.1) (running : List Span) :
    1000000000 * coveredLoop seen running ≤ totalAfter start running := by
  induction seen generalizing start running with
  | nil => simpa [coveredLoop] using totalAfter_nonneg start running
  | cons left rest ih =>
    obtain ⟨first, restOrdered⟩ := pairwise_cons.mp ordered
    have passes := coverOne_le (proper left mem_cons_self) running
    have later := ih (fun span member => proper span (mem_cons_of_mem _ member))
      restOrdered first (coverOne left running).2
    have begins := totalAfter_anti (after left mem_cons_self) running
    simp only [coveredLoop]
    omega

theorem totalAfter_le_total (start : Int) {spans : List Span}
    (proper : ∀ span ∈ spans, span.1 ≤ span.2) : totalAfter start spans ≤ total spans := by
  induction spans with
  | nil => exact le_rfl
  | cons span spans ih =>
    have later := ih fun other member => proper other (mem_cons_of_mem _ member)
    have spanProper := proper span mem_cons_self
    simp only [totalAfter_cons, total_cons, lengthAfter]
    omega

theorem coveredLoop_le_total {seen running : List Span} (proper : ∀ span ∈ seen, span.1 ≤ span.2)
    (ordered : seen.Pairwise fun first second => first.2 ≤ second.1)
    (runningProper : ∀ span ∈ running, span.1 ≤ span.2) :
    1000000000 * coveredLoop seen running ≤ total running := by
  cases seen with
  | nil =>
    have nonneg := (totalAfter_nonneg 0 running).trans (totalAfter_le_total 0 runningProper)
    simpa [coveredLoop] using nonneg
  | cons left rest =>
    have first := (pairwise_cons.mp ordered).1
    have leftProper := proper left mem_cons_self
    have after (span : Span) (member : span ∈ left :: rest) : left.1 ≤ span.1 := by
      rcases mem_cons.mp member with rfl | later
      · exact le_rfl
      · exact leftProper.trans (first span later)
    exact (coveredLoop_le proper ordered after running).trans
      (totalAfter_le_total left.1 runningProper)

theorem mergeInto_ordered {last : Span} {spans : List Span} (lastProper : last.1 ≤ last.2)
    (proper : ∀ span ∈ spans, span.1 ≤ span.2)
    (sorted : spans.Pairwise fun first second => first.1 ≤ second.1)
    (behind : ∀ span ∈ spans, last.1 ≤ span.1) :
    (mergeInto last spans).Pairwise (fun first second => first.2 ≤ second.1) ∧
      ∀ span ∈ mergeInto last spans, last.1 ≤ span.1 ∧ span.1 ≤ span.2 := by
  induction spans generalizing last with
  | nil => simpa [mergeInto] using lastProper
  | cons next rest ih =>
    obtain ⟨first, restSorted⟩ := pairwise_cons.mp sorted
    have restProper (span : Span) (member : span ∈ rest) : span.1 ≤ span.2 :=
      proper span (mem_cons_of_mem _ member)
    have nextProper := proper next mem_cons_self
    have nextBehind := behind next mem_cons_self
    obtain ⟨start, finish⟩ := next
    simp only [mergeInto]
    split
    · exact ih (lastProper.trans (le_max_left _ _)) restProper restSorted
        fun span member => behind span (mem_cons_of_mem _ member)
    next apart =>
      obtain ⟨ordered, inside⟩ := ih nextProper restProper restSorted first
      refine ⟨pairwise_cons.mpr ⟨fun span member => ?_, ordered⟩, fun span member => ?_⟩
      · exact (not_le.mp apart).le.trans (inside span member).1
      · rcases mem_cons.mp member with rfl | later
        · exact ⟨le_rfl, lastProper⟩
        · exact ⟨nextBehind.trans (inside span later).1, (inside span later).2⟩

theorem total_mergeInto_le {last : Span} {spans : List Span}
    (proper : ∀ span ∈ spans, span.1 ≤ span.2) :
    total (mergeInto last spans) ≤ last.2 - last.1 + total spans := by
  induction spans generalizing last with
  | nil => simp [mergeInto]
  | cons next rest ih =>
    have restProper (span : Span) (member : span ∈ rest) : span.1 ≤ span.2 :=
      proper span (mem_cons_of_mem _ member)
    have nextProper := proper next mem_cons_self
    obtain ⟨start, finish⟩ := next
    simp only [mergeInto]
    split
    · have merged := @ih (last.1, max last.2 finish) restProper
      simp only [total_cons] at merged ⊢
      omega
    · have merged := @ih (start, finish) restProper
      simp only [total_cons] at merged ⊢
      omega

theorem total_filter_le (fromInstant untilInstant : Int) {spans : List Span}
    (proper : ∀ span ∈ spans, span.1 ≤ span.2) :
    total ((spans.map fun span => (max span.1 fromInstant, min span.2 untilInstant)).filter
      fun span => decide (span.1 < span.2)) ≤ total spans := by
  induction spans with
  | nil => exact le_rfl
  | cons span rest ih =>
    have later := ih fun other member => proper other (mem_cons_of_mem _ member)
    have spanProper := proper span mem_cons_self
    rw [map_cons, filter_cons]
    split
    · simp only [total_cons]
      omega
    · simp only [total_cons]
      omega

theorem total_insertionSort (spans : List Span) :
    total (spans.insertionSort spanBefore) = total spans :=
  ((perm_insertionSort spanBefore spans).map _).sum_eq

instance : Std.Total spanBefore where
  total first second := by
    unfold spanBefore
    omega

instance : IsTrans Span spanBefore where
  trans first second third := by
    unfold spanBefore
    omega

theorem mergedSpans_ordered (spans : List Span) (fromInstant untilInstant : Int) :
    (mergedSpans spans fromInstant untilInstant).Pairwise (fun first second => first.2 ≤ second.1) ∧
      ∀ span ∈ mergedSpans spans fromInstant untilInstant, span.1 ≤ span.2 := by
  set clipped := (spans.map fun span =>
    (max span.1 fromInstant, min span.2 untilInstant)).filter
      fun span => decide (span.1 < span.2) with clipped_def
  have proper (span : Span) (member : span ∈ clipped.insertionSort spanBefore) :
      span.1 ≤ span.2 := by
    have isClipped := (mem_insertionSort spanBefore).mp member
    have shorter := of_decide_eq_true (mem_filter.mp isClipped).2
    exact shorter.le
  have sorted : (clipped.insertionSort spanBefore).Pairwise
      fun first second => first.1 ≤ second.1 := by
    refine (pairwise_insertionSort spanBefore clipped).imp fun before => ?_
    unfold spanBefore at before
    omega
  simp only [mergedSpans, ← clipped_def]
  cases isSorted : clipped.insertionSort spanBefore with
  | nil => simp
  | cons first rest =>
    rw [isSorted] at proper sorted
    obtain ⟨behind, restSorted⟩ := pairwise_cons.mp sorted
    obtain ⟨ordered, inside⟩ := mergeInto_ordered (proper first mem_cons_self)
      (fun span member => proper span (mem_cons_of_mem _ member)) restSorted behind
    exact ⟨ordered, fun span member => (inside span member).2⟩

theorem total_mergedSpans_le {spans : List Span} (proper : ∀ span ∈ spans, span.1 ≤ span.2)
    (fromInstant untilInstant : Int) :
    total (mergedSpans spans fromInstant untilInstant) ≤ total spans := by
  have filtered := total_filter_le fromInstant untilInstant proper
  set clipped := (spans.map fun span =>
    (max span.1 fromInstant, min span.2 untilInstant)).filter
      fun span => decide (span.1 < span.2) with clipped_def
  have sameTotal := total_insertionSort clipped
  have clippedProper (span : Span) (member : span ∈ clipped.insertionSort spanBefore) :
      span.1 ≤ span.2 := by
    have isClipped := (mem_insertionSort spanBefore).mp member
    have shorter := of_decide_eq_true (mem_filter.mp isClipped).2
    exact shorter.le
  simp only [mergedSpans, ← clipped_def]
  cases isSorted : clipped.insertionSort spanBefore with
  | nil =>
    rw [isSorted] at sameTotal
    exact (total_nil.symm.trans sameTotal).trans_le filtered
  | cons first rest =>
    rw [isSorted] at sameTotal clippedProper
    have merged := @total_mergeInto_le first rest fun span member =>
      clippedProper span (mem_cons_of_mem _ member)
    rw [total_cons] at sameTotal
    exact (merged.trans_eq sameTotal).trans filtered

def closedSpans {resolution : Resolution}
    (observations : List (WorkBlockObservation resolution)) : List Span :=
  observations.filterMap fun observation =>
    observation.endedAt.map fun endedAt => (observation.occurredAt, endedAt)

theorem reportedCoverageSeconds_le (reported : List ReportedDwell)
    {observations : List (WorkBlockObservation .nanoseconds)} {seconds : Nat}
    (proper : ∀ span ∈ closedSpans observations, span.1 ≤ span.2)
    (within : total (closedSpans observations) ≤ 1000000000 * (seconds : Int))
    (fromInstant untilInstant : Int) :
    reportedCoverageSeconds reported observations fromInstant untilInstant ≤ seconds := by
  unfold reportedCoverageSeconds
  set seen := mergedSpans ((reported.filter fun dwell =>
    isConfident dwell.category dwell.classificationStatus dwell.classificationConfidence).map
      fun dwell => (dwell.occurredAt, dwell.endedAt)) fromInstant untilInstant
  obtain ⟨ordered, seenProper⟩ := mergedSpans_ordered _ fromInstant untilInstant
  have runningProper :=
    (mergedSpans_ordered (closedSpans observations) fromInstant untilInstant).2
  have covered : 1000000000 *
      coveredLoop seen (mergedSpans (closedSpans observations) fromInstant untilInstant) ≤
        1000000000 * (seconds : Int) :=
    calc
      _ ≤ total (mergedSpans (closedSpans observations) fromInstant untilInstant) :=
        coveredLoop_le_total seenProper ordered runningProper
      _ ≤ total (closedSpans observations) := total_mergedSpans_le proper fromInstant untilInstant
      _ ≤ _ := within
  change (min (max (coveredLoop seen
    (mergedSpans (closedSpans observations) fromInstant untilInstant)) 0) (u32Max : Int)).toNat ≤
      seconds
  omega

end Velvt
