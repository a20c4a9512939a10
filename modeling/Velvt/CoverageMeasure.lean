import Velvt.ReportedCoverage

/-!
# What reported coverage measures

At whole seconds, reported coverage counts the seconds of the window that lie in a confident
dwell and in a closed row, each once: merging keeps the seconds of the spans, and the coverage
loop counts what two lists of disjoint spans share.
-/

namespace Velvt

open DisjointSpans List

section Seconds

def WholeSpan (span : Span) : Prop := WholeSecond span.1 ∧ WholeSecond span.2

noncomputable def secondsOf (spans : List Span) : Finset Int :=
  cover (spans.map fun span => (timestamp span.1, timestamp span.2))

variable {spans : List Span} {second : Int}

theorem WholeSecond.max {first last : Int} (whole : WholeSecond first)
    (wholeLast : WholeSecond last) : WholeSecond (max first last) := by
  rcases max_choice first last with same | same <;> rw [same] <;> assumption

theorem WholeSecond.min {first last : Int} (whole : WholeSecond first)
    (wholeLast : WholeSecond last) : WholeSecond (min first last) := by
  rcases min_choice first last with same | same <;> rw [same] <;> assumption

theorem WholeSpan.mem_iff {span : Span} (whole : WholeSpan span) :
    (timestamp span.1 ≤ second ∧ second < timestamp span.2) ↔
      span.1 ≤ fromTimestamp second ∧ fromTimestamp second < span.2 := by
  obtain ⟨⟨start, isStart⟩, ⟨finish, isFinish⟩⟩ := whole
  rw [isStart, isFinish]
  simp

theorem mem_secondsOf (whole : ∀ span ∈ spans, WholeSpan span) : second ∈ secondsOf spans ↔
      ∃ span ∈ spans, span.1 ≤ fromTimestamp second ∧ fromTimestamp second < span.2 := by
  simp only [secondsOf, mem_cover, mem_map]
  constructor
  · rintro ⟨_, ⟨span, member, rfl⟩, inside⟩
    exact ⟨span, member, (whole span member).mem_iff.mp inside⟩
  · rintro ⟨span, member, inside⟩
    exact ⟨_, ⟨span, member, rfl⟩, (whole span member).mem_iff.mpr inside⟩

theorem secondsOf_cons (span : Span) : secondsOf (span :: spans) =
      Finset.Ico (timestamp span.1) (timestamp span.2) ∪ secondsOf spans :=
  rfl

theorem overlapSeconds_eq {left right : Span} (wholeLeft : WholeSpan left)
    (wholeRight : WholeSpan right) :
    overlapSeconds left right = ((Finset.Ico (timestamp left.1) (timestamp left.2) ∩
        Finset.Ico (timestamp right.1) (timestamp right.2)).card : Int) := by
  obtain ⟨⟨leftStart, isLeftStart⟩, ⟨leftFinish, isLeftFinish⟩⟩ := wholeLeft
  obtain ⟨⟨rightStart, isRightStart⟩, ⟨rightFinish, isRightFinish⟩⟩ := wholeRight
  rw [Finset.Ico_inter_Ico, Int.card_Ico]
  simp only [overlapSeconds, isLeftStart, isLeftFinish, isRightStart, isRightFinish,
    timestamp, fromTimestamp]
  split
  · rw [numSeconds, Int.tdiv_eq_ediv_of_nonneg (by omega)]
    omega
  · omega

end Seconds

section Merging

variable {last : Span} {spans : List Span} {point : Int}

theorem covers_mergeInto (proper : last.1 ≤ last.2)
    (sorted : spans.Pairwise fun first second => first.1 ≤ second.1)
    (behind : ∀ span ∈ spans, last.1 ≤ span.1) (spansProper : ∀ span ∈ spans, span.1 ≤ span.2) :
    (∃ span ∈ mergeInto last spans, span.1 ≤ point ∧ point < span.2) ↔
      ∃ span ∈ last :: spans, span.1 ≤ point ∧ point < span.2 := by
  induction spans generalizing last with
  | nil => simp [mergeInto]
  | cons next rest ih =>
    obtain ⟨first, restSorted⟩ := pairwise_cons.mp sorted
    have nextBehind := behind next mem_cons_self
    have nextProper := spansProper next mem_cons_self
    have restProper (span : Span) (member : span ∈ rest) : span.1 ≤ span.2 :=
      spansProper span (mem_cons_of_mem _ member)
    obtain ⟨start, finish⟩ := next
    simp only [mergeInto]
    split
    next touches =>
      have extended : last.1 ≤ max last.2 finish := proper.trans (le_max_left _ _)
      rw [@ih (last.1, max last.2 finish) extended restSorted
        (fun span member => behind span (mem_cons_of_mem _ member)) restProper]
      -- The extended span covers what the two touching spans cover.
      simp only [exists_mem_cons_iff]
      have joined : (last.1 ≤ point ∧ point < max last.2 finish) ↔
          (last.1 ≤ point ∧ point < last.2) ∨ (start ≤ point ∧ point < finish) := by
        simp only at nextBehind nextProper
        omega
      rw [joined, or_assoc]
    next apart =>
      simp only [exists_mem_cons_iff] at ih ⊢
      rw [ih nextProper restSorted first restProper]

theorem whole_mergeInto (whole : WholeSpan last) (spansWhole : ∀ span ∈ spans, WholeSpan span) :
    ∀ span ∈ mergeInto last spans, WholeSpan span := by
  induction spans generalizing last with
  | nil => simpa [mergeInto] using whole
  | cons next rest ih =>
    have nextWhole := spansWhole next mem_cons_self
    have restWhole (span : Span) (member : span ∈ rest) : WholeSpan span :=
      spansWhole span (mem_cons_of_mem _ member)
    obtain ⟨start, finish⟩ := next
    simp only [mergeInto]
    split
    · exact ih ⟨whole.1, whole.2.max nextWhole.2⟩ restWhole
    · intro span member
      rcases mem_cons.mp member with rfl | later
      · exact whole
      · exact ih nextWhole restWhole span later

variable (fromInstant untilInstant : Int)

def clippedSpans (spans : List Span) : List Span :=
  ((spans.map fun span => (max span.1 fromInstant, min span.2 untilInstant)).filter
    fun span => decide (span.1 < span.2)).insertionSort spanBefore

theorem mem_clippedSpans {span : Span} : span ∈ clippedSpans fromInstant untilInstant spans ↔
      ∃ whole ∈ spans, span = (max whole.1 fromInstant, min whole.2 untilInstant) ∧
        span.1 < span.2 := by
  simp only [clippedSpans, mem_insertionSort, mem_filter, mem_map, decide_eq_true_eq]
  constructor
  · rintro ⟨⟨whole, member, rfl⟩, shorter⟩
    exact ⟨whole, member, rfl, shorter⟩
  · rintro ⟨whole, member, rfl, shorter⟩
    exact ⟨⟨whole, member, rfl⟩, shorter⟩

theorem clippedSpans_sorted : (clippedSpans fromInstant untilInstant spans).Pairwise
      fun first second => first.1 ≤ second.1 := by
  refine (pairwise_insertionSort spanBefore _).imp ?_
  intro first second before
  unfold spanBefore at before
  omega

theorem mergedSpans_eq : mergedSpans spans fromInstant untilInstant =
      match clippedSpans fromInstant untilInstant spans with
      | [] => []
      | first :: rest => mergeInto first rest :=
  rfl

theorem covers_mergedSpans :
    (∃ span ∈ mergedSpans spans fromInstant untilInstant, span.1 ≤ point ∧ point < span.2) ↔
      (fromInstant ≤ point ∧ point < untilInstant) ∧
        ∃ span ∈ spans, span.1 ≤ point ∧ point < span.2 := by
  have merges : (∃ span ∈ mergedSpans spans fromInstant untilInstant,
      span.1 ≤ point ∧ point < span.2) ↔
        ∃ span ∈ clippedSpans fromInstant untilInstant spans, span.1 ≤ point ∧ point < span.2 := by
    have sorted := @clippedSpans_sorted spans fromInstant untilInstant
    have proper (span : Span) (member : span ∈ clippedSpans fromInstant untilInstant spans) :
        span.1 ≤ span.2 := by
      obtain ⟨whole, -, -, shorter⟩ := (mem_clippedSpans fromInstant untilInstant).mp member
      exact shorter.le
    rw [mergedSpans_eq]
    cases isClipped : clippedSpans fromInstant untilInstant spans with
    | nil => rfl
    | cons first rest =>
      rw [isClipped] at sorted proper
      obtain ⟨behind, restSorted⟩ := pairwise_cons.mp sorted
      exact covers_mergeInto (proper first mem_cons_self) restSorted behind
        fun span member => proper span (mem_cons_of_mem _ member)
  rw [merges]
  constructor
  · rintro ⟨span, member, inside⟩
    obtain ⟨whole, isWhole, rfl, -⟩ := (mem_clippedSpans fromInstant untilInstant).mp member
    simp only [max_le_iff, lt_min_iff] at inside
    exact ⟨⟨inside.1.2, inside.2.2⟩, whole, isWhole, inside.1.1, inside.2.1⟩
  · rintro ⟨⟨starts, ends⟩, span, member, inside, before⟩
    refine ⟨(max span.1 fromInstant, min span.2 untilInstant),
      (mem_clippedSpans fromInstant untilInstant).mpr ⟨span, member, rfl, ?_⟩, ?_, ?_⟩
    · exact (max_le inside starts).trans_lt (lt_min before ends)
    · exact max_le inside starts
    · exact lt_min before ends

theorem whole_mergedSpans (whole : ∀ span ∈ spans, WholeSpan span)
    (wholeFrom : WholeSecond fromInstant) (wholeUntil : WholeSecond untilInstant) :
    ∀ span ∈ mergedSpans spans fromInstant untilInstant, WholeSpan span := by
  have clippedWhole (span : Span) (member : span ∈ clippedSpans fromInstant untilInstant spans) :
      WholeSpan span := by
    obtain ⟨before, isBefore, rfl, -⟩ := (mem_clippedSpans fromInstant untilInstant).mp member
    exact ⟨(whole before isBefore).1.max wholeFrom, (whole before isBefore).2.min wholeUntil⟩
  rw [mergedSpans_eq]
  cases isClipped : clippedSpans fromInstant untilInstant spans with
  | nil => simp
  | cons first rest =>
    rw [isClipped] at clippedWhole
    exact whole_mergeInto (clippedWhole first mem_cons_self)
      fun span member => clippedWhole span (mem_cons_of_mem _ member)

end Merging

section Counting

variable {left : Span} {seen running : List Span}

noncomputable def secondsOfSpan (span : Span) : Finset Int :=
  Finset.Ico (timestamp span.1) (timestamp span.2)

/-- One span against the others, of which none that reaches past it is dropped. -/
theorem coverOne_counts (leftWhole : WholeSpan left) (whole : ∀ span ∈ running, WholeSpan span)
    (proper : ∀ span ∈ running, span.1 ≤ span.2)
    (ordered : running.Pairwise fun first second => first.2 ≤ second.1) :
    (coverOne left running).1 = ((secondsOfSpan left ∩ secondsOf running).card : Int) ∧
      (∀ second, timestamp left.2 ≤ second →
        (second ∈ secondsOf (coverOne left running).2 ↔ second ∈ secondsOf running)) ∧
      (coverOne left running).2.Sublist running := by
  induction running with
  | nil => simp [coverOne, secondsOf, cover]
  | cons right rest ih =>
    obtain ⟨first, restOrdered⟩ := pairwise_cons.mp ordered
    have rightWhole := whole right mem_cons_self
    have restWhole (span : Span) (member : span ∈ rest) : WholeSpan span :=
      whole span (mem_cons_of_mem _ member)
    have restProper (span : Span) (member : span ∈ rest) : span.1 ≤ span.2 :=
      proper span (mem_cons_of_mem _ member)
    -- What comes after a running span starts where it ends, or later.
    have later (second : Int) (inRest : second ∈ secondsOf rest) :
        timestamp right.2 ≤ second := by
      obtain ⟨span, member, starts, -⟩ := (mem_secondsOf restWhole).mp inRest
      have begins := timestamp_mono ((first span member).trans starts)
      rwa [timestamp_fromTimestamp] at begins
    have added := overlapSeconds_eq leftWhole rightWhole
    simp only [coverOne]
    split
    next reaches =>
      have after := timestamp_mono reaches.le
      refine ⟨?_, fun second _ => Iff.rfl, List.Sublist.refl _⟩
      have same : secondsOfSpan left ∩ Finset.Ico (timestamp right.1) (timestamp right.2) =
          secondsOfSpan left ∩ secondsOf (right :: rest) := by
        ext second
        simp only [secondsOfSpan, secondsOf_cons, Finset.mem_inter, Finset.mem_union,
          Finset.mem_Ico]
        constructor
        · rintro ⟨inLeft, inRight⟩
          exact ⟨inLeft, Or.inl inRight⟩
        · rintro ⟨inLeft, inRight | inRest⟩
          · exact ⟨inLeft, inRight⟩
          · have starts := later second inRest
            omega
      rw [added, ← same]
      rfl
    next ends =>
      have before := timestamp_mono (not_lt.mp ends)
      obtain ⟨counts, keeps, sub⟩ := ih restWhole restProper restOrdered
      refine ⟨?_, ?_, sub.cons _⟩
      · have apart : Disjoint
            (secondsOfSpan left ∩ Finset.Ico (timestamp right.1) (timestamp right.2))
            (secondsOfSpan left ∩ secondsOf rest) := by
          rw [Finset.disjoint_left]
          intro second inRight inRest
          have starts := later second (Finset.mem_inter.mp inRest).2
          have finishes := Finset.mem_Ico.mp (Finset.mem_inter.mp inRight).2
          omega
        rw [counts, added, secondsOf_cons, Finset.inter_union_distrib_left,
          Finset.card_union_of_disjoint apart, Nat.cast_add]
        rfl
      · intro second past
        rw [keeps second past, secondsOf_cons, Finset.mem_union, Finset.mem_Ico]
        constructor
        · exact Or.inr
        · rintro (inRight | inRest)
          · omega
          · exact inRest

/-- The two-pointer loop counts the seconds the two lists share. -/
theorem coveredLoop_counts (seenWhole : ∀ span ∈ seen, WholeSpan span)
    (seenOrdered : seen.Pairwise fun first second => first.2 ≤ second.1)
    (seenProper : ∀ span ∈ seen, span.1 ≤ span.2) (whole : ∀ span ∈ running, WholeSpan span)
    (proper : ∀ span ∈ running, span.1 ≤ span.2)
    (ordered : running.Pairwise fun first second => first.2 ≤ second.1) :
    coveredLoop seen running = ((secondsOf seen ∩ secondsOf running).card : Int) := by
  induction seen generalizing running with
  | nil => simp [coveredLoop, secondsOf, cover]
  | cons left rest ih =>
    obtain ⟨first, restOrdered⟩ := pairwise_cons.mp seenOrdered
    have restWhole (span : Span) (member : span ∈ rest) : WholeSpan span :=
      seenWhole span (mem_cons_of_mem _ member)
    have restProper (span : Span) (member : span ∈ rest) : span.1 ≤ span.2 :=
      seenProper span (mem_cons_of_mem _ member)
    have later (second : Int) (inRest : second ∈ secondsOf rest) :
        timestamp left.2 ≤ second := by
      obtain ⟨span, member, starts, -⟩ := (mem_secondsOf restWhole).mp inRest
      have begins := timestamp_mono ((first span member).trans starts)
      rwa [timestamp_fromTimestamp] at begins
    obtain ⟨counts, keeps, sub⟩ :=
      coverOne_counts (seenWhole left mem_cons_self) whole proper ordered
    have goesOn := ih restWhole restOrdered restProper
      (fun span member => whole span (sub.mem member))
      (fun span member => proper span (sub.mem member)) (ordered.sublist sub)
    have same : secondsOf rest ∩ secondsOf (coverOne left running).2 =
        secondsOf rest ∩ secondsOf running := by
      ext second
      simp only [Finset.mem_inter]
      constructor
      · rintro ⟨inRest, inRunning⟩
        exact ⟨inRest, (keeps second (later second inRest)).mp inRunning⟩
      · rintro ⟨inRest, inRunning⟩
        exact ⟨inRest, (keeps second (later second inRest)).mpr inRunning⟩
    have apart : Disjoint (secondsOfSpan left ∩ secondsOf running)
        (secondsOf rest ∩ secondsOf running) := by
      rw [Finset.disjoint_left]
      intro second inLeft inRest
      have starts := later second (Finset.mem_inter.mp inRest).1
      have finishes := Finset.mem_Ico.mp (Finset.mem_inter.mp inLeft).1
      omega
    simp only [coveredLoop]
    rw [counts, goesOn, same, secondsOf_cons, Finset.union_inter_distrib_right,
      ← secondsOfSpan, Finset.card_union_of_disjoint apart, Nat.cast_add]

end Counting

section Coverage

/-- A confident dwell was going on at a second. -/
def SeenAt (reported : List ReportedDwell) (second : Int) : Prop :=
  ∃ dwell ∈ reported, isConfident dwell.category dwell.classificationStatus
    dwell.classificationConfidence = true ∧
      dwell.occurredAt ≤ fromTimestamp second ∧ fromTimestamp second < dwell.endedAt

/-- A closed row was open at a second. -/
def RunningAt (observations : List (WorkBlockObservation .nanoseconds)) (second : Int) : Prop :=
  ∃ row ∈ observations, ∃ endedAt, row.endedAt = some endedAt ∧
    row.occurredAt ≤ fromTimestamp second ∧ fromTimestamp second < endedAt

open Classical in
/-- The seconds of a window that lie in a confident dwell and in a closed row. -/
noncomputable def coveredSeconds (reported : List ReportedDwell)
    (observations : List (WorkBlockObservation .nanoseconds)) (first last : Int) : Finset Int :=
  (Finset.Ico first last).filter fun second =>
    SeenAt reported second ∧ RunningAt observations second

variable {reported others : List ReportedDwell}
  {observations otherRows : List (WorkBlockObservation .nanoseconds)} {first last second : Int}

theorem mem_coveredSeconds : second ∈ coveredSeconds reported observations first last ↔
      (first ≤ second ∧ second < last) ∧ SeenAt reported second ∧
        RunningAt observations second := by
  simp [coveredSeconds]

theorem coveredSeconds_congr (sameDwells : ∀ dwell, dwell ∈ others ↔ dwell ∈ reported)
    (sameRows : ∀ row, row ∈ otherRows ↔ row ∈ observations) :
    coveredSeconds others otherRows first last =
      coveredSeconds reported observations first last := by
  ext second
  simp only [mem_coveredSeconds, SeenAt, RunningAt, sameDwells, sameRows]

theorem card_coveredSeconds_le :
    ((coveredSeconds reported observations first last).card : Int) ≤ max (last - first) 0 := by
  classical
  have fewer := Finset.card_filter_le (Finset.Ico first last)
    fun second => SeenAt reported second ∧ RunningAt observations second
  rw [Int.card_Ico] at fewer
  simp only [coveredSeconds]
  omega

theorem wholeSpan_dwell {dwell : ReportedDwell} (whole : WholeSecond dwell.occurredAt) :
    WholeSpan (dwell.occurredAt, dwell.endedAt) := by
  obtain ⟨start, isStart⟩ := whole
  refine ⟨⟨start, isStart⟩, start + dwell.durationSeconds, ?_⟩
  rw [ReportedDwell.endedAt, isStart, fromTimestamp_add_seconds]

def confidentSpans (reported : List ReportedDwell) : List Span :=
  (reported.filter fun dwell =>
    isConfident dwell.category dwell.classificationStatus dwell.classificationConfidence).map
      fun dwell => (dwell.occurredAt, dwell.endedAt)

theorem reportedCoverageSeconds_eq (startedAt endedAt : Int) :
    reportedCoverageSeconds reported observations startedAt endedAt =
      (min (max (coveredLoop (mergedSpans (confidentSpans reported) startedAt endedAt)
        (mergedSpans (closedSpans observations) startedAt endedAt)) 0) u32Max).toNat :=
  rfl

theorem covers_confidentSpans : (∃ span ∈ confidentSpans reported,
      span.1 ≤ fromTimestamp second ∧ fromTimestamp second < span.2) ↔ SeenAt reported second := by
  simp only [confidentSpans, mem_map, mem_filter, SeenAt]
  constructor
  · rintro ⟨_, ⟨dwell, ⟨member, confident⟩, rfl⟩, inside⟩
    exact ⟨dwell, member, confident, inside⟩
  · rintro ⟨dwell, member, confident, inside⟩
    exact ⟨_, ⟨dwell, ⟨member, confident⟩, rfl⟩, inside⟩

theorem covers_closedSpans : (∃ span ∈ closedSpans observations,
      span.1 ≤ fromTimestamp second ∧ fromTimestamp second < span.2) ↔
        RunningAt observations second := by
  simp only [closedSpans, mem_filterMap, Option.map_eq_some_iff, RunningAt]
  constructor
  · rintro ⟨_, ⟨row, member, endedAt, isEnded, rfl⟩, inside⟩
    exact ⟨row, member, endedAt, isEnded, inside⟩
  · rintro ⟨row, member, endedAt, isEnded, inside⟩
    exact ⟨_, ⟨row, member, endedAt, isEnded, rfl⟩, inside⟩

theorem coveredLoop_window (dwellsWhole : ∀ dwell ∈ reported, WholeSecond dwell.occurredAt)
    (rowsWhole : ∀ span ∈ closedSpans observations, WholeSpan span) :
    coveredLoop (mergedSpans (confidentSpans reported) (fromTimestamp first) (fromTimestamp last))
        (mergedSpans (closedSpans observations) (fromTimestamp first) (fromTimestamp last)) =
      ((coveredSeconds reported observations first last).card : Int) := by
  have seenWhole (span : Span) (member : span ∈ confidentSpans reported) : WholeSpan span := by
    obtain ⟨dwell, isConfident, rfl⟩ := mem_map.mp member
    exact wholeSpan_dwell (dwellsWhole dwell (mem_filter.mp isConfident).1)
  have mergedSeenWhole := whole_mergedSpans (fromTimestamp first) (fromTimestamp last) seenWhole
    ⟨first, rfl⟩ ⟨last, rfl⟩
  have mergedRowsWhole := whole_mergedSpans (fromTimestamp first) (fromTimestamp last) rowsWhole
    ⟨first, rfl⟩ ⟨last, rfl⟩
  obtain ⟨seenOrdered, seenProper⟩ :=
    mergedSpans_ordered (confidentSpans reported) (fromTimestamp first) (fromTimestamp last)
  obtain ⟨rowsOrdered, rowsProper⟩ :=
    mergedSpans_ordered (closedSpans observations) (fromTimestamp first) (fromTimestamp last)
  rw [coveredLoop_counts mergedSeenWhole seenOrdered seenProper mergedRowsWhole rowsProper
    rowsOrdered]
  congr 2
  ext second
  rw [Finset.mem_inter, mem_secondsOf mergedSeenWhole, mem_secondsOf mergedRowsWhole,
    covers_mergedSpans, covers_mergedSpans, covers_confidentSpans, covers_closedSpans,
    mem_coveredSeconds, fromTimestamp_le, fromTimestamp_lt]
  tauto

/-- Reported coverage is the number of seconds of the window in a confident dwell and in a closed
row, up to the largest 32-bit number.  It is the same for lists of the same dwells and rows, and
never longer than the window. -/
theorem coverage_counts_seconds
    (dwellsWhole : ∀ dwell ∈ reported, WholeSecond dwell.occurredAt)
    (rowsWhole : ∀ row ∈ observations, WholeSecond row.occurredAt ∧
      ∀ endedAt, row.endedAt = some endedAt → WholeSecond endedAt) :
    reportedCoverageSeconds reported observations (fromTimestamp first) (fromTimestamp last) =
        min (coveredSeconds reported observations first last).card u32Max ∧
      (∀ others otherRows, (∀ dwell, dwell ∈ others ↔ dwell ∈ reported) →
        (∀ row, row ∈ otherRows ↔ row ∈ observations) →
          reportedCoverageSeconds others otherRows (fromTimestamp first) (fromTimestamp last) =
            reportedCoverageSeconds reported observations (fromTimestamp first)
              (fromTimestamp last)) ∧
      (reportedCoverageSeconds reported observations (fromTimestamp first) (fromTimestamp last) :
        Int) ≤ max (last - first) 0 := by
  have counts (dwells : List ReportedDwell) (rows : List (WorkBlockObservation .nanoseconds))
      (dwellsWhole : ∀ dwell ∈ dwells, WholeSecond dwell.occurredAt)
      (rowsWhole : ∀ row ∈ rows, WholeSecond row.occurredAt ∧
        ∀ endedAt, row.endedAt = some endedAt → WholeSecond endedAt) :
      reportedCoverageSeconds dwells rows (fromTimestamp first) (fromTimestamp last) =
        min (coveredSeconds dwells rows first last).card u32Max := by
    have spansWhole (span : Span) (member : span ∈ closedSpans rows) : WholeSpan span := by
      simp only [closedSpans, mem_filterMap, Option.map_eq_some_iff] at member
      obtain ⟨row, isRow, endedAt, isEnded, rfl⟩ := member
      exact ⟨(rowsWhole row isRow).1, (rowsWhole row isRow).2 endedAt isEnded⟩
    have window := @coveredLoop_window dwells rows first last dwellsWhole spansWhole
    rw [reportedCoverageSeconds_eq, window]
    omega
  refine ⟨counts reported observations dwellsWhole rowsWhole, ?_, ?_⟩
  · intro others otherRows sameDwells sameRows
    rw [counts reported observations dwellsWhole rowsWhole,
      counts others otherRows
        (fun dwell member => dwellsWhole dwell ((sameDwells dwell).mp member))
        (fun row member => rowsWhole row ((sameRows row).mp member)),
      coveredSeconds_congr sameDwells sameRows]
  · have fewer := @card_coveredSeconds_le reported observations first last
    rw [counts reported observations dwellsWhole rowsWhole]
    omega

/-- One dwell inside an open row, reported twice. -/
theorem repeated_dwell_counts_once :
    reportedCoverageSeconds
        [⟨fromTimestamp 10, 20, "work", .classified, .high⟩,
          ⟨fromTimestamp 10, 20, "work", .classified, .high⟩]
        [⟨fromTimestamp 0, some (fromTimestamp 25), "work", .classified, .high⟩]
        (fromTimestamp 5) (fromTimestamp 100) =
      min (coveredSeconds
        [⟨fromTimestamp 10, 20, "work", .classified, .high⟩,
          ⟨fromTimestamp 10, 20, "work", .classified, .high⟩]
        [⟨fromTimestamp 0, some (fromTimestamp 25), "work", .classified, .high⟩] 5 100).card
          u32Max := by
  refine (coverage_counts_seconds ?_ ?_).1
  · intro dwell member
    simp only [mem_cons, not_mem_nil, or_false, or_self] at member
    exact ⟨10, congrArg ReportedDwell.occurredAt member⟩
  · intro row member
    rw [mem_singleton] at member
    subst member
    refine ⟨⟨0, rfl⟩, fun endedAt isEnded => ⟨25, ?_⟩⟩
    exact (Option.some.inj isEnded).symm

/-- A window of more seconds than a 32-bit number holds is not counted out. -/
theorem longest_coverage_is_cut :
    reportedCoverageSeconds
        [⟨fromTimestamp 0, 4294967295, "work", .classified, .high⟩,
          ⟨fromTimestamp 4294967295, 1, "work", .classified, .high⟩]
        [⟨fromTimestamp 0, some (fromTimestamp 4294967296), "work", .classified, .high⟩]
        (fromTimestamp 0) (fromTimestamp 4294967296) ≠
      (coveredSeconds
        [⟨fromTimestamp 0, 4294967295, "work", .classified, .high⟩,
          ⟨fromTimestamp 4294967295, 1, "work", .classified, .high⟩]
        [⟨fromTimestamp 0, some (fromTimestamp 4294967296), "work", .classified, .high⟩]
        0 4294967296).card := by
  set dwells : List ReportedDwell :=
    [⟨fromTimestamp 0, 4294967295, "work", .classified, .high⟩,
      ⟨fromTimestamp 4294967295, 1, "work", .classified, .high⟩] with areDwells
  set rows : List (WorkBlockObservation .nanoseconds) :=
    [⟨fromTimestamp 0, some (fromTimestamp 4294967296), "work", .classified, .high⟩] with areRows
  have all : coveredSeconds dwells rows 0 4294967296 = Finset.Ico 0 4294967296 := by
    ext second
    rw [mem_coveredSeconds, Finset.mem_Ico]
    refine ⟨And.left, fun inside => ⟨inside, ?_, ?_⟩⟩
    · by_cases early : second < 4294967295
      · refine ⟨_, mem_cons_self, by decide, ?_⟩
        simp only [ReportedDwell.endedAt, fromTimestamp, Duration.seconds]
        omega
      · refine ⟨_, mem_cons_of_mem _ (mem_singleton_self _), by decide, ?_⟩
        simp only [ReportedDwell.endedAt, fromTimestamp, Duration.seconds]
        omega
    · refine ⟨_, mem_singleton_self _, _, rfl, ?_⟩
      simp only [fromTimestamp]
      omega
  have capped : reportedCoverageSeconds dwells rows (fromTimestamp 0) (fromTimestamp 4294967296) ≤
      u32Max := by
    rw [reportedCoverageSeconds_eq]
    omega
  rw [all, Int.card_Ico]
  have isMax : u32Max = 4294967295 := rfl
  omega

end Coverage

end Velvt
