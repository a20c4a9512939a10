import Mathlib.Algebra.Order.BigOperators.Group.List
import Mathlib.Tactic.IntervalCases
import Velvt.DailyChart
import Velvt.SeenTimeline

/-!
# What the daily chart conserves

The active time of a day is summed over its segments and the time of its chart over its events.
-/

namespace Velvt.Dashboard

open List

section System

variable {event : RawEventEntry}

theorem toLower_toUpper (letter : Char) : letter.toUpper.toLower = letter.toLower := by
  by_cases lower : 97 ≤ letter.toNat ∧ letter.toNat ≤ 122
  · obtain ⟨first, last⟩ := lower
    rw [← Char.ofNat_toNat letter]
    interval_cases letter.toNat <;> rfl
  · have kept : letter.toUpper = letter := dif_neg lower
    rw [kept]

theorem toAsciiLowercase_toAsciiUppercase (text : String) :
    toAsciiLowercase (toAsciiUppercase text) = toAsciiLowercase text := by
  rw [toAsciiLowercase, toAsciiUppercase, String.toList_ofList, map_map, toAsciiLowercase]
  have letters : Char.toLower ∘ Char.toUpper = Char.toLower := funext toLower_toUpper
  rw [letters]

theorem isSystem_safeCategory : eqIgnoreAsciiCase (safeCategory event) "SYSTEM" =
    (event.confident && eqIgnoreAsciiCase event.category "SYSTEM") := by
  rw [safeCategory]
  cases event.confident with
  | true =>
    rw [if_pos rfl, eqIgnoreAsciiCase, toAsciiLowercase_toAsciiUppercase, Bool.true_and]
    rfl
  | false =>
    rw [if_neg Bool.false_ne_true, Bool.false_and]
    decide +kernel

end System

section Measures

def measures (start finish : Int) : List RawEventEntry → List (RawEventEntry × Nat)
  | [] => []
  | event :: later =>
    match measuredSpan event (firstInstant later) start finish with
    | none => measures start finish later
    | some span => (event, spanSeconds span) :: measures start finish later

def countedSeconds (counted : RawEventEntry → Bool) (entries : List (RawEventEntry × Nat)) : Nat :=
  ((entries.filter fun entry => counted entry.1).map Prod.snd).sum

/-- The segments begin on whole seconds. -/
def BeginWhole (segments : List LocalTimelineSegment) : Prop :=
  ∀ segment ∈ segments, (1000000000 : Int) ∣ segment.startedAt

variable {counted others : RawEventEntry → Bool} {entries : List (RawEventEntry × Nat)}
  {event : RawEventEntry} {events : List RawEventEntry} {segments front : List LocalTimelineSegment}
  {segment : LocalTimelineSegment} {span : Int × Int} {start finish : Int} {seconds : Nat}

theorem countedSeconds_cons : countedSeconds counted ((event, seconds) :: entries) =
    (if counted event then seconds else 0) + countedSeconds counted entries := by
  rw [countedSeconds, filter_cons]
  split
  next => rfl
  next => rw [Nat.zero_add]; rfl

theorem spanSeconds_add {first middle last : Int} (startWhole : (1000000000 : Int) ∣ first)
    (middleWhole : (1000000000 : Int) ∣ middle) (before : first ≤ middle) (after : middle ≤ last) :
    spanSeconds (first, last) = spanSeconds (first, middle) + spanSeconds (middle, last) := by
  simp only [spanSeconds, numSeconds]
  rw [Int.tdiv_eq_ediv_of_nonneg (by omega), Int.tdiv_eq_ediv_of_nonneg (by omega),
    Int.tdiv_eq_ediv_of_nonneg (by omega)]
  omega

theorem activeSeconds_concat : activeSeconds (segments ++ [segment]) = activeSeconds segments +
      if eqIgnoreAsciiCase segment.category "SYSTEM" then 0
      else spanSeconds (segment.startedAt, segment.endedAt) := by
  rw [activeSeconds, filter_append, map_append, sum_append]
  cases isSystem : eqIgnoreAsciiCase segment.category "SYSTEM" with
  | true => simp [activeSeconds, isSystem]
  | false => simp [activeSeconds, isSystem, segmentSeconds, spanSeconds]

theorem activeSeconds_addSpan (ended : ∀ segment ∈ segments, segment.endedAt ≤ span.1)
    (proper : ∀ segment ∈ segments, segment.startedAt < segment.endedAt) (lt : span.1 < span.2)
    (whole : BeginWhole segments) (spanWhole : (1000000000 : Int) ∣ span.1) :
    activeSeconds (addSpan segments event span) = activeSeconds segments +
        (if eqIgnoreAsciiCase (safeCategory event) "SYSTEM" then 0 else spanSeconds span) ∧
      BeginWhole (addSpan segments event span) := by
  rcases addSpan_cases segments event span with
    ⟨fresh, added, start_eq, finish_eq, category_eq⟩ |
    ⟨front, previous, extended, rfl, added, sameCategory, touches, start_eq, category_eq, finish_eq⟩
  · constructor
    · rw [added, activeSeconds_concat, start_eq, finish_eq, category_eq]
    · rw [added]
      intro segment isSegment
      rcases mem_append.mp isSegment with before | isLast
      · exact whole segment before
      · rw [mem_singleton.mp isLast, start_eq]
        exact spanWhole
  · have isLast : previous ∈ front ++ [previous] := mem_append_right _ mem_cons_self
    have endsThere : previous.endedAt = span.1 := le_antisymm (ended previous isLast) touches
    have previousProper := proper previous isLast
    have longer : max previous.endedAt span.2 = span.2 := max_eq_right (by omega)
    constructor
    · rw [added, activeSeconds_concat, activeSeconds_concat, start_eq, finish_eq, category_eq,
        sameCategory, longer, endsThere, Nat.add_assoc]
      rw [spanSeconds_add (whole previous isLast) spanWhole (by omega) lt.le]
      split
      next => rfl
      next => rfl
    · rw [added]
      intro segment isSegment
      rcases mem_append.mp isSegment with before | isExtended
      · exact whole segment (mem_append_left _ before)
      · rw [mem_singleton.mp isExtended, start_eq]
        exact whole previous isLast

theorem activeSeconds_addSegments (startWhole : (1000000000 : Int) ∣ start)
    (ordered : Ordered events) (segmented : Segmented segments start finish)
    (ends : EndBefore segments start events) (whole : BeginWhole segments) :
    activeSeconds (addSegments start finish segments events) = activeSeconds segments +
      countedSeconds (fun event => !eqIgnoreAsciiCase (safeCategory event) "SYSTEM")
        (measures start finish events) := by
  induction events generalizing segments with
  | nil => rfl
  | cons event later ih =>
    have laterOrdered : Ordered later := (pairwise_cons.mp ordered).2
    rw [addSegments, measures]
    cases isSpan : measuredSpan event (firstInstant later) start finish with
    | none => exact ih laterOrdered segmented (ends.tail ordered) whole
    | some span =>
      obtain ⟨added, laterEnds⟩ := segmented.step ends isSpan
      obtain ⟨lt, start_eq, -⟩ := measuredSpan_eq_some_iff.mp isSpan
      have spanWhole : (1000000000 : Int) ∣ span.1 := by
        rw [start_eq]
        rcases max_choice event.instant start with isEvent | isStart
        · rw [isEvent]
          exact Dvd.intro_left event.occurredAt rfl
        · rw [isStart]
          exact startWhole
      obtain ⟨adds, addedWhole⟩ := @activeSeconds_addSpan event segments span
        (ends.le_span isSpan) segmented.proper lt whole spanWhole
      have others := ih laterOrdered added laterEnds addedWhole
      rw [adds] at others
      rw [countedSeconds_cons, others, Nat.add_assoc]
      cases eqIgnoreAsciiCase (safeCategory event) "SYSTEM" with
      | true => rfl
      | false => rfl

theorem countedSeconds_le (fewer : ∀ event, counted event = true → others event = true) :
    countedSeconds counted entries ≤ countedSeconds others entries ∧
      (countedSeconds counted entries = countedSeconds others entries ↔
        ∀ entry ∈ entries, others entry.1 = true → counted entry.1 = true ∨ entry.2 = 0) := by
  induction entries with
  | nil => exact ⟨le_rfl, by simp [countedSeconds]⟩
  | cons entry entries ih =>
    obtain ⟨event, seconds⟩ := entry
    obtain ⟨le, same⟩ := ih
    rw [countedSeconds_cons, countedSeconds_cons, forall_mem_cons, ← same]
    have implied := fewer event
    cases isCounted : counted event with
    | true =>
      rw [implied isCounted]
      simp [le]
    | false =>
      cases isOther : others event with
      | true =>
        simp only [if_true, Bool.false_eq_true, if_false, forall_const, false_or]
        omega
      | false => simp [le]

end Measures

section Buckets

def totalSeconds (buckets : List DisplayBucket) : Nat := (buckets.map (·.seconds)).sum

variable {texts : ChartTexts} {map : BucketMap} {key : String × String} {fresh : DisplayBucket}
  {buckets selected : List DisplayBucket} {events : List RawEventEntry} {start finish : Int}
  {active seconds otherSeconds : Nat} {confidence : ClassificationConfidence}

theorem totalSeconds_append {others : List DisplayBucket} :
    totalSeconds (buckets ++ others) = totalSeconds buckets + totalSeconds others := by
  rw [totalSeconds, map_append, sum_append]
  rfl

theorem totalSeconds_perm {others : List DisplayBucket} (perm : buckets.Perm others) :
    totalSeconds buckets = totalSeconds others :=
  (perm.map _).sum_eq

theorem totalSeconds_upsertBucket (isFresh : fresh.seconds = 0) :
    totalSeconds ((upsertBucket key fresh (DisplayBucket.grow seconds confidence) map).map
      Prod.snd) = totalSeconds (map.map Prod.snd) + seconds := by
  induction map with
  | nil => simp [upsertBucket, totalSeconds, DisplayBucket.grow, isFresh]
  | cons entry rest ih =>
    obtain ⟨other, bucket⟩ := entry
    rw [upsertBucket]
    rw [totalSeconds, totalSeconds, map_map, map_map] at ih
    split
    · simp only [totalSeconds, map_cons, sum_cons, DisplayBucket.grow, map_map]
      omega
    · split
      · simp only [totalSeconds, map_cons, sum_cons, DisplayBucket.grow, isFresh, map_map]
        omega
      · simp only [totalSeconds, map_cons, sum_cons, map_map]
        omega

theorem totalSeconds_addBuckets :
    totalSeconds ((addBuckets texts start finish map events).map Prod.snd) =
      totalSeconds (map.map Prod.snd) +
        countedSeconds (fun event => !eqIgnoreAsciiCase event.category "SYSTEM")
          (measures start finish events) := by
  induction events generalizing map with
  | nil => rfl
  | cons event later ih =>
    rw [addBuckets, measures]
    cases measuredSpan event (firstInstant later) start finish with
    | none => exact ih
    | some span =>
      dsimp only
      rw [countedSeconds_cons]
      split
      next skipped =>
        rw [ih]
        rcases skipped with isZero | isSystem
        · simp [isZero]
        · simp [isSystem]
      next counted =>
        rw [not_or] at counted
        rw [ih, bucketEvent, totalSeconds_upsertBucket rfl, Nat.add_assoc]
        simp [counted.2]

theorem selectBuckets_spec (few : selected.length ≤ maxDisplayBuckets) :
    totalSeconds (selectBuckets active selected otherSeconds buckets).1 +
        (selectBuckets active selected otherSeconds buckets).2 =
      totalSeconds selected + otherSeconds + totalSeconds buckets ∧
    (selectBuckets active selected otherSeconds buckets).1.length ≤ maxDisplayBuckets := by
  induction buckets generalizing selected otherSeconds with
  | nil => exact ⟨rfl, few⟩
  | cons bucket rest ih =>
    rw [selectBuckets]
    have split : totalSeconds (bucket :: rest) = bucket.seconds + totalSeconds rest := rfl
    split
    next =>
      obtain ⟨total, short⟩ := @ih selected (otherSeconds + bucket.seconds) few
      exact ⟨by omega, short⟩
    next named =>
      have room : (selected ++ [bucket]).length ≤ maxDisplayBuckets := by
        rw [length_append, length_singleton]
        omega
      obtain ⟨total, short⟩ := @ih (selected ++ [bucket]) otherSeconds room
      have one : totalSeconds [bucket] = bucket.seconds := by simp [totalSeconds]
      rw [totalSeconds_append, one] at total
      exact ⟨by omega, short⟩

theorem displayBuckets_spec : totalSeconds (displayBuckets active buckets) = totalSeconds buckets ∧
      (displayBuckets active buckets).length ≤ maxDisplayBuckets + 1 := by
  obtain ⟨total, short⟩ := @selectBuckets_spec buckets [] active 0 (Nat.zero_le _)
  rcases isSelected : selectBuckets active [] 0 buckets with ⟨selected, otherSeconds⟩
  have empty : totalSeconds [] = 0 := rfl
  rw [isSelected] at total short
  dsimp only at total short
  rw [displayBuckets, isSelected]
  dsimp only
  split
  next =>
    have other : totalSeconds [otherBucket otherSeconds] = otherSeconds := by
      simp [totalSeconds, otherBucket]
    rw [totalSeconds_append, other, length_append, length_singleton]
    omega
  next => omega

end Buckets

section Chart

variable {texts : ChartTexts} {date start finish : Int} {events : List RawEventEntry}
  {isToday truncated : Bool} {active index : Nat} {buckets : List DisplayBucket}

theorem length_bucketPercentages : (bucketPercentages buckets active).length = buckets.length := by
  rw [bucketPercentages]
  split
  · exact length_replicate
  · rw [LargestRemainder.length_apportion, length_map]

def chartBuckets (texts : ChartTexts) (events : List RawEventEntry) (start finish : Int) :
    List DisplayBucket :=
  displayBuckets (activeSeconds (buildSegments events start finish))
    (dayBuckets texts events start finish)

theorem map_shares : (aggregateDay texts date events start finish isToday truncated).segments.map
        (fun segment => (segment.durationSeconds, segment.percentage)) =
      ((chartBuckets texts events start finish).map (·.seconds)).zip
        (bucketPercentages (chartBuckets texts events start finish)
          (activeSeconds (buildSegments events start finish))) := by
  rw [zip_map_left]
  simp only [aggregateDay, map_map]
  have forget : ∀ pairs : List (DisplayBucket × Nat),
      pairs.zipIdx.map (Prod.map (·.seconds) id ∘ Prod.fst) =
        pairs.map (Prod.map (·.seconds) id) := by
    intro pairs
    rw [← map_map, zipIdx_map_fst]
  exact forget _

theorem map_durationSeconds :
    (aggregateDay texts date events start finish isToday truncated).segments.map
        (·.durationSeconds) = (chartBuckets texts events start finish).map (·.seconds) := by
  have firsts := congrArg (List.map Prod.fst)
    (@map_shares texts date start finish events isToday truncated)
  rw [map_map, map_fst_zip] at firsts
  · exact firsts
  · rw [length_map, length_bucketPercentages]

theorem map_percentage :
    (aggregateDay texts date events start finish isToday truncated).segments.map (·.percentage) =
      bucketPercentages (chartBuckets texts events start finish)
        (activeSeconds (buildSegments events start finish)) := by
  have seconds := congrArg (List.map Prod.snd)
    (@map_shares texts date start finish events isToday truncated)
  rw [map_map, map_snd_zip] at seconds
  · exact seconds
  · rw [length_map, length_bucketPercentages]

theorem totalSeconds_chartBuckets : totalSeconds (chartBuckets texts events start finish) =
    countedSeconds (fun event => !eqIgnoreAsciiCase event.category "SYSTEM")
      (measures start finish (events.insertionSort Earlier)) := by
  rw [chartBuckets, displayBuckets_spec.1, dayBuckets,
    totalSeconds_perm (perm_insertionSort LargerBucket _), totalSeconds_addBuckets]
  exact Nat.zero_add _

theorem activeSeconds_buildSegments (startWhole : (1000000000 : Int) ∣ start) :
    activeSeconds (buildSegments events start finish) =
      countedSeconds (fun event => !eqIgnoreAsciiCase (safeCategory event) "SYSTEM")
        (measures start finish (events.insertionSort Earlier)) := by
  have ordered : Ordered (events.insertionSort Earlier) := pairwise_insertionSort _ _
  rw [buildSegments, activeSeconds_addSegments startWhole ordered segmented_nil endBefore_nil
    fun segment isSegment => absurd isSegment not_mem_nil]
  exact Nat.zero_add _

end Chart

section Conservation

/-- The chart of a day conserves its time.  A percentage is within one of a share where their
hundredfold seconds are no further apart than the active time. -/
structure ConservesTime (day : LocalDailyActivityDay) : Prop where
  durations : (day.segments.map (·.durationSeconds)).sum = day.activeSeconds
  percentages : 0 < day.activeSeconds → (day.segments.map (·.percentage)).sum = 100
  within : 0 < day.activeSeconds → ∀ segment ∈ day.segments,
    segment.percentage * day.activeSeconds ≤ segment.durationSeconds * 100 + day.activeSeconds ∧
      segment.durationSeconds * 100 ≤ segment.percentage * day.activeSeconds + day.activeSeconds
  few : day.segments.length ≤ 13

/-- The summary of a day is of the same time as its chart. -/
def SameTime (summary : LocalDailySummary) (day : LocalDailyActivityDay) : Prop :=
  summary.status = .noData ∧ day.activeSeconds < 60 ∨
    summary.activeSeconds = day.activeSeconds ∧
      summary.focusedSeconds ≤ day.activeSeconds ∧
      summary.longestUninterruptedSeconds ≤ day.activeSeconds

/-- Every event of SYSTEM that has a whole second of the day is confidently classified. -/
def SystemIsConfident (events : List RawEventEntry) (start finish : Int) : Prop :=
  ∀ entry ∈ measures start finish (events.insertionSort Earlier),
    eqIgnoreAsciiCase entry.1.category "SYSTEM" = true → entry.1.confident = true ∨ entry.2 = 0

variable {texts : ChartTexts} {date dayStart finish : Int} {events : List RawEventEntry}
  {isToday truncated : Bool} {segments : List LocalTimelineSegment}

theorem totalSeconds_chartBuckets_le :
    totalSeconds (chartBuckets texts events (fromTimestamp dayStart) finish) ≤
        activeSeconds (buildSegments events (fromTimestamp dayStart) finish) ∧
      (totalSeconds (chartBuckets texts events (fromTimestamp dayStart) finish) =
          activeSeconds (buildSegments events (fromTimestamp dayStart) finish) ↔
        SystemIsConfident events (fromTimestamp dayStart) finish) := by
  have startWhole : (1000000000 : Int) ∣ fromTimestamp dayStart := Dvd.intro_left dayStart rfl
  rw [totalSeconds_chartBuckets, activeSeconds_buildSegments startWhole]
  have fewer : ∀ event : RawEventEntry, (!eqIgnoreAsciiCase event.category "SYSTEM") = true →
      (!eqIgnoreAsciiCase (safeCategory event) "SYSTEM") = true := by
    intro event notSystem
    rw [isSystem_safeCategory]
    simp_all
  obtain ⟨le, same⟩ := @countedSeconds_le _ _
    (measures (fromTimestamp dayStart) finish (events.insertionSort Earlier)) fewer
  refine ⟨le, same.trans ?_⟩
  apply forall₂_congr
  intro entry _
  rw [isSystem_safeCategory]
  cases eqIgnoreAsciiCase entry.1.category "SYSTEM" with
  | true => cases entry.1.confident <;> simp
  | false => simp

variable {start : Int}

theorem percentages_within {segment : LocalDailyActivitySegment}
    (positive : 0 < activeSeconds (buildSegments events start finish)) (isSegment : segment ∈
      (aggregateDay texts date events start finish isToday truncated).segments) :
    segment.percentage * activeSeconds (buildSegments events start finish) ≤
        segment.durationSeconds * 100 + activeSeconds (buildSegments events start finish) ∧
      segment.durationSeconds * 100 ≤
        segment.percentage * activeSeconds (buildSegments events start finish) +
          activeSeconds (buildSegments events start finish) := by
  have isShare : (segment.durationSeconds, segment.percentage) ∈
      (aggregateDay texts date events start finish isToday truncated).segments.map
        fun segment => (segment.durationSeconds, segment.percentage) :=
    mem_map_of_mem isSegment
  rw [map_shares] at isShare
  obtain ⟨index, isIndex⟩ := mem_iff_getElem?.mp isShare
  obtain ⟨isSeconds, isPercentage⟩ := List.getElem?_zip_eq_some.mp isIndex
  rw [bucketPercentages, if_neg (by omega)] at isPercentage
  obtain ⟨weight, isWeight, above, below⟩ :=
    LargestRemainder.apportion_within positive isPercentage
  rw [isSeconds, Option.mem_some_iff] at isWeight
  subst isWeight
  exact ⟨above, below⟩

theorem aggregateDay_activeSeconds :
    (aggregateDay texts date events start finish isToday truncated).activeSeconds =
      activeSeconds (buildSegments events start finish) := rfl

theorem sum_durationSeconds :
    ((aggregateDay texts date events start finish isToday truncated).segments.map
      (·.durationSeconds)).sum = totalSeconds (chartBuckets texts events start finish) := by
  rw [map_durationSeconds, totalSeconds]

theorem conservesTime_iff :
    ConservesTime (aggregateDay texts date events (fromTimestamp dayStart) finish isToday
      truncated) ↔ SystemIsConfident events (fromTimestamp dayStart) finish := by
  obtain ⟨-, whole⟩ :=
    @totalSeconds_chartBuckets_le texts dayStart finish events
  rw [← whole]
  constructor
  · intro conserves
    rw [← sum_durationSeconds, conserves.durations, aggregateDay_activeSeconds]
  · intro same
    constructor
    · rw [sum_durationSeconds, same, aggregateDay_activeSeconds]
    · intro positive
      rw [aggregateDay_activeSeconds] at positive
      rw [map_percentage, bucketPercentages, if_neg (by omega)]
      exact LargestRemainder.sum_apportion positive same
    · intro positive segment isSegment
      exact percentages_within positive isSegment
    · have lengths := congrArg List.length (@map_durationSeconds texts date
        (fromTimestamp dayStart) finish events isToday truncated)
      rw [length_map, length_map] at lengths
      rw [lengths]
      exact displayBuckets_spec.2

theorem sum_segmentSeconds_le {kept : LocalTimelineSegment → Bool}
    (outside : ∀ segment, kept segment = true →
      eqIgnoreAsciiCase segment.category "SYSTEM" = false) :
    ((segments.filter kept).map segmentSeconds).sum ≤ activeSeconds segments := by
  apply List.Sublist.sum_le_sum
  · apply List.Sublist.map
    apply monotone_filter_right
    intro segment isKept
    rw [outside segment isKept]
    rfl
  · intro _ _
    exact Nat.zero_le _

theorem notSystem_of_confident {segment : LocalTimelineSegment}
    (confident : segmentIsConfident segment = true) :
    eqIgnoreAsciiCase segment.category "SYSTEM" = false := by
  have lowered : toAsciiLowercase "SYSTEM" = "system" := by decide +kernel
  simp only [segmentIsConfident, isConfident, Bool.and_eq_true, Bool.not_eq_true',
    contains_eq_mem, decide_eq_false_iff_not, mem_cons, not_or] at confident
  rw [eqIgnoreAsciiCase, lowered, beq_eq_false_iff_ne]
  exact confident.2.1

theorem activeSeconds_cons {segment : LocalTimelineSegment} : activeSeconds (segment :: segments) =
      (if eqIgnoreAsciiCase segment.category "SYSTEM" then 0 else segmentSeconds segment) +
        activeSeconds segments := by
  rw [activeSeconds, filter_cons]
  cases eqIgnoreAsciiCase segment.category "SYSTEM" with
  | true => simp [activeSeconds]
  | false => simp [activeSeconds]

theorem longestRunFrom_le {longest run bound : Nat} {previous : Option LocalTimelineSegment}
    (longestLe : longest ≤ bound) (runLe : run ≤ bound) :
    longestRunFrom longest run previous segments ≤ bound + activeSeconds segments := by
  induction segments generalizing longest run bound previous with
  | nil => exact longestLe
  | cons segment rest ih =>
    rw [longestRunFrom, activeSeconds_cons]
    split
    next confident =>
      rw [notSystem_of_confident confident, ← Nat.add_assoc]
      -- The run grows by the seconds of the segment, from where it was or from nothing.
      have grown : ∀ continues : Bool, (if continues then run else 0) + segmentSeconds segment ≤
            bound + segmentSeconds segment := by
        intro continues
        cases continues with
        | true => exact Nat.add_le_add_right runLe _
        | false => exact Nat.add_le_add_right (Nat.zero_le _) _
      apply ih
      · exact max_le (longestLe.trans (Nat.le_add_right _ _)) (grown _)
      · exact grown _
    next =>
      have others := @ih longest run bound none longestLe runLe
      omega

theorem sameTime : SameTime (localDailySummary date events start finish)
      (aggregateDay texts date events start finish isToday truncated) := by
  rw [SameTime, aggregateDay_activeSeconds, localDailySummary]
  dsimp only
  by_cases short : activeSeconds (buildSegments events start finish) < localReadyMinActiveSeconds
  · rw [if_pos short]
    exact .inl ⟨rfl, short⟩
  · rw [if_neg short]
    right
    refine ⟨rfl, ?_, ?_⟩
    · rw [filter_filter]
      apply sum_segmentSeconds_le
      intro segment isKept
      rw [Bool.and_eq_true] at isKept
      exact notSystem_of_confident isKept.2
    · have bounded := @longestRunFrom_le (buildSegments events start finish) 0 0 0 none le_rfl le_rfl
      rwa [Nat.zero_add] at bounded

/-- The chart of a day conserves its time, and its summary is of the same time, exactly where
every event of SYSTEM that has a whole second of the day is confidently classified. -/
theorem daily_chart_iff :
    ConservesTime (aggregateDay texts date events (fromTimestamp dayStart) finish isToday
        truncated) ∧
      SameTime (localDailySummary date events (fromTimestamp dayStart) finish)
        (aggregateDay texts date events (fromTimestamp dayStart) finish isToday truncated) ↔
    SystemIsConfident events (fromTimestamp dayStart) finish := by
  rw [conservesTime_iff]
  exact and_iff_left sameTime

def plainTexts : ChartTexts where
  toUppercase := toString
  parseUuid := fun _ => none
  dateText := toString

/-- An event that no plugin knows, under a taxonomy whose default category is `SYSTEM`. -/
def defaultSystem : RawEventEntry :=
  { eventId := "1", stableId := "login", localDisplayLabel := none, localNameSuggestion := none
    category := "SYSTEM", classificationStatus := "unclassified"
    classificationConfidence := "none", classificationSource := "fallback"
    occurredAt := 60, durationSeconds := 120 }

/-- The day is active for two minutes, and its chart is empty. -/
theorem default_system_is_not_charted :
    ¬ConservesTime (aggregateDay plainTexts 0 [defaultSystem] (fromTimestamp 0) (fromTimestamp 86400)
      false false) := by
  intro conserves
  have durations := conserves.durations
  rw [sum_durationSeconds] at durations
  exact absurd durations (by decide +kernel)

end Conservation

end Velvt.Dashboard
