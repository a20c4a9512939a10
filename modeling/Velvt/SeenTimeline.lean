import Velvt.Dashboard
import Velvt.KeyedRows

/-!
# What the timeline credits

An instant of a segment is credited to the latest of the rows that were read, and a read stops at
its cap.
-/

namespace Velvt.Dashboard

open List

section Latest

/-- The latest of some rows that are in order, at or before an instant. -/
def lastAt (events : List RawEventEntry) (instant : Int) : Option RawEventEntry :=
  (events.filter fun event => decide (event.instant ≤ instant)).getLast?

/-- The latest event of a buffer at or before an instant: of two that are stored with one time,
the one stored later. -/
def latestAt (buffer : List RawEventEntry) (instant : Int) : Option RawEventEntry :=
  lastAt (buffer.insertionSort Earlier) instant

/-- The rows are in the order of their times. -/
def Ordered (events : List RawEventEntry) : Prop := events.Pairwise Earlier

instance : Std.Total Earlier := ⟨fun _ _ => Int.le_total _ _⟩

instance : IsTrans RawEventEntry Earlier := ⟨fun _ _ _ => Int.le_trans⟩

variable {events before after : List RawEventEntry} {event found : RawEventEntry} {instant : Int}

theorem Earlier.instant_le (earlier : Earlier event found) : event.instant ≤ found.instant := by
  simp only [Earlier] at earlier
  simp only [RawEventEntry.instant, fromTimestamp]
  omega

theorem lastAt_append :
    lastAt (before ++ after) instant = (lastAt after instant).or (lastAt before instant) := by
  rw [lastAt, lastAt, lastAt, filter_append, List.getLast?_append]

theorem lastAt_mem (isLast : lastAt events instant = some found) :
    found ∈ events ∧ found.instant ≤ instant := by
  have isMember := mem_of_getLast? isLast
  rw [mem_filter, decide_eq_true_eq] at isMember
  exact isMember

theorem lastAt_eq_none_iff :
    lastAt events instant = none ↔ ∀ event ∈ events, instant < event.instant := by
  simp [lastAt]

theorem lastAt_cons_of_lt (ordered : Ordered (event :: events)) (future : instant < event.instant) :
    lastAt (event :: events) instant = none := by
  rw [lastAt_eq_none_iff]
  intro other isOther
  rcases mem_cons.mp isOther with rfl | later
  · exact future
  · exact future.trans_le (Earlier.instant_le ((pairwise_cons.mp ordered).1 other later))

theorem lastAt_cons_of_le (past : event.instant ≤ instant) :
    lastAt (event :: events) instant = (lastAt events instant).or (some event) := by
  rw [lastAt, lastAt, filter_cons_of_pos (by simpa using past), List.getLast?_cons]
  cases (events.filter fun event => decide (event.instant ≤ instant)).getLast? <;> rfl

theorem lastAt_eq_none_of_next (ordered : Ordered events)
    (next : ∀ following ∈ firstInstant events, instant < following) :
    lastAt events instant = none := by
  cases events with
  | nil => rfl
  | cons event later => exact lastAt_cons_of_lt ordered (next event.instant rfl)

theorem next_of_lastAt_eq_none (isNone : lastAt events instant = none) :
    ∀ following ∈ firstInstant events, instant < following := by
  intro following isFollowing
  cases events with
  | nil => simp [firstInstant] at isFollowing
  | cons event later =>
    simp only [firstInstant, List.head?_cons, Option.map_some, Option.mem_some_iff] at isFollowing
    exact isFollowing ▸ lastAt_eq_none_iff.mp isNone event (mem_cons_self)

end Latest

section Shown

/-- The event goes on up to the instant: it has no reported duration, or one that reaches past
it. -/
def Lasts (event : RawEventEntry) (instant : Int) : Prop :=
  event.durationSeconds = 0 ∨ instant < event.instant + Duration.seconds event.durationSeconds

/-- The measure of the timeline, which reads a duration beyond the greatest as thirty minutes. -/
def Measured (event : RawEventEntry) (instant : Int) : Prop :=
  event.durationSeconds = 0 ∨ instant < event.instant + Duration.seconds (reportedDuration event)

/-- A segment of the category contains the instant. -/
def Shows (segments : List LocalTimelineSegment) (instant : Int) (category : String) : Prop :=
  ∃ segment ∈ segments, segment.startedAt ≤ instant ∧ instant < segment.endedAt ∧
    segment.category = category

/-- The segments are not empty, disjoint, in time order and inside a window. -/
structure Segmented (segments : List LocalTimelineSegment) (windowStart windowEnd : Int) :
    Prop where
  proper : ∀ segment ∈ segments, segment.startedAt < segment.endedAt
  apart : segments.Pairwise fun before after => before.endedAt ≤ after.startedAt
  inside : ∀ segment ∈ segments, windowStart ≤ segment.startedAt ∧ segment.endedAt ≤ windowEnd

variable {segments : List LocalTimelineSegment} {events later : List RawEventEntry}
  {event : RawEventEntry} {windowStart windowEnd instant edge : Int} {span : Int × Int}
  {category : String}

theorem Measured.lasts (measured : Measured event instant) : Lasts event instant := by
  rcases measured with unreported | reaches
  · exact .inl unreported
  · right
    have le : reportedDuration event ≤ event.durationSeconds := by
      rw [reportedDuration]
      by_cases fits : event.durationSeconds ≤ i64Max
      · rw [if_pos fits]
      · rw [if_neg fits]
        rw [i64Max] at fits
        omega
    simp only [Duration.seconds] at reaches ⊢
    omega

variable {next : Option Int}

theorem measuredSpan_eq_some_iff : measuredSpan event next windowStart windowEnd = some span ↔
      span.1 < span.2 ∧ span.1 = max event.instant windowStart ∧
        span.2 = min (min (if 0 < event.durationSeconds then
          event.instant + Duration.seconds (reportedDuration event) else next.getD windowEnd)
          (next.getD windowEnd)) windowEnd := by
  obtain ⟨start, finish⟩ := span
  simp only [measuredSpan, Option.ite_none_right_eq_some, Option.some_inj, Prod.mk.injEq]
  constructor
  · rintro ⟨lt, rfl, rfl⟩
    exact ⟨lt, rfl, rfl⟩
  · rintro ⟨lt, rfl, rfl⟩
    exact ⟨lt, rfl, rfl⟩

theorem mem_measuredSpan_iff : (∃ span ∈ measuredSpan event next windowStart windowEnd,
        span.1 ≤ instant ∧ instant < span.2) ↔
      (windowStart ≤ instant ∧ instant < windowEnd) ∧ event.instant ≤ instant ∧
        (∀ following ∈ next, instant < following) ∧ Measured event instant := by
  have beforeNext : (instant < next.getD windowEnd ∧ instant < windowEnd) ↔
      (∀ following ∈ next, instant < following) ∧ instant < windowEnd := by
    cases next with
    | none => simp
    | some following => simp
  constructor
  · rintro ⟨span, isSpan, starts, ends⟩
    obtain ⟨-, start_eq, finish_eq⟩ := measuredSpan_eq_some_iff.mp isSpan
    rw [start_eq, max_le_iff] at starts
    rw [finish_eq, lt_min_iff, lt_min_iff] at ends
    obtain ⟨⟨measured, next⟩, inside⟩ := ends
    refine ⟨⟨starts.2, inside⟩, starts.1, (beforeNext.mp ⟨next, inside⟩).1, ?_⟩
    by_cases reported : 0 < event.durationSeconds
    · rw [if_pos reported] at measured
      exact .inr measured
    · exact .inl (by omega)
  · rintro ⟨⟨starts, inside⟩, past, isBefore, measured⟩
    have nextAfter := (beforeNext.mpr ⟨isBefore, inside⟩).1
    have measuredAfter : instant < if 0 < event.durationSeconds then
        event.instant + Duration.seconds (reportedDuration event) else next.getD windowEnd := by
      by_cases reported : 0 < event.durationSeconds
      · rw [if_pos reported]
        exact measured.resolve_left (by omega)
      · rwa [if_neg reported]
    have start := max_le past starts
    have finish := lt_min (lt_min measuredAfter nextAfter) inside
    exact ⟨(_, _), measuredSpan_eq_some_iff.mpr ⟨start.trans_lt finish, rfl, rfl⟩, start, finish⟩

theorem le_next_of_measuredSpan {following : Int}
    (isSpan : measuredSpan event next windowStart windowEnd = some span)
    (isNext : following ∈ next) : span.2 ≤ following := by
  obtain ⟨-, -, finish_eq⟩ := measuredSpan_eq_some_iff.mp isSpan
  rw [Option.mem_def.mp isNext, Option.getD_some] at finish_eq
  rw [finish_eq]
  exact (min_le_left _ _).trans (min_le_right _ _)

theorem addSpan_cases (segments : List LocalTimelineSegment) (event : RawEventEntry)
    (span : Int × Int) :
    (∃ fresh : LocalTimelineSegment, addSpan segments event span = segments ++ [fresh] ∧
      fresh.startedAt = span.1 ∧ fresh.endedAt = span.2 ∧ fresh.category = safeCategory event) ∨
    ∃ (front : List LocalTimelineSegment) (previous extended : LocalTimelineSegment),
      segments = front ++ [previous] ∧ addSpan segments event span = front ++ [extended] ∧
      previous.category = safeCategory event ∧ span.1 ≤ previous.endedAt ∧
      extended.startedAt = previous.startedAt ∧ extended.category = previous.category ∧
      extended.endedAt = max previous.endedAt span.2 := by
  rcases eq_nil_or_concat segments with rfl | ⟨front, previous, rfl⟩
  · exact .inl ⟨_, rfl, rfl, rfl, rfl⟩
  · simp only [addSpan, concat_eq_append, List.getLast?_append_of_ne_nil _ (cons_ne_nil _ _),
      List.getLast?_singleton, dropLast_concat]
    split
    next touches => exact .inr ⟨front, previous, _, rfl, rfl, touches.1, touches.2, rfl, rfl, rfl⟩
    next => exact .inl ⟨_, rfl, rfl, rfl, rfl⟩

theorem shows_concat {segment : LocalTimelineSegment} :
    Shows (segments ++ [segment]) instant category ↔ Shows segments instant category ∨
      (segment.startedAt ≤ instant ∧ instant < segment.endedAt) ∧ segment.category = category := by
  simp only [Shows, mem_append, mem_singleton, or_and_right, exists_or, exists_eq_left, and_assoc]

theorem shows_addSpan_iff (ended : ∀ segment ∈ segments, segment.endedAt ≤ span.1)
    (proper : span.1 < span.2) (starts : ∀ segment ∈ segments, segment.startedAt < segment.endedAt) :
    Shows (addSpan segments event span) instant category ↔ Shows segments instant category ∨
        (span.1 ≤ instant ∧ instant < span.2) ∧ safeCategory event = category := by
  rcases addSpan_cases segments event span with
    ⟨fresh, added, start_eq, finish_eq, category_eq⟩ |
    ⟨front, previous, extended, rfl, added, sameCategory, touches, start_eq, category_eq, finish_eq⟩
  · rw [added, shows_concat, start_eq, finish_eq, category_eq]
  · -- The span goes on where the last segment ends.
    have isLast : previous ∈ front ++ [previous] := mem_append_right _ mem_cons_self
    have endsThere : previous.endedAt = span.1 := le_antisymm (ended previous isLast) touches
    have previousProper := starts previous isLast
    have longer : max previous.endedAt span.2 = span.2 := max_eq_right (by omega)
    rw [added, shows_concat, shows_concat, start_eq, finish_eq, category_eq, sameCategory, longer,
      or_assoc, ← or_and_right]
    have union : previous.startedAt ≤ instant ∧ instant < span.2 ↔
        (previous.startedAt ≤ instant ∧ instant < previous.endedAt) ∨
          (span.1 ≤ instant ∧ instant < span.2) := by
      omega
    rw [union]

theorem segmented_concat_iff {segment : LocalTimelineSegment} :
    Segmented (segments ++ [segment]) windowStart windowEnd ↔
      Segmented segments windowStart windowEnd ∧ segment.startedAt < segment.endedAt ∧
        (∀ before ∈ segments, before.endedAt ≤ segment.startedAt) ∧
        windowStart ≤ segment.startedAt ∧ segment.endedAt ≤ windowEnd := by
  constructor
  · rintro ⟨proper, apart, inside⟩
    rw [pairwise_append] at apart
    simp only [mem_append, mem_singleton, or_imp, forall_and, forall_eq] at proper inside
    exact ⟨⟨proper.1, apart.1, fun before isBefore => ⟨inside.1.1 before isBefore,
      inside.2.1 before isBefore⟩⟩, proper.2, fun before isBefore =>
      apart.2.2 before isBefore segment mem_cons_self, inside.1.2, inside.2.2⟩
  · rintro ⟨⟨proper, apart, inside⟩, isProper, follows, isInside⟩
    constructor
    · simpa [or_imp, forall_and] using ⟨proper, isProper⟩
    · simpa [pairwise_append] using ⟨apart, follows⟩
    · intro one isOne
      rcases mem_append.mp isOne with before | isLast
      · exact inside one before
      · rw [mem_singleton.mp isLast]
        exact isInside

theorem Segmented.addSpan (segmented : Segmented segments windowStart windowEnd)
    (ended : ∀ segment ∈ segments, segment.endedAt ≤ span.1)
    (proper : span.1 < span.2) (inside : windowStart ≤ span.1 ∧ span.2 ≤ windowEnd) :
    Segmented (addSpan segments event span) windowStart windowEnd ∧
      ∀ segment ∈ Dashboard.addSpan segments event span, segment.endedAt ≤ span.2 := by
  rcases addSpan_cases segments event span with
    ⟨fresh, added, start_eq, finish_eq, -⟩ |
    ⟨front, previous, extended, rfl, added, -, touches, start_eq, -, finish_eq⟩
  · rw [added]
    refine ⟨segmented_concat_iff.mpr ⟨segmented, ?_, ?_, ?_, ?_⟩, ?_⟩
    · omega
    · rwa [start_eq]
    · omega
    · omega
    · intro segment isSegment
      rcases mem_append.mp isSegment with before | isLast
      · exact (ended segment before).trans proper.le
      · rw [mem_singleton.mp isLast, finish_eq]
  · obtain ⟨before, isProper, follows, starts, ends⟩ := segmented_concat_iff.mp segmented
    have endsThere := ended previous (mem_append_right _ mem_cons_self)
    rw [added]
    refine ⟨segmented_concat_iff.mpr ⟨before, ?_, ?_, ?_, ?_⟩, ?_⟩
    · omega
    · rwa [start_eq]
    · omega
    · omega
    · intro segment isSegment
      rcases mem_append.mp isSegment with isBefore | isLast
      · have early := ended segment (mem_append_left _ isBefore)
        omega
      · rw [mem_singleton.mp isLast]
        omega

/-- The segments end before the rows that are still to come. -/
def EndBefore (segments : List LocalTimelineSegment) (windowStart : Int)
    (events : List RawEventEntry) : Prop :=
  ∀ first ∈ firstInstant events, ∀ segment ∈ segments, segment.endedAt ≤ max first windowStart

theorem EndBefore.tail (ordered : Ordered (event :: later))
    (ends : EndBefore segments windowStart (event :: later)) :
    EndBefore segments windowStart later := by
  intro first isFirst segment isSegment
  have ended := ends event.instant rfl segment isSegment
  cases later with
  | nil => simp [firstInstant] at isFirst
  | cons following later =>
    obtain rfl : following.instant = first := by simpa [firstInstant] using isFirst
    have order := Earlier.instant_le ((pairwise_cons.mp ordered).1 following mem_cons_self)
    omega

theorem EndBefore.le_span (ends : EndBefore segments windowStart (event :: later))
    (isSpan : measuredSpan event (firstInstant later) windowStart windowEnd = some span) :
    ∀ segment ∈ segments, segment.endedAt ≤ span.1 := by
  obtain ⟨-, start_eq, -⟩ := measuredSpan_eq_some_iff.mp isSpan
  rw [start_eq]
  exact ends event.instant rfl

theorem Segmented.step (segmented : Segmented segments windowStart windowEnd)
    (ends : EndBefore segments windowStart (event :: later))
    (isSpan : measuredSpan event (firstInstant later) windowStart windowEnd = some span) :
    Segmented (Dashboard.addSpan segments event span) windowStart windowEnd ∧
      EndBefore (Dashboard.addSpan segments event span) windowStart later := by
  obtain ⟨proper, start_eq, finish_eq⟩ := measuredSpan_eq_some_iff.mp isSpan
  have inside : windowStart ≤ span.1 ∧ span.2 ≤ windowEnd :=
    ⟨start_eq ▸ le_max_right _ _, finish_eq ▸ min_le_right _ _⟩
  obtain ⟨added, addedEnds⟩ :=
    @Segmented.addSpan _ event _ _ _ segmented (ends.le_span isSpan) proper inside
  refine ⟨added, ?_⟩
  intro first isFirst segment isSegment
  have before := le_next_of_measuredSpan isSpan isFirst
  exact (addedEnds segment isSegment).trans (before.trans (le_max_left _ _))

theorem exists_lastAt_cons_iff (ordered : Ordered (event :: later)) (shown : RawEventEntry → Prop) :
    (∃ found ∈ lastAt (event :: later) instant, shown found) ↔
      (event.instant ≤ instant ∧ (∀ following ∈ firstInstant later, instant < following) ∧
          shown event) ∨
        ∃ found ∈ lastAt later instant, shown found := by
  have laterOrdered : Ordered later := (pairwise_cons.mp ordered).2
  by_cases past : event.instant ≤ instant
  · rw [lastAt_cons_of_le past]
    cases isLast : lastAt later instant with
    | none =>
      have nextAfter := next_of_lastAt_eq_none isLast
      simpa [past] using fun _ : shown event => nextAfter
    | some found =>
      have notNext : ¬∀ following ∈ firstInstant later, instant < following := by
        intro nextAfter
        rw [lastAt_eq_none_of_next laterOrdered nextAfter] at isLast
        cases isLast
      rw [Option.some_or]
      simp only [notNext, false_and, and_false, false_or]
  · have isNone : lastAt (event :: later) instant = none :=
      lastAt_cons_of_lt ordered (not_le.mp past)
    have laterNone : lastAt later instant = none := by
      rw [lastAt_eq_none_iff] at isNone ⊢
      exact fun found isFound => isNone found (mem_cons_of_mem _ isFound)
    simp [isNone, laterNone, past]

/-- The segments that are added are those of the rows. -/
theorem addSegments_spec (ordered : Ordered events)
    (segmented : Segmented segments windowStart windowEnd)
    (ends : EndBefore segments windowStart events) :
    Segmented (addSegments windowStart windowEnd segments events) windowStart windowEnd ∧
      ∀ instant category,
        Shows (addSegments windowStart windowEnd segments events) instant category ↔
          Shows segments instant category ∨ (windowStart ≤ instant ∧ instant < windowEnd) ∧
            ∃ event ∈ lastAt events instant, safeCategory event = category ∧
              Measured event instant := by
  induction events generalizing segments with
  | nil => exact ⟨segmented, fun _ _ => by simp [addSegments, lastAt]⟩
  | cons event later ih =>
    have laterOrdered : Ordered later := (pairwise_cons.mp ordered).2
    rw [addSegments]
    -- What the span of the first row has, if there is one.
    have own := fun instant =>
      @mem_measuredSpan_iff event windowStart windowEnd instant (firstInstant later)
    cases isSpan : measuredSpan event (firstInstant later) windowStart windowEnd with
    | none =>
      obtain ⟨kept, shows⟩ := ih laterOrdered segmented (ends.tail ordered)
      refine ⟨kept, ?_⟩
      intro instant category
      rw [shows, exists_lastAt_cons_iff ordered]
      have nothing := own instant
      simp only [isSpan, Option.mem_def, reduceCtorEq, false_and, exists_false,
        false_iff] at nothing
      grind
    | some span =>
      obtain ⟨added, laterEnds⟩ := segmented.step ends isSpan
      obtain ⟨kept, shows⟩ := ih laterOrdered added laterEnds
      refine ⟨kept, ?_⟩
      intro instant category
      rw [shows, shows_addSpan_iff (ends.le_span isSpan)
        (measuredSpan_eq_some_iff.mp isSpan).1 segmented.proper,
        exists_lastAt_cons_iff ordered]
      have within := own instant
      simp only [isSpan, Option.mem_def, Option.some_inj, exists_eq_left'] at within
      grind

end Shown

section Capped

def windowStartOf (now : Int) (requestedWindowSeconds : Nat) : Int :=
  let windowSeconds := max minWindowSeconds (min requestedWindowSeconds maxWindowSeconds)
  now - Duration.seconds windowSeconds

/-- Every row of the window and of the thirty minutes before it, in order. -/
def windowRows (buffer : List RawEventEntry) (now : Int) (requestedWindowSeconds : Nat) :
    List RawEventEntry :=
  let start := windowStartOf now requestedWindowSeconds - Duration.seconds maxEventDurationSeconds
  (buffer.filter fun event => decide (timestamp start ≤ event.occurredAt) &&
    decide (event.occurredAt ≤ timestamp now)).insertionSort Earlier

/-- Up to an instant, each of some rows that begins before it has the category, and lasts until
the next row or that instant. -/
def CarriesOn (category : String) (windowStart finish : Int) : List RawEventEntry → Prop
  | [] => True
  | event :: later =>
    let ends := min ((firstInstant later).getD finish) finish
    (max event.instant windowStart < ends → safeCategory event = category ∧
      (event.durationSeconds = 0 ∨ ends ≤ event.instant + Duration.seconds event.durationSeconds)) ∧
    CarriesOn category windowStart finish later

/-- The rows beyond the cap carry on what the last row of the read shows, as long as that is on
screen. -/
def UnreadCarryOn (buffer : List RawEventEntry) (now : Int) (requestedWindowSeconds : Nat) :
    Prop :=
  let windowStart := windowStartOf now requestedWindowSeconds
  let rows := windowRows buffer now requestedWindowSeconds
  ∀ last ∈ (rows.take maxWindowEvents).getLast?,
    ∀ span ∈ measuredSpan last none windowStart now,
      CarriesOn (safeCategory last) windowStart span.2 (rows.drop maxWindowEvents)

/-- The timeline credits only what was seen. -/
structure CreditsWhatWasSeen (buffer : List RawEventEntry) (timeline : LocalDashboardSnapshot) :
    Prop where
  segmented : Segmented timeline.segments timeline.windowStart timeline.windowEnd
  credited : ∀ segment ∈ timeline.segments, ∀ instant,
    segment.startedAt ≤ instant → instant < segment.endedAt →
      ∃ event ∈ latestAt buffer instant, safeCategory event = segment.category ∧ Lasts event instant

variable {buffer events : List RawEventEntry} {found : RawEventEntry}
  {now windowStart finish instant : Int} {requestedWindowSeconds : Nat} {category : String}

theorem ordered_windowRows : Ordered (windowRows buffer now requestedWindowSeconds) :=
  pairwise_insertionSort _ _

theorem snapshot_segments : (snapshot buffer now requestedWindowSeconds).segments =
      addSegments (windowStartOf now requestedWindowSeconds) now []
        ((windowRows buffer now requestedWindowSeconds).take maxWindowEvents) := by
  have opens : ¬(now ≤ windowStartOf now requestedWindowSeconds -
      Duration.seconds maxEventDurationSeconds ∨ maxWindowEvents = 0) := by
    simp only [windowStartOf, Duration.seconds, minWindowSeconds, maxEventDurationSeconds,
      maxWindowEvents]
    omega
  have read : eventsBetween buffer (windowStartOf now requestedWindowSeconds -
      Duration.seconds maxEventDurationSeconds) now maxWindowEvents =
        (windowRows buffer now requestedWindowSeconds).take maxWindowEvents := by
    rw [eventsBetween, if_neg opens]
    rfl
  have sorted : Ordered ((windowRows buffer now requestedWindowSeconds).take maxWindowEvents) :=
    ordered_windowRows.sublist (take_sublist _ _)
  change buildSegments (eventsBetween buffer (windowStartOf now requestedWindowSeconds -
    Duration.seconds maxEventDurationSeconds) now maxWindowEvents) _ now = _
  rw [read, buildSegments, sorted.insertionSort_eq]
  rfl

theorem latestAt_eq_of_lastAt (inside : instant < now)
    (isLast : lastAt (windowRows buffer now requestedWindowSeconds) instant = some found) :
    latestAt buffer instant = some found := by
  let start := timestamp
    (windowStartOf now requestedWindowSeconds - Duration.seconds maxEventDurationSeconds)
  let past := (buffer.insertionSort Earlier).filter fun event => decide (event.instant ≤ instant)
  let inWindow := fun event : RawEventEntry =>
    decide (start ≤ event.occurredAt) && decide (event.occurredAt ≤ timestamp now)
  have exchanged : (past.filter inWindow).getLast? = some found := by
    rw [← isLast, lastAt, windowRows, ← KeyedRows.filter_insertionSort, filter_filter,
      filter_filter]
    simp only [Bool.and_comm, inWindow, start]
  have ordered : Ordered past :=
    (pairwise_insertionSort Earlier buffer).sublist filter_sublist
  have isFound := mem_of_getLast? exchanged
  rw [mem_filter] at isFound
  rcases eq_nil_or_concat past with isNil | ⟨front, last, isConcat⟩
  · rw [isNil] at isFound
    exact absurd isFound.1 not_mem_nil
  rw [concat_eq_append] at isConcat
  -- The last row of the past is no earlier than one that is in the window, and so is there too.
  have lastInWindow : inWindow last = true := by
    have isPast : last.instant ≤ instant := by
      have isMember : last ∈ past := isConcat ▸ mem_append_right _ mem_cons_self
      exact of_decide_eq_true (mem_filter.mp isMember).2
    have follows : found.occurredAt ≤ last.occurredAt := by
      rw [isConcat] at isFound ordered
      rcases mem_append.mp isFound.1 with before | same
      · exact (pairwise_append.mp ordered).2.2 found before last mem_cons_self
      · rw [mem_singleton.mp same]
    have starts := isFound.2
    simp only [inWindow, Bool.and_eq_true, decide_eq_true_eq] at starts ⊢
    simp only [RawEventEntry.instant, fromTimestamp] at isPast
    simp only [timestamp] at starts ⊢
    omega
  rw [isConcat, filter_append, filter_cons_of_pos lastInWindow, filter_nil,
    List.getLast?_concat] at exchanged
  change past.getLast? = some found
  rw [isConcat, List.getLast?_concat, exchanged]

theorem carriesOn_iff (ordered : Ordered events) : CarriesOn category windowStart finish events ↔
      ∀ instant, windowStart ≤ instant → instant < finish → ∀ event ∈ lastAt events instant,
        safeCategory event = category ∧ Lasts event instant := by
  induction events with
  | nil => simp [CarriesOn, lastAt]
  | cons event later ih =>
    have laterOrdered : Ordered later := (pairwise_cons.mp ordered).2
    rw [CarriesOn, ih laterOrdered]
    -- The instants at which the first of the rows is the latest.
    have own : ∀ instant, instant < finish →
        (instant < min ((firstInstant later).getD finish) finish ↔
          ∀ following ∈ firstInstant later, instant < following) := by
      intro instant inside
      cases firstInstant later with
      | none => simp [inside]
      | some following => simp [inside]
    constructor
    · rintro ⟨carries, others⟩ instant starts inside found isLast
      have split := (exists_lastAt_cons_iff ordered (· = found)).mp ⟨found, isLast, rfl⟩
      rcases split with ⟨past, nextAfter, rfl⟩ | ⟨same, isLater, rfl⟩
      · have before := (own instant inside).mpr nextAfter
        obtain ⟨sameCategory, lasts⟩ := carries ((max_le past starts).trans_lt before)
        exact ⟨sameCategory, lasts.imp_right before.trans_le⟩
      · exact others instant starts inside same isLater
    · intro shown
      constructor
      · intro begins
        -- At its first instant the row must have the category, and at its last one go on.
        have shownAt : ∀ instant, max event.instant windowStart ≤ instant →
            instant < min ((firstInstant later).getD finish) finish →
              safeCategory event = category ∧ Lasts event instant := by
          intro instant starts ends
          have inside : instant < finish := ends.trans_le (min_le_right _ _)
          obtain ⟨past, windowed⟩ := max_le_iff.mp starts
          obtain ⟨found, isLast, rfl⟩ := (exists_lastAt_cons_iff ordered (· = event)).mpr
            (.inl ⟨past, (own instant inside).mp ends, rfl⟩)
          exact shown instant windowed inside found isLast
        refine ⟨(shownAt _ le_rfl begins).1, ?_⟩
        have lasts := (shownAt (min ((firstInstant later).getD finish) finish - 1) (by omega)
          (by omega)).2
        rcases lasts with unreported | reaches
        · exact .inl unreported
        · exact .inr (by omega)
      · intro instant starts inside found isLast
        obtain ⟨same, isMember, rfl⟩ := (exists_lastAt_cons_iff ordered (· = found)).mpr
          (.inr ⟨found, isLast, rfl⟩)
        exact shown instant starts inside same isMember

theorem ordered_read (limit : Nat) :
    Ordered ((windowRows buffer now requestedWindowSeconds).take limit) :=
  ordered_windowRows.sublist (take_sublist _ _)

theorem segmented_nil : Segmented [] windowStart finish :=
  ⟨by simp, .nil, by simp⟩

theorem endBefore_nil : EndBefore [] windowStart events :=
  fun _ _ => by simp

theorem segmented_snapshot : Segmented (snapshot buffer now requestedWindowSeconds).segments
      (snapshot buffer now requestedWindowSeconds).windowStart
      (snapshot buffer now requestedWindowSeconds).windowEnd := by
  rw [snapshot_segments]
  exact (addSegments_spec (ordered_read _) segmented_nil endBefore_nil).1

theorem shows_snapshot_iff :
    Shows (snapshot buffer now requestedWindowSeconds).segments instant category ↔
      (windowStartOf now requestedWindowSeconds ≤ instant ∧ instant < now) ∧
        ∃ event ∈ lastAt ((windowRows buffer now requestedWindowSeconds).take maxWindowEvents)
          instant, safeCategory event = category ∧ Measured event instant := by
  rw [snapshot_segments, (addSegments_spec (ordered_read _) segmented_nil endBefore_nil).2]
  simp [Shows]

theorem lastAt_of_lastAt_later {before after : List RawEventEntry}
    (ordered : Ordered (before ++ after)) (isLast : lastAt after instant = some found) :
    lastAt before instant = before.getLast? := by
  obtain ⟨isLater, past⟩ := lastAt_mem isLast
  have allPast : before.filter (fun event => decide (event.instant ≤ instant)) = before := by
    rw [filter_eq_self]
    intro event isBefore
    have order := (pairwise_append.mp ordered).2.2 event isBefore found isLater
    exact decide_eq_true (order.instant_le.trans past)
  rw [lastAt, allPast]

/-- The credit is exact where the rows beyond the cap carry on what was read. -/
theorem credited_iff : (∀ instant category,
      Shows (snapshot buffer now requestedWindowSeconds).segments instant category →
        ∃ event ∈ latestAt buffer instant, safeCategory event = category ∧ Lasts event instant) ↔
      UnreadCarryOn buffer now requestedWindowSeconds := by
  let rows := windowRows buffer now requestedWindowSeconds
  have split : rows.take maxWindowEvents ++ rows.drop maxWindowEvents = rows :=
    take_append_drop _ _
  have ordered : Ordered (rows.take maxWindowEvents ++ rows.drop maxWindowEvents) := by
    rw [split]
    exact ordered_windowRows
  have unreadOrdered : Ordered (rows.drop maxWindowEvents) :=
    ordered_windowRows.sublist (drop_sublist _ _)
  have latest : ∀ instant, lastAt rows instant = (lastAt (rows.drop maxWindowEvents) instant).or
      (lastAt (rows.take maxWindowEvents) instant) := by
    intro instant
    rw [← lastAt_append, split]
  constructor
  · intro credited last isLast span isSpan
    rw [carriesOn_iff unreadOrdered]
    intro instant starts ends found isFound
    -- The last row of the read is on screen, and so is credited with the instant.
    have lastRead := lastAt_of_lastAt_later ordered isFound
    rw [Option.mem_def.mp isLast] at lastRead
    obtain ⟨-, start_eq, -⟩ := measuredSpan_eq_some_iff.mp isSpan
    have past := (lastAt_mem lastRead).2
    obtain ⟨windowed, -, -, measured⟩ := mem_measuredSpan_iff.mp
      ⟨span, isSpan, start_eq ▸ max_le past starts, ends⟩
    obtain ⟨event, isEvent, sameCategory, lasts⟩ := credited instant (safeCategory last)
      (shows_snapshot_iff.mpr ⟨windowed, last, lastRead, rfl, measured⟩)
    have isLatest := latest instant
    rw [Option.mem_def.mp isFound, Option.some_or] at isLatest
    rw [latestAt_eq_of_lastAt windowed.2 isLatest, Option.mem_some_iff] at isEvent
    exact isEvent ▸ ⟨sameCategory, lasts⟩
  · intro carryOn instant category shows
    obtain ⟨windowed, event, isEvent, rfl, measured⟩ := shows_snapshot_iff.mp shows
    have isLatest := latest instant
    cases isFound : lastAt (rows.drop maxWindowEvents) instant with
    | none =>
      rw [isFound, Option.none_or, Option.mem_def.mp isEvent] at isLatest
      exact ⟨event, latestAt_eq_of_lastAt windowed.2 isLatest, rfl, measured.lasts⟩
    | some found =>
      rw [isFound, Option.some_or] at isLatest
      have lastRead := lastAt_of_lastAt_later ordered isFound
      rw [Option.mem_def.mp isEvent] at lastRead
      obtain ⟨span, isSpan, starts, ends⟩ := mem_measuredSpan_iff.mpr
        ⟨windowed, (lastAt_mem isEvent).2, fun following => (Option.not_mem_none following).elim, measured⟩
      have carries := (carriesOn_iff unreadOrdered).mp
        (carryOn event lastRead.symm span isSpan) instant windowed.1 ends found isFound
      exact ⟨found, latestAt_eq_of_lastAt windowed.2 isLatest, carries⟩

/-- The timeline credits only what was seen exactly where the rows beyond the cap carry on what
the last row of the read shows. -/
theorem snapshot_credits_iff :
    CreditsWhatWasSeen buffer (snapshot buffer now requestedWindowSeconds) ↔
      UnreadCarryOn buffer now requestedWindowSeconds := by
  rw [← credited_iff]
  constructor
  · rintro ⟨-, credited⟩ instant category ⟨segment, isSegment, starts, ends, rfl⟩
    exact credited segment isSegment instant starts ends
  · intro credited
    refine ⟨segmented_snapshot, ?_⟩
    intro segment isSegment instant starts ends
    exact credited instant segment.category ⟨segment, isSegment, starts, ends, rfl⟩

def rowAt (category : String) (seconds : Int) : RawEventEntry :=
  { eventId := toString seconds, stableId := "", localDisplayLabel := none
    localNameSuggestion := none, category := category, classificationStatus := "classified"
    classificationConfidence := "high", classificationSource := "seed_dictionary"
    occurredAt := seconds, durationSeconds := 0 }

/-- As many rows as a read takes, one a second, and ten minutes later a row of another category. -/
def hiddenRow : List RawEventEntry :=
  ((List.range 512).map fun index => rowAt "DOCS" index) ++ [rowAt "MAIL" 1200]

/-- A row beyond the cap is on screen when the timeline still credits the last row of the read. -/
theorem hidden_row_is_not_credited :
    ¬CreditsWhatWasSeen hiddenRow (snapshot hiddenRow (fromTimestamp 3600) 3600) := by
  rintro ⟨-, credited⟩
  have shown : (snapshot hiddenRow (fromTimestamp 3600) 3600).segments.any (fun segment =>
      decide (segment.startedAt ≤ fromTimestamp 1300) &&
        decide (fromTimestamp 1300 < segment.endedAt) && segment.category == "DOCS") = true := by
    decide +kernel
  have latest : (latestAt hiddenRow (fromTimestamp 1300)).map safeCategory = some "MAIL" := by
    decide +kernel
  obtain ⟨segment, isSegment, holds⟩ := any_eq_true.mp shown
  simp only [Bool.and_eq_true, decide_eq_true_eq, beq_iff_eq] at holds
  obtain ⟨event, isEvent, sameCategory, -⟩ :=
    credited segment isSegment (fromTimestamp 1300) holds.1.1 holds.1.2
  rw [Option.mem_def.mp isEvent, Option.map_some, sameCategory, holds.2] at latest
  exact absurd latest (by decide)

end Capped

end Velvt.Dashboard
