import Velvt.DwellDecisions
import Velvt.ReportedCoverage
import Velvt.WorkBlockElapsed

/-!
# The observation ledger

While the clock stays within the counter of seconds, the rows of a block and the intervals it was
paused for are disjoint spans between its start and the instant it has counted its time to.
-/

namespace Velvt

open StepMachine DisjointSpans List BlockUpdate WorkBlockStore Option

/-- One row ends before the other begins. -/
def WorkBlockObservation.EndsBefore (earlier later : WorkBlockObservation .seconds) : Prop :=
  ∃ endedAt, earlier.endedAt = some endedAt ∧ endedAt ≤ later.occurredAt

/-- A row ends before a span of time begins, or begins after it. -/
def WorkBlockObservation.Outside (row : WorkBlockObservation .seconds) (span : Span) : Prop :=
  (∃ endedAt, row.endedAt = some endedAt ∧ endedAt ≤ span.1) ∨ span.2 ≤ row.occurredAt

/-- A row lies inside a window of time. -/
def WorkBlockObservation.Inside (row : WorkBlockObservation .seconds) (first last : Int) :
    Prop :=
  first ≤ row.occurredAt ∧ row.occurredAt ≤ last ∧
    ∀ endedAt, row.endedAt = some endedAt → row.occurredAt ≤ endedAt ∧ endedAt ≤ last

/-- Rows and paused intervals are disjoint, in order, inside a window of time. -/
structure Kept (rows : List (WorkBlockObservation .seconds)) (pauses : List Span)
    (first last : Int) : Prop where
  apart : rows.Pairwise WorkBlockObservation.EndsBefore
  inside : ∀ row ∈ rows, row.Inside first last
  outside : ∀ row ∈ rows, ∀ pause ∈ pauses, row.Outside pause
  pausesApart : pauses.Pairwise fun earlier later => earlier.2 ≤ later.1
  pausesInside : ∀ pause ∈ pauses, first ≤ pause.1 ∧ pause.1 ≤ pause.2 ∧ pause.2 ≤ last

namespace Kept

variable {rows : List (WorkBlockObservation .seconds)} {pauses : List Span} {first last later : Int}

theorem empty (first last : Int) : Kept [] [] first last :=
  ⟨List.Pairwise.nil, by simp, by simp, List.Pairwise.nil, by simp⟩

theorem mono (kept : Kept rows pauses first last) (ordered : last ≤ later) :
    Kept rows pauses first later := by
  constructor
  · exact kept.apart
  · intro row member
    obtain ⟨begins, starts, ends⟩ := kept.inside row member
    exact ⟨begins, starts.trans ordered, fun endedAt closed =>
      ⟨(ends endedAt closed).1, (ends endedAt closed).2.trans ordered⟩⟩
  · exact kept.outside
  · exact kept.pausesApart
  · intro pause member
    obtain ⟨begins, proper, ends⟩ := kept.pausesInside pause member
    exact ⟨begins, proper, ends.trans ordered⟩

theorem closed (kept : Kept rows pauses first last) {stored : Int} (ordered : stored ≤ last) :
    Kept (rows.map (BlockUpdate.closeRow stored)) pauses first last := by
  have closeRow_of_closed {row : WorkBlockObservation .seconds} {endedAt : Int}
      (closed : row.endedAt = some endedAt) : BlockUpdate.closeRow stored row = row := by
    simp [BlockUpdate.closeRow, closed]
  constructor
  · rw [pairwise_map]
    apply kept.apart.imp
    rintro earlier later ⟨endedAt, closed, ends⟩
    refine ⟨endedAt, ?_, ?_⟩
    · rw [closeRow_of_closed closed]
      exact closed
    · rw [WorkBlock.closeRow_occurredAt]
      exact ends
  · intro row member
    obtain ⟨before, beforeMem, rfl⟩ := mem_map.mp member
    obtain ⟨begins, starts, ends⟩ := kept.inside before beforeMem
    cases isOpen : before.endedAt with
    | none =>
      rw [WorkBlockObservation.Inside, WorkBlock.closeRow_occurredAt]
      refine ⟨begins, starts, fun endedAt isEnd => ?_⟩
      simp only [BlockUpdate.closeRow, isOpen, isNone_none, if_true, Option.some.injEq] at isEnd
      omega
    | some endedAt =>
      rw [closeRow_of_closed isOpen]
      exact ⟨begins, starts, ends⟩
  · intro row member pause isPause
    obtain ⟨before, beforeMem, rfl⟩ := mem_map.mp member
    rcases kept.outside before beforeMem pause isPause with ⟨endedAt, closed, ends⟩ | begins
    · rw [closeRow_of_closed closed]
      exact Or.inl ⟨endedAt, closed, ends⟩
    · rw [WorkBlockObservation.Outside, WorkBlock.closeRow_occurredAt]
      exact Or.inr begins
  · exact kept.pausesApart
  · exact kept.pausesInside

theorem opened (kept : Kept rows pauses first last) (starts : first ≤ last)
    (ordered : last ≤ later) {row : WorkBlockObservation .seconds}
    (begins : row.occurredAt = later) (isOpen : row.endedAt = none) :
    Kept (rows.map (BlockUpdate.closeRow later) ++ [row]) pauses first later := by
  have closed := (kept.mono ordered).closed (le_refl later)
  constructor
  · rw [pairwise_append]
    refine ⟨closed.apart, pairwise_singleton _ _, fun earlier member other isLast => ?_⟩
    rw [mem_singleton.mp isLast]
    obtain ⟨before, beforeMem, rfl⟩ := mem_map.mp member
    have hasEnd := WorkBlock.closeRow_isSome later before
    obtain ⟨endedAt, isEnd⟩ := isSome_iff_exists.mp hasEnd
    exact ⟨endedAt, isEnd, (((closed.inside _ member).2.2 endedAt isEnd).2).trans_eq begins.symm⟩
  · intro other member
    rw [mem_append, mem_singleton] at member
    rcases member with before | rfl
    · exact closed.inside other before
    · exact ⟨by omega, begins.le, by simp [isOpen]⟩
  · intro other member pause isPause
    rw [mem_append, mem_singleton] at member
    rcases member with before | rfl
    · exact closed.outside other before pause isPause
    · exact Or.inr (((kept.pausesInside pause isPause).2.2.trans ordered).trans_eq begins.symm)
  · exact closed.pausesApart
  · exact closed.pausesInside

theorem resumed (kept : Kept rows pauses first last) (starts : first ≤ last)
    (ordered : last ≤ later) (allClosed : ∀ row ∈ rows, row.endedAt.isSome = true) :
    Kept rows (pauses ++ [(last, later)]) first later := by
  have wider := kept.mono ordered
  constructor
  · exact wider.apart
  · exact wider.inside
  · intro row member pause isPause
    rw [mem_append, mem_singleton] at isPause
    rcases isPause with before | rfl
    · exact kept.outside row member pause before
    · obtain ⟨endedAt, isEnd⟩ := isSome_iff_exists.mp (allClosed row member)
      exact Or.inl ⟨endedAt, isEnd, ((kept.inside row member).2.2 endedAt isEnd).2⟩
  · rw [pairwise_append]
    refine ⟨kept.pausesApart, pairwise_singleton _ _, fun pause member other isLast => ?_⟩
    rw [mem_singleton.mp isLast]
    exact (kept.pausesInside pause member).2.2
  · intro pause isPause
    rw [mem_append, mem_singleton] at isPause
    rcases isPause with before | rfl
    · exact wider.pausesInside pause before
    · exact ⟨starts, ordered, le_rfl⟩

def storedSpans (rows : List (WorkBlockObservation .seconds)) : List Span :=
  rows.filterMap fun row => row.endedAt.map fun endedAt => (row.occurredAt, endedAt)

theorem mem_storedSpans {span : Span} : span ∈ storedSpans rows ↔
      ∃ row ∈ rows, row.occurredAt = span.1 ∧ row.endedAt = some span.2 := by
  simp only [storedSpans, mem_filterMap, map_eq_some_iff]
  constructor
  · rintro ⟨row, member, endedAt, isEnd, rfl⟩
    exact ⟨row, member, rfl, isEnd⟩
  · rintro ⟨row, member, begins, isEnd⟩
    exact ⟨row, member, span.2, isEnd, by rw [begins]⟩

theorem total_le (kept : Kept rows pauses first last) (starts : first ≤ last) :
    total (storedSpans rows) + total pauses ≤ last - first := by
  have apartRows : (storedSpans rows).Pairwise Apart := by
    rw [storedSpans, pairwise_filterMap]
    refine kept.apart.imp fun ⟨endedAt, isEnd, ends⟩ firstSpan isFirst secondSpan isSecond => ?_
    rw [isEnd, map_some, Option.some.injEq] at isFirst
    obtain ⟨secondEnd, -, rfl⟩ := map_eq_some_iff.mp isSecond
    subst isFirst
    exact Or.inl ends
  have apartPauses : pauses.Pairwise Apart := kept.pausesApart.imp Or.inl
  have apart : (storedSpans rows ++ pauses).Pairwise Apart := by
    rw [pairwise_append]
    refine ⟨apartRows, apartPauses, fun span isRow pause isPause => ?_⟩
    obtain ⟨row, member, begins, isEnd⟩ := mem_storedSpans.mp isRow
    rcases kept.outside row member pause isPause with ⟨endedAt, closed, ends⟩ | later
    · rw [isEnd, Option.some.injEq] at closed
      exact Or.inl (closed.trans_le ends)
    · exact Or.inr (later.trans_eq begins)
  have within (span : Span) (member : span ∈ storedSpans rows ++ pauses) :
      first ≤ span.1 ∧ span.1 ≤ span.2 ∧ span.2 ≤ last := by
    rcases mem_append.mp member with isRow | isPause
    · obtain ⟨row, rowMem, begins, isEnd⟩ := mem_storedSpans.mp isRow
      obtain ⟨after, -, ends⟩ := kept.inside row rowMem
      rw [begins] at after ends
      exact ⟨after, ends span.2 isEnd⟩
    · exact kept.pausesInside span isPause
  rw [← total_append]
  exact DisjointSpans.total_le starts (fun span member => (within span member).2.1) apart
    fun span member => ⟨(within span member).1, (within span member).2.2⟩

theorem total_pauses_le (kept : Kept rows pauses first last) (starts : first ≤ last) :
    total pauses ≤ last - first := by
  have noRows : Kept [] pauses first last :=
    ⟨List.Pairwise.nil, by simp, by simp, kept.pausesApart, kept.pausesInside⟩
  simpa [storedSpans] using noRows.total_le starts

end Kept

theorem reportedEnd_le (openRow : WorkBlockObservation .nanoseconds)
    (reported : List ReportedDwell) (boundary : Int) :
    reportedEnd openRow reported boundary ≤ max openRow.occurredAt boundary := by
  simp only [reportedEnd]
  cases isMax : (List.filter _ (List.map (fun dwell : ReportedDwell =>
      min dwell.endedAt boundary) (List.filter _ reported))).max? with
  | none => exact le_max_left _ _
  | some latest =>
    obtain ⟨inEnds, -⟩ := mem_filter.mp (List.max?_mem isMax)
    obtain ⟨dwell, -, rfl⟩ := mem_map.mp inEnds
    exact (min_le_right _ _).trans (le_max_right _ _)

def WorkBlockRecord.frontier (row : WorkBlockRecord .seconds) : Int :=
  row.countedUntil row.updatedAt

def endedPause (block after : WorkBlock) : List Span :=
  match block.phase, after.phase, block.record.pausedAt with
  | .paused, .active, some pausedAt => [(pausedAt, after.record.updatedAt)]
  | _, _, _ => []

namespace WorkBlock

variable {surroundings : Surroundings} {op : Operation} {block after : WorkBlock}
  {pauses : List Span}

/-- The rows and pauses of a block lie between its start and its frontier. -/
structure Tidy (block : WorkBlock) (pauses : List Span) : Prop where
  kept : Kept block.observationRows pauses block.record.startedAt block.record.frontier
  total : total pauses = block.record.totalPausedSeconds
  started : block.record.startedAt ≤ block.record.frontier
  deadline : block.record.frontier ≤ block.record.deadline
  fits : block.record.frontier ≤ block.record.startedAt + u32Max
  updated : block.phase.isLive = true → block.record.frontier ≤ block.record.updatedAt
  closed : block.phase ≠ .active → ∀ row ∈ block.observationRows, row.endedAt.isSome = true

theorem frontier_active (active : block.phase = .active) :
    block.record.frontier = block.record.updatedAt := by
  simp [WorkBlockRecord.frontier, WorkBlockRecord.countedUntil, show block.record.phase = _
    from active]

theorem frontier_paused (paused : block.phase = .paused) {pausedAt : Int}
    (since : block.record.pausedAt = some pausedAt) : block.record.frontier = pausedAt := by
  simp [WorkBlockRecord.frontier, WorkBlockRecord.countedUntil, since,
    show block.record.phase = _ from paused]

theorem frontier_terminal (terminal : block.phase.isTerminal = true) {endedAt : Int}
    (isEnd : block.record.endedAt = some endedAt) : block.record.frontier = endedAt := by
  unfold WorkBlockRecord.frontier WorkBlockRecord.countedUntil
  cases isPhase : block.record.phase <;> simp_all [WorkBlockPhase.isTerminal]

theorem endedPause_of_not_paused (running : block.phase ≠ .paused) :
    endedPause block after = [] := by
  unfold endedPause
  split
  next paused _ _ => exact absurd paused running
  · rfl

theorem endedPause_of_not_active (stopped : after.phase ≠ .active) :
    endedPause block after = [] := by
  unfold endedPause
  split
  next active _ => exact absurd active stopped
  · rfl

theorem endedPause_of_same (same : after.phase = block.phase) :
    endedPause block after = [] := by
  by_cases paused : block.phase = .paused
  · refine endedPause_of_not_active ?_
    rw [same, paused]
    decide
  · exact endedPause_of_not_paused paused

theorem tidy_created {record : WorkBlockRecord .nanoseconds} {now : Int}
    (started : Started record now) : (WorkBlockStore.createdBlock record).Tidy [] := by
  have active : (WorkBlockStore.createdBlock record).phase = .active := started.active
  have frontier : (WorkBlockStore.createdBlock record).record.frontier =
      (WorkBlockStore.createdBlock record).record.startedAt := by
    rw [frontier_active active]
    exact congrArg timestamp (started.updatedAt.trans started.startedAt.symm)
  have neverPaused : (WorkBlockStore.createdBlock record).record.totalPausedSeconds = 0 :=
    started.neverPaused
  constructor
  · exact Kept.empty _ _
  · rw [neverPaused]
    rfl
  · exact frontier.ge
  · rw [frontier]
    unfold WorkBlockRecord.deadline
    omega
  · omega
  · intro _
    exact (frontier_active active).le
  · simp [WorkBlockStore.createdBlock]

theorem Tidy.anyIntention (tidy : block.Tidy pauses) (intention : Option String) :
    (block.withIntention intention).Tidy pauses :=
  ⟨tidy.kept, tidy.total, tidy.started, tidy.deadline, tidy.fits, tidy.updated, tidy.closed⟩

theorem Tidy.kept_closeAtReportedEnd (tidy : block.Tidy pauses) (surroundings : Surroundings)
    {boundary : Int} (reaches : block.record.frontier ≤ timestamp boundary) :
    Kept ((BlockUpdate.closeAtReportedEnd surroundings boundary).apply block).observationRows
      pauses block.record.startedAt (timestamp boundary) := by
  have wider := tidy.kept.mono reaches
  rcases closeAtReportedEnd_rows surroundings boundary block with
    same | ⟨openRow, latest, -, rows⟩
  · rw [same]
    exact wider
  · rw [rows]
    obtain ⟨row, isLast, rfl⟩ := map_eq_some_iff.mp latest
    have member : row ∈ block.observationRows :=
      (mem_insertionSort _).mp (mem_of_getLast? isLast)
    have begins := (wider.inside row member).2.1
    have bound := reportedEnd_le row.loaded
      (surroundings.reportedDwells row.loaded.occurredAt boundary) boundary
    refine wider.closed ((timestamp_mono bound).trans ?_)
    simp only [timestamp_max, WorkBlockObservation.loaded_occurredAt, timestamp_fromTimestamp]
    omega

theorem closeAtReportedEnd_closed (ordered : block.Ordered) (surroundings : Surroundings)
    (boundary : Int) :
    ∀ row ∈ ((BlockUpdate.closeAtReportedEnd surroundings boundary).apply
      block).observationRows, row.endedAt.isSome = true := by
  intro row member
  cases isOpen : block.latestObservation.filter (·.endedAt.isNone) with
  | none =>
    simp only [BlockUpdate.closeAtReportedEnd, isOpen] at member
    rw [ordered.latestObservation] at isOpen
    rcases eq_nil_or_concat' block.observationRows with none | ⟨before, last, rows⟩
    · rw [none] at member
      cases member
    · have closed := ordered.closed
      rw [rows, pairwise_append] at closed
      rw [rows, List.getLast?_concat, map_some, filter_eq_none_iff] at isOpen
      rw [rows, mem_append, mem_singleton] at member
      rcases member with earlier | rfl
      · exact closed.2.2 row earlier last mem_cons_self
      · have isClosed := isOpen _ rfl
        simpa [isSome_iff_ne_none] using isClosed
  | some openRow =>
    simp only [BlockUpdate.closeAtReportedEnd, isOpen, BlockUpdate.closeOpenObservation]
      at member
    obtain ⟨before, -, rfl⟩ := mem_map.mp member
    exact closeRow_isSome _ _

theorem Running.lt_deadline {now : Int} (running : block.Running now)
    (tidy : block.Tidy pauses) (fits : timestamp now ≤ block.record.startedAt + u32Max) :
    max (timestamp now) block.record.updatedAt < block.record.deadline := by
  have spent := running.spent
  have counted := tidy.fits
  rw [frontier_active running.active] at counted
  unfold WorkBlockRecord.spentBy at spent
  unfold WorkBlockRecord.deadline
  omega

theorem tidy_observed (tidy : block.Tidy pauses) {now : Int} (running : block.Running now)
    (fits : timestamp now ≤ block.record.startedAt + u32Max) {row : WorkBlockObservation .seconds}
    (begins : row.occurredAt = timestamp (block.clampedInstant now)) (isOpen : row.endedAt = none)
    (rows : after.observationRows = block.observationRows.map
      (BlockUpdate.closeRow (timestamp (block.clampedInstant now))) ++ [row])
    (isRecord : after.record = { block.record with
        updatedAt := max block.record.updatedAt (timestamp (block.clampedInstant now)) }) :
    after.Tidy pauses := by
  have active : after.phase = .active := by
    rw [phase, isRecord]
    exact running.active
  have before := running.lt_deadline tidy fits
  have frontier := frontier_active running.active
  have clamped := timestamp_clampedInstant block now
  have counted := tidy.fits
  have reaches : block.record.frontier ≤ timestamp (block.clampedInstant now) := by omega
  have isFrontier : after.record.frontier = timestamp (block.clampedInstant now) := by
    rw [frontier_active active, isRecord]
    exact max_eq_right (frontier ▸ reaches)
  have starts := tidy.started
  constructor
  · rw [isFrontier, rows, isRecord]
    exact tidy.kept.opened starts reaches begins isOpen
  · rw [isRecord]
    exact tidy.total
  · rw [isFrontier, isRecord]
    exact starts.trans reaches
  · rw [isFrontier, isRecord, clamped]
    exact min_le_right _ _
  · rw [isFrontier, isRecord, clamped]
    change _ ≤ block.record.startedAt + u32Max
    omega
  · intro _
    exact (frontier_active active).le
  · intro stopped
    exact absurd active stopped

theorem tidy_stopped (tidy : block.Tidy pauses) {boundary : Int}
    (rows : Kept after.observationRows pauses block.record.startedAt (timestamp boundary))
    (closed : ∀ row ∈ after.observationRows, row.endedAt.isSome = true)
    (reaches : block.record.frontier ≤ timestamp boundary)
    (inTime : timestamp boundary ≤ block.record.deadline)
    (fits : timestamp boundary ≤ block.record.startedAt + u32Max)
    (startedAt : after.record.startedAt = block.record.startedAt)
    (planned : after.record.plannedDurationSeconds = block.record.plannedDurationSeconds)
    (totalPaused : after.record.totalPausedSeconds = block.record.totalPausedSeconds)
    (frontier : after.record.frontier = timestamp boundary)
    (updated : after.phase.isLive = true → timestamp boundary ≤ after.record.updatedAt) :
    after.Tidy pauses := by
  constructor
  · rw [frontier, startedAt]
    exact rows
  · rw [totalPaused]
    exact tidy.total
  · rw [frontier, startedAt]
    exact tidy.started.trans reaches
  · rw [frontier]
    unfold WorkBlockRecord.deadline at inTime ⊢
    rw [startedAt, planned, totalPaused]
    exact inTime
  · rw [frontier, startedAt]
    exact fits
  · intro live
    rw [frontier]
    exact updated live
  · intro _
    exact closed

theorem Tidy.ends (tidy : block.Tidy pauses) {clock : Int} (timed : block.Timed)
    (dated : block.Dated clock) (later : clock ≤ op.reading) (punctual : op.Punctual)
    (fits : timestamp op.reading ≤ block.record.startedAt + u32Max)
    {phase : WorkBlockPhase} {endedAt : Int} (ends : block.Ends op phase endedAt) :
    block.record.frontier ≤ timestamp endedAt ∧ timestamp endedAt ≤ block.record.deadline ∧
      timestamp endedAt ≤ block.record.startedAt + u32Max := by
  have bound := (dated.endedAt_le later punctual ends).trans fits
  cases ends with
  | deadline _ active =>
    rw [timestamp_fromTimestamp] at bound ⊢
    exact ⟨tidy.deadline, le_rfl, bound⟩
  | running now isEnd running =>
    subst isEnd
    have before := running.lt_deadline tidy fits
    have frontier := frontier_active running.active
    simp only [timestamp_max, timestamp_fromTimestamp] at bound ⊢
    omega
  | paused now isEnd paused =>
    obtain ⟨pausedAt, since⟩ := isSome_iff_exists.mp (timed.pausedAt paused)
    have frontier := frontier_paused paused since
    have inTime := tidy.deadline
    rw [since, map_some, getD_some, timestamp_fromTimestamp] at bound ⊢
    omega

/-- The pause that ends here joins the others. -/
theorem Tidy.resumed (tidy : block.Tidy pauses) {now pausedAt : Int}
    (paused : block.phase = .paused) (since : block.record.pausedAt = some pausedAt)
    (isRecord : after.record = { block.record with
        phase := .active
        pausedAt := none
        totalPausedSeconds := block.pausedTotal pausedAt
          (max (timestamp now) block.record.updatedAt)
        updatedAt := max (timestamp now) block.record.updatedAt })
    (rows : after.observationRows = block.observationRows)
    (fits : max (timestamp now) block.record.updatedAt ≤ block.record.startedAt + u32Max) :
    after.Tidy (pauses ++ endedPause block after) := by
  have active : after.phase = .active := by
    rw [phase, isRecord]
  have frontier := frontier_paused paused since
  have isFrontier : after.record.frontier = max (timestamp now) block.record.updatedAt := by
    rw [frontier_active active, isRecord]
  have isPause : endedPause block after =
      [(block.record.frontier, max (timestamp now) block.record.updatedAt)] := by
    unfold endedPause
    rw [paused, active, since, frontier, isRecord]
  have live : block.phase.isLive = true := by
    rw [paused]
    rfl
  have starts := tidy.started
  have updated := tidy.updated live
  have reaches : block.record.frontier ≤ max (timestamp now) block.record.updatedAt := by omega
  have room := tidy.kept.total_pauses_le starts
  have counted := tidy.total
  -- the counter of paused seconds has room for this pause
  have total : (block.pausedTotal pausedAt (max (timestamp now) block.record.updatedAt) : Int) =
      block.record.totalPausedSeconds +
        (max (timestamp now) block.record.updatedAt - block.record.frontier) := by
    unfold pausedTotal
    omega
  have stopped : block.phase ≠ .active := by
    rw [paused]
    decide
  constructor
  · rw [isFrontier, isPause, rows, isRecord]
    exact tidy.kept.resumed starts reaches (tidy.closed stopped)
  · rw [isPause, total_append, total_cons, total_nil, counted, isRecord]
    simp only [total]
    omega
  · rw [isFrontier, isRecord]
    exact starts.trans reaches
  · have inTime := tidy.deadline
    rw [isFrontier, isRecord]
    unfold WorkBlockRecord.deadline at inTime ⊢
    simp only [total]
    omega
  · rw [isFrontier, isRecord]
    exact fits
  · intro _
    exact (frontier_active active).le
  · intro isStopped
    exact absurd active isStopped

/-- By the ways a block goes on; a resumed one has one more pause. -/
theorem Tidy.of_advance (tidy : block.Tidy pauses) (accounted : block.Accounted)
    (timed : block.Timed) (ordered : block.Ordered) {clock : Int} (dated : block.Dated clock)
    (later : clock ≤ op.reading) (punctual : op.Punctual) (within : block.phase.isLive = true →
      timestamp op.reading ≤ block.record.startedAt + u32Max)
    (advance : Advance surroundings op block after) :
    after.Tidy (pauses ++ endedPause block after) := by
  have nowUpdated := dated.updatedAt.trans (timestamp_mono later)
  have onTime := timestamp_mono punctual
  cases advance with
  | unchanged =>
    rw [endedPause_of_same rfl, append_nil]
    exact tidy
  | cardSeen now =>
    have isNone : endedPause block ((BlockUpdate.markInterventionCardSeen now).apply block) = [] :=
      endedPause_of_same rfl
    rw [isNone, append_nil]
    exact ⟨tidy.kept, tidy.total, tidy.started, tidy.deadline, tidy.fits, tidy.updated, tidy.closed⟩
  | replied response now =>
    have isNone : endedPause block
        ((BlockUpdate.resolveIntervention (outcomeFor response) now).apply block) = [] :=
      endedPause_of_same rfl
    rw [isNone, append_nil]
    exact ⟨tidy.kept, tidy.total, tidy.started, tidy.deadline, tidy.fits, tidy.updated, tidy.closed⟩
  | paused running =>
    have fits := within running.live
    have frontier := frontier_active running.active
    have clamped := timestamp_clampedInstant block op.instant
    have inTime := tidy.deadline
    have reaches : block.record.frontier ≤ timestamp (block.clampedInstant op.instant) := by
      omega
    have rows := tidy.kept_closeAtReportedEnd surroundings reaches
    have closed := closeAtReportedEnd_closed ordered surroundings (block.clampedInstant op.instant)
    have notPaused : block.phase ≠ .paused := by
      rw [running.active]
      decide
    rw [endedPause_of_not_paused notPaused, append_nil, pausing_apply _ _ running.active]
    exact tidy_stopped tidy rows closed reaches (by omega) (by omega) rfl rfl rfl
      (frontier_paused rfl rfl) fun _ => le_rfl
  | resumed now pausedAt isResume paused since =>
    subst isResume
    have live : block.phase.isLive = true := by
      rw [paused]
      rfl
    have fits := within live
    exact tidy.resumed paused since (resumed_record now pausedAt paused)
      (by rw [setActive_apply _ _ paused])
      (max_le fits (nowUpdated.trans fits))
  | recovered now isRestart running =>
    subst isRestart
    have fits := within running.live
    have frontier := frontier_active running.active
    have before := running.lt_deadline tidy fits
    have notPaused : block.phase ≠ .paused := by
      rw [running.active]
      decide
    have reaches : block.record.frontier ≤ timestamp now := frontier.trans_le nowUpdated
    have rows := tidy.kept_closeAtReportedEnd surroundings reaches
    have closed := closeAtReportedEnd_closed ordered surroundings now
    rw [endedPause_of_not_paused notPaused, append_nil, recovering_apply _ _ running.live]
    exact tidy_stopped tidy rows closed reaches (by omega) fits rfl rfl rfl
      (frontier_active running.active) fun _ => le_rfl
  | recoveredPaused now isRestart paused =>
    subst isRestart
    have live : block.phase.isLive = true := by
      rw [paused]
      rfl
    obtain ⟨pausedAt, since⟩ := isSome_iff_exists.mp (timed.pausedAt paused)
    rw [markRecovered_apply _ live]
    set restarted : WorkBlock := { block with record :=
      { block.record with recoveredAfterRestart := true, updatedAt := timestamp now } }
    have isNone : endedPause block restarted = [] := endedPause_of_same rfl
    have stillPaused : restarted.phase = .paused := paused
    have sameFrontier : restarted.record.frontier = block.record.frontier := by
      rw [frontier_paused paused since, frontier_paused stillPaused since]
    rw [isNone, append_nil]
    constructor
    · rw [sameFrontier]
      exact tidy.kept
    · exact tidy.total
    · rw [sameFrontier]
      exact tidy.started
    · rw [sameFrontier]
      exact tidy.deadline
    · rw [sameFrontier]
      exact tidy.fits
    · intro _
      rw [sameFrontier]
      exact (tidy.updated live).trans nowUpdated
    · exact tidy.closed
  | continued category status confidence occurredAt receivedAt isReport running
      observation reported =>
      subst reported isReport
      have fits := onTime.trans (within running.live)
      have notPaused : block.phase ≠ .paused := by
        rw [running.active]
        decide
      rw [endedPause_of_not_paused notPaused, append_nil]
      exact tidy_observed tidy running fits rfl rfl
        (observing_observationRows _ _) (observing_record _ _)
  | judged category status confidence occurredAt receivedAt isReport running observation reported =>
      subst reported isReport
      have fits := onTime.trans (within running.live)
      have notPaused : block.phase ≠ .paused := by
        rw [running.active]
        decide
      rw [endedPause_of_not_paused notPaused, append_nil]
      exact tidy_observed tidy running fits rfl rfl
        (returning_observationRows _ _) (returning_record _ _)
  | finished phase endedAt live ends =>
    have fits := within live
    obtain ⟨reaches, inTime, inCounter⟩ := tidy.ends timed dated later punctual fits ends
    have rows := tidy.kept_closeAtReportedEnd surroundings reaches
    have closed := closeAtReportedEnd_closed ordered surroundings endedAt
    have terminal := ends.terminal
    rw [finishing_apply _ _ _ live (accounted.noResult live),
      endedPause_of_not_active (by rintro rfl; cases terminal), append_nil]
    exact tidy_stopped tidy rows closed reaches inTime inCounter rfl rfl rfl
      (frontier_terminal terminal rfl) fun isLive => by
        have ended := WorkBlockPhase.not_live_of_terminal terminal
        rw [ended] at isLive

end WorkBlock

namespace WorkBlockManager

variable {manager : WorkBlockManager}

/-- The reading lies within the counter of seconds of every live block. -/
def WithinCounter (manager : WorkBlockManager) (op : Operation) : Prop :=
  ∀ block ∈ manager.store.blocks, block.phase.isLive = true →
    timestamp op.reading ≤ block.record.startedAt + u32Max
  deriving Decidable

def endedPauses (blockId : Uuid) (manager : WorkBlockManager) (op : Operation) : List Span :=
  match manager.store.block blockId, (managerMachine.next manager op).store.block blockId with
  | some block, some after => endedPause block after
  | _, _ => []

/-- The intervals a run has paused a block for and resumed it after. -/
def pausedIntervals (blockId : Uuid) (manager : WorkBlockManager) (ops : List Operation) :
    List Span :=
  managerMachine.history (endedPauses blockId) manager ops

/-- A block of a run is tidy, with the pauses of the run so far. -/
structure TidyAt (manager : WorkBlockManager) (blockId : Uuid) (pauses : List Span)
    (clock : Int) : Prop where
  current : manager.Current clock
  timed : ∀ block ∈ manager.store.blocks, block.Timed
  tidy : ∀ block, manager.store.block blockId = some block → block.Tidy pauses
  fresh : manager.store.block blockId = none → pauses = []

/-- The step of the run, for one block among the others. -/
theorem TidyAt.next {blockId : Uuid} {pauses : List Span} {clock : Int}
    (holds : manager.TidyAt blockId pauses clock) {op : Operation}
    (later : clock ≤ op.reading) (punctual : op.Punctual) (within : manager.WithinCounter op) :
    (managerMachine.next manager op).TidyAt blockId
      (pauses ++ endedPauses blockId manager op) op.reading := by
  have owned := holds.current.inOrder.owned
  constructor
  · exact holds.current.next later punctual
  · intro next member
    rcases block_before op owned.accounted member with
      ⟨block, blockMem, intention, -, advance⟩ | ⟨record, started, rfl⟩
    · have timed := holds.timed block blockMem
      have anyIntention : (block.withIntention intention).Timed :=
        ⟨timed.pausedAt, timed.endedAt, timed.withinPlan, timed.result⟩
      exact anyIntention.of_advance (owned.accounted block blockMem) advance
    · exact WorkBlock.timed_created started
  · intro next nextFound
    cases found : manager.store.block blockId with
    | some block =>
      obtain ⟨after, intention, afterFound, advance⟩ := block_step op owned.accounted found
      have same : after = next := Option.some.inj (afterFound.symm.trans nextFound)
      subst same
      have member := mem_of_block found
      have isEnded : endedPauses blockId manager op = endedPause block after := by
        simp only [endedPauses, found, afterFound]
      have timed := holds.timed block member
      have dated := holds.current.dated block member
      have ordered := ((holds.current.inOrder.orderly block member).anyIntention intention).ordered
      rw [isEnded]
      exact ((holds.tidy block found).anyIntention intention).of_advance
        (owned.accounted block member)
        ⟨timed.pausedAt, timed.endedAt, timed.withinPlan, timed.result⟩ ordered
        ⟨dated.startedAt, dated.updatedAt, dated.pausedAt, dated.planned⟩ later punctual
        (within block member) advance
    | none =>
      have isEnded : endedPauses blockId manager op = [] := by
        simp only [endedPauses, found]
      rw [isEnded, holds.fresh found, append_nil]
      rcases block_before op owned.accounted (mem_of_block nextFound) with
        ⟨block, blockMem, -, sameId, -⟩ | ⟨record, started, rfl⟩
      · have wasThere := block_of_mem blockMem
        rw [← sameId, blockId_of_block nextFound, found] at wasThere
        cases wasThere
      · exact WorkBlock.tidy_created started
  · intro absent
    cases found : manager.store.block blockId with
    | some block =>
      obtain ⟨after, -, afterFound, -⟩ := block_step op owned.accounted found
      rw [absent] at afterFound
      cases afterFound
    | none => simp only [endedPauses, found, holds.fresh found, append_nil]

theorem TidyAt.run {blockId : Uuid} {pauses : List Span} {clock : Int}
    (holds : manager.TidyAt blockId pauses clock) {ops : List Operation}
    (clocked : Clocked clock ops) (within : managerMachine.Meets WithinCounter manager ops) :
    (managerMachine.run manager ops).TidyAt blockId
      (pauses ++ pausedIntervals blockId manager ops) (lastReading clock ops) := by
  induction ops generalizing manager pauses clock with
  | nil =>
    rw [pausedIntervals, Machine.history_nil, append_nil]
    exact holds
  | cons op ops ih =>
    obtain ⟨first, rest⟩ := (Machine.nondecreasing_cons Operation.reading).mp clocked.ordered
    have laterClocked : Clocked op.reading ops :=
      ⟨rest, fun later member => clocked.punctual later (mem_cons_of_mem _ member)⟩
    have stepped := holds.next first (clocked.punctual op mem_cons_self) within.1
    have reached := ih stepped laterClocked within.2
    rw [append_assoc] at reached
    exact reached

theorem tidyAt_opened (focus : Option (Int → Bool))
    (demotionRow : Option (DemotionStateRecord .seconds)) (rawEvents : List RawEventRow)
    (blockId : Uuid) (clock : Int) :
    (opened focus demotionRow rawEvents).TidyAt blockId [] clock := by
  constructor
  · exact ⟨inOrder_opened focus demotionRow rawEvents, by simp [opened]⟩
  · simp [opened]
  · simp [opened, WorkBlockStore.block]
  · intro _
    rfl

end WorkBlockManager

/-- What the ledger of a block keeps to: one open row at most, rows in order that do not
overlap, inside the block's planned time and outside the intervals it was paused for,
and a reported coverage within the elapsed time of its result. -/
structure LedgerHolds (block : WorkBlock) (pauses : List Span) : Prop where
  oneOpen : (block.observationRows.filter fun row => row.endedAt.isNone).length ≤ 1
  apart : block.orderedRows.Pairwise WorkBlockObservation.EndsBefore
  inside : ∀ row ∈ block.observationRows, row.Inside block.record.startedAt block.record.deadline
  outside : ∀ row ∈ block.observationRows, ∀ pause ∈ pauses, row.Outside pause
  stopped : ∀ stoppedAt,
    (block.phase = .paused ∧ block.record.pausedAt = some stoppedAt) ∨
      (block.phase.isTerminal = true ∧ block.record.endedAt = some stoppedAt) →
    ∀ row ∈ block.observationRows, ∃ endedAt, row.endedAt = some endedAt ∧ endedAt ≤ stoppedAt
  covered : ∀ result, block.resultRow = some result →
    ∀ reported fromInstant untilInstant,
      reportedCoverageSeconds reported block.observations fromInstant untilInstant ≤
        result.elapsedDurationSeconds

namespace WorkBlock

variable {block : WorkBlock} {pauses : List Span}

theorem closedSpans_loaded (rows : List (WorkBlockObservation .seconds)) :
    closedSpans (rows.map WorkBlockObservation.loaded) = (Kept.storedSpans rows).map fun span =>
        (fromTimestamp span.1, fromTimestamp span.2) := by
  induction rows with
  | nil => rfl
  | cons row rows ih =>
    unfold closedSpans Kept.storedSpans at ih ⊢
    rw [map_cons, filterMap_cons, filterMap_cons]
    cases isEnd : row.endedAt with
    | none => simpa [isEnd] using ih
    | some endedAt => simpa [isEnd] using ih

theorem total_fromTimestamp (spans : List Span) :
    total (spans.map fun span => (fromTimestamp span.1, fromTimestamp span.2)) =
      1000000000 * total spans := by
  induction spans with
  | nil => rfl
  | cons span spans ih =>
    rw [map_cons, total_cons, total_cons, ih]
    unfold fromTimestamp
    omega

theorem Tidy.total_rows_le (tidy : block.Tidy pauses) {endedAt : Int}
    (terminal : block.phase.isTerminal = true) (isEnd : block.record.endedAt = some endedAt) :
    DisjointSpans.total (Kept.storedSpans block.observationRows) ≤
      block.record.persistedElapsed := by
  have frontier := frontier_terminal terminal isEnd
  have room := tidy.kept.total_le tidy.started
  have counted := tidy.total
  have fits := tidy.fits
  have starts := tidy.started
  rw [WorkBlockRecord.persistedElapsed_terminal _ terminal isEnd]
  unfold WorkBlockRecord.spentBy
  omega

/-- The invariant gives the ledger. -/
theorem Tidy.ledgerHolds (tidy : block.Tidy pauses) (ordered : block.Ordered)
    (timed : block.Timed) (accounted : block.Accounted) : LedgerHolds block pauses := by
  constructor
  · have isLast := tidy.kept.apart
    generalize block.observationRows = rows at isLast
    induction rows with
    | nil => exact Nat.zero_le _
    | cons row rows ih =>
      obtain ⟨first, rest⟩ := pairwise_cons.mp isLast
      rw [filter_cons]
      split
      next isOpen =>
        cases rows with
        | nil => exact le_rfl
        | cons later others =>
          obtain ⟨endedAt, isEnd, -⟩ := first later mem_cons_self
          rw [isEnd] at isOpen
          cases isOpen
      · exact ih rest
  · rw [ordered.orderedRows]
    exact tidy.kept.apart
  · intro row member
    obtain ⟨begins, starts, ends⟩ := tidy.kept.inside row member
    exact ⟨begins, starts.trans tidy.deadline, fun endedAt isEnd =>
      ⟨(ends endedAt isEnd).1, (ends endedAt isEnd).2.trans tidy.deadline⟩⟩
  · exact tidy.kept.outside
  · intro stoppedAt isStop row member
    have stops : block.phase ≠ .active ∧ block.record.frontier = stoppedAt := by
      rcases isStop with ⟨paused, since⟩ | ⟨terminal, isEnd⟩
      · exact ⟨by rw [paused]; decide, frontier_paused paused since⟩
      · refine ⟨fun active => ?_, frontier_terminal terminal isEnd⟩
        rw [active] at terminal
        cases terminal
    obtain ⟨endedAt, isEnd⟩ := isSome_iff_exists.mp (tidy.closed stops.1 row member)
    exact ⟨endedAt, isEnd, stops.2 ▸ ((tidy.kept.inside row member).2.2 endedAt isEnd).2⟩
  · intro result isResult reported fromInstant untilInstant
    have terminal : block.phase.isTerminal = true := by
      rcases accounted with ⟨-, noResult⟩ | ⟨terminal, -⟩
      · rw [noResult] at isResult
        cases isResult
      · exact terminal
    obtain ⟨endedAt, isEnd⟩ := isSome_iff_exists.mp (timed.endedAt terminal)
    have within := tidy.total_rows_le terminal isEnd
    have spans : closedSpans block.observations =
        (Kept.storedSpans block.observationRows).map fun span =>
          (fromTimestamp span.1, fromTimestamp span.2) := by
      rw [observations, ordered.orderedRows, closedSpans_loaded]
    rw [(timed.result result isResult).1]
    apply reportedCoverageSeconds_le
    · intro span member
      rw [spans] at member
      obtain ⟨stored, isStored, rfl⟩ := mem_map.mp member
      obtain ⟨row, rowMem, begins, isEnd⟩ := Kept.mem_storedSpans.mp isStored
      have proper := ((tidy.kept.inside row rowMem).2.2 stored.2 isEnd).1
      rw [begins] at proper
      exact fromTimestamp_le.mpr proper
    · rw [spans, total_fromTimestamp]
      omega

end WorkBlock

/-- Under a nondecreasing clock that stays within the counter of seconds of every live
block, in every state reached, the ledger of every block holds. -/
theorem observation_ledger_holds (focus : Option (Int → Bool))
    (demotionRow : Option (DemotionStateRecord .seconds)) (rawEvents : List RawEventRow)
    (clock : Int) (ops : List Operation) (clocked : Clocked clock ops)
    (within : managerMachine.Meets WorkBlockManager.WithinCounter
      (WorkBlockManager.opened focus demotionRow rawEvents) ops) :
    ∀ block ∈ (managerMachine.run (WorkBlockManager.opened focus demotionRow rawEvents)
        ops).store.blocks,
      LedgerHolds block (WorkBlockManager.pausedIntervals block.blockId
        (WorkBlockManager.opened focus demotionRow rawEvents) ops) := by
  intro block member
  have reached := (WorkBlockManager.tidyAt_opened focus demotionRow rawEvents block.blockId
    clock).run clocked within
  rw [nil_append] at reached
  have tidy := reached.tidy block (block_of_mem member)
  exact tidy.ledgerHolds (reached.current.inOrder.orderly block member).ordered
    (reached.timed block member) (reached.current.inOrder.owned.accounted block member)

/-- A pause that fills the counter of paused seconds leaves an elapsed time of zero, and a
dwell reported before the pause covers more. -/
theorem full_pause_covers_more_than_elapsed :
    let opened := WorkBlockManager.opened none none []
    let ops : List Operation :=
      [.start ⟨none, 1800, none, .medium⟩ 1 0,
        .observeSafeCategory "work" .classified .high 0 0,
        .replaceRawEvents [⟨0, 100, "work", "classified", "high"⟩] (Duration.seconds 100),
        .pause 1 (Duration.seconds 100), .resume 1 (Duration.seconds 4294967396),
        .endBlock 1 (Duration.seconds 4294967396)]
    Clocked 0 ops ∧ ∃ block ∈ (managerMachine.run opened ops).store.blocks,
      ¬ LedgerHolds block (WorkBlockManager.pausedIntervals block.blockId opened ops) := by
  intro opened ops
  refine ⟨⟨?_, ?_⟩, ?_⟩
  · simp [ops, Machine.Nondecreasing, Operation.reading, Duration.seconds]
  · simp [ops, Operation.Punctual, Operation.instant, Operation.reading, Duration.seconds]
  have reached : (managerMachine.run opened ops).store.blocks.map (fun block =>
      (block.resultRow.map (·.elapsedDurationSeconds),
        reportedCoverageSeconds ((managerMachine.run opened ops).store.reportedDwells 0
          (Duration.seconds 4294967396)) block.observations 0
            (Duration.seconds 4294967396))) = [(some 0, 100)] := by
    decide +kernel
  obtain ⟨block, blocks, isBlock⟩ := map_eq_singleton_iff.mp reached
  simp only [Prod.mk.injEq, map_eq_some_iff] at isBlock
  obtain ⟨⟨result, isResult, elapsed⟩, coverage⟩ := isBlock
  refine ⟨block, by simp [blocks], fun holds => ?_⟩
  have covered := holds.covered result isResult
    ((managerMachine.run opened ops).store.reportedDwells 0 (Duration.seconds 4294967396)) 0
    (Duration.seconds 4294967396)
  rw [coverage, elapsed] at covered
  omega

/-- A paused and resumed block of a minute. -/
theorem observation_ledger_holds_after_pause :
    let ops : List Operation :=
      [.start ⟨none, 1800, none, .medium⟩ 1 0,
        .observeSafeCategory "work" .classified .high 0 (Duration.seconds 10),
        .pause 1 (Duration.seconds 20), .resume 1 (Duration.seconds 40),
        .endBlock 1 (Duration.seconds 60)]
    ∃ block ∈ (managerMachine.run (WorkBlockManager.opened none none []) ops).store.blocks,
      block.phase = .abandoned ∧
        LedgerHolds block (WorkBlockManager.pausedIntervals block.blockId
          (WorkBlockManager.opened none none []) ops) := by
  intro ops
  have within : managerMachine.Meets WorkBlockManager.WithinCounter
      (WorkBlockManager.opened none none []) ops := by
    decide +kernel
  have clocked : Clocked 0 ops := by
    constructor
    · simp [ops, Machine.Nondecreasing, Operation.reading, Duration.seconds]
    · simp [ops, Operation.Punctual, Operation.instant, Operation.reading, Duration.seconds]
  have holds := observation_ledger_holds none none [] 0 ops clocked within
  have phases : (managerMachine.run (WorkBlockManager.opened none none [])
      ops).store.blocks.map WorkBlock.phase = [.abandoned] := by
    decide +kernel
  obtain ⟨block, blocks, abandoned⟩ := map_eq_singleton_iff.mp phases
  have member : block ∈ (managerMachine.run (WorkBlockManager.opened none none [])
      ops).store.blocks := by
    simp [blocks]
  exact ⟨block, member, abandoned, holds block member⟩

end Velvt
