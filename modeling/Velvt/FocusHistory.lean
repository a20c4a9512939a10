import Mathlib.Data.List.Chain
import Velvt.FocusEvidence

/-!
# The Focus evidence follows the reports

The evidence table holds its rows in time order, neighbours differ in their state, and the newest
row says what the last report said.
-/

namespace Velvt

open StepMachine List TableRows Option

namespace FocusRow

instance : Std.Total NewestFirst where
  total first second := by
    simp only [NewestFirst]
    omega

instance : IsTrans FocusRow NewestFirst where
  trans first second third := by
    simp only [NewestFirst]
    omega

/-- The second row was stored later, and its bucket is no earlier. -/
def Before (first second : FocusRow) : Prop :=
  first.changedAtBucket ≤ second.changedAtBucket ∧ first.id < second.id

variable {rows : List FocusRow}

theorem newestFirst_of_ordered (ordered : rows.Pairwise Before) :
    rows.Pairwise fun first second => second.NewestFirst first := by
  refine ordered.imp ?_
  rintro first second ⟨bucket, number⟩
  simp only [NewestFirst]
  omega

theorem eq_of_newestFirst (ordered : rows.Pairwise Before) {first second : FocusRow}
    (firstIn : first ∈ rows) (secondIn : second ∈ rows)
    (newer : first.NewestFirst second) (older : second.NewestFirst first) : second = first := by
  have sameId : second.id = first.id := by
    simp only [NewestFirst] at newer older
    omega
  have apart : (rows.map (·.id)).Nodup :=
    pairwise_map.mpr (ordered.imp fun before => Nat.ne_of_lt before.2)
  exact inj_on_of_nodup_map apart secondIn firstIn sameId

theorem insertionSort_of_ordered (ordered : rows.Pairwise Before) :
    rows.insertionSort NewestFirst = rows.reverse :=
  insertionSort_eq_reverse (newestFirst_of_ordered ordered)
    fun _ firstIn _ secondIn => eq_of_newestFirst ordered firstIn secondIn

theorem first_of_ordered (ordered : rows.Pairwise Before) :
    TableRows.first NewestFirst rows = rows.getLast? :=
  first_eq_getLast? (newestFirst_of_ordered ordered)
    fun _ firstIn _ secondIn => eq_of_newestFirst ordered firstIn secondIn

end FocusRow

namespace FocusTables

/-- The evidence is in time order and its neighbours differ. -/
structure EvidenceOrdered (tables : FocusTables) : Prop where
  ordered : tables.evidence.Pairwise FocusRow.Before
  numbered : ∀ row ∈ tables.evidence, row.id ≤ tables.lastId
  alternates : tables.evidence.IsChain fun first second => first.active ≠ second.active

/-- The evidence is behind a report, and its newest row says what the report says. -/
structure Follows (tables : FocusTables) (report : FocusReport) : Prop
    extends EvidenceOrdered tables where
  behind : ∀ row ∈ tables.evidence,
    row.changedAtBucket ≤ timestamp (floorToBucket report.occurredAt)
  newest : tables.evidence.getLast?.map (·.active) = some report.active

theorem floorToBucket_mono {first second : Int} (ordered : first ≤ second) :
    timestamp (floorToBucket first) ≤ timestamp (floorToBucket second) := by
  have stored := timestamp_mono ordered
  simp only [floorToBucket, timestamp_fromTimestamp, focusEvidenceBucketSeconds]
  omega

variable {tables : FocusTables}

theorem pruneFocusEvidence_suffix (holds : tables.EvidenceOrdered) (cutoff : Int) :
    (tables.pruneFocusEvidence cutoff).evidence <:+ tables.evidence := by
  refine filter_suffix (holds.ordered.imp ?_)
  rintro first second ⟨bucket, -⟩ kept
  simp only [Bool.not_eq_eq_eq_not, Bool.not_true, decide_eq_false_iff_not] at kept ⊢
  omega

theorem EvidenceOrdered.prune (holds : tables.EvidenceOrdered) (cutoff : Int) :
    (tables.pruneFocusEvidence cutoff).EvidenceOrdered where
  ordered := holds.ordered.sublist (pruneFocusEvidence_suffix holds cutoff).sublist
  numbered row member :=
    holds.numbered row ((pruneFocusEvidence_suffix holds cutoff).subset member)
  alternates := holds.alternates.suffix (pruneFocusEvidence_suffix holds cutoff)

theorem EvidenceOrdered.setUtcOffset (holds : tables.EvidenceOrdered) (seconds instant : Int) :
    (tables.setUtcOffset seconds instant).EvidenceOrdered where
  ordered := holds.ordered
  numbered := holds.numbered
  alternates := holds.alternates

@[simp]
theorem evaluatePatternRule_evidence (tables : FocusTables) (now : Int) :
    (tables.evaluatePatternRule now).evidence = tables.evidence := by
  simp only [evaluatePatternRule]
  repeat' split
  all_goals rfl

@[simp]
theorem evaluatePatternRule_lastId (tables : FocusTables) (now : Int) :
    (tables.evaluatePatternRule now).lastId = tables.lastId := by
  simp only [evaluatePatternRule]
  repeat' split
  all_goals rfl

theorem EvidenceOrdered.evaluatePatternRule (holds : tables.EvidenceOrdered) (now : Int) :
    (tables.evaluatePatternRule now).EvidenceOrdered where
  ordered := by simpa using holds.ordered
  numbered := by simpa using holds.numbered
  alternates := by simpa using holds.alternates

variable {report : FocusReport}

theorem follows_recordFocusTransition (holds : tables.EvidenceOrdered)
    (behind : ∀ row ∈ tables.evidence,
      row.changedAtBucket ≤ timestamp (floorToBucket report.occurredAt)) :
    (tables.recordFocusTransition (transitionOf report)).Follows report := by
  have newest : tables.latestFocusTransition = tables.evidence.getLast? :=
    FocusRow.first_of_ordered holds.ordered
  simp only [recordFocusTransition, newest]
  split
  case isTrue same =>
    exact { holds with behind := behind, newest := same }
  case isFalse different =>
    refine { ordered := ?_, numbered := ?_, alternates := ?_, behind := ?_, newest := ?_ }
    · refine pairwise_append.mpr ⟨holds.ordered, pairwise_singleton _ _, ?_⟩
      intro row member fresh isFresh
      obtain rfl := mem_singleton.mp isFresh
      exact ⟨behind row member, Nat.lt_succ_of_le (holds.numbered row member)⟩
    · intro row member
      rcases mem_append.mp member with old | isFresh
      · exact Nat.le_succ_of_le (holds.numbered row old)
      · rw [mem_singleton.mp isFresh]
        exact Nat.le_refl _
    · refine isChain_append.mpr ⟨holds.alternates, isChain_singleton _, ?_⟩
      intro last isLast fresh isFresh
      rw [mem_def] at isLast isFresh
      rw [isLast] at different
      obtain rfl := Option.some.inj isFresh
      exact fun same => different (congrArg some same)
    · intro row member
      rcases mem_append.mp member with old | isFresh
      · exact behind row old
      · rw [mem_singleton.mp isFresh]
        exact Int.le_refl _
    · rw [insertTransition, List.getLast?_concat]
      rfl

theorem follows_recordTransition (holds : tables.EvidenceOrdered) (behind : ∀ row ∈ tables.evidence,
      row.changedAtBucket ≤ timestamp (floorToBucket report.occurredAt)) :
    (tables.recordTransition report).Follows report := by
  have observed := holds.setUtcOffset (clampOffset report.utcOffsetSeconds) report.now
  have recorded : (FocusTables.recordFocusTransition _ (transitionOf report)).Follows report :=
    follows_recordFocusTransition
      (observed.prune (report.now - Duration.days focusEvidenceRetentionDays))
      fun row member => behind row ((pruneFocusEvidence_suffix observed _).subset member)
  exact { recorded.toEvidenceOrdered.evaluatePatternRule report.now with
      behind := by simpa [recordTransition] using recorded.behind
      newest := by simpa [recordTransition] using recorded.newest }

theorem Follows.isFocusActive (follows : tables.Follows report)
    {instant : Int} (later : report.occurredAt ≤ instant) :
    tables.isFocusActive instant = report.active := by
  have all : (tables.evidence.filter fun row =>
      decide (row.changedAtBucket ≤ timestamp (floorToBucket instant))) = tables.evidence := by
    refine filter_eq_self.mpr fun row member => ?_
    rw [decide_eq_true_eq]
    exact (follows.behind row member).trans (floorToBucket_mono later)
  rw [FocusTables.isFocusActive, focusStateAtBucket, transitionAtBucket, all,
    FocusRow.first_of_ordered follows.ordered, follows.newest, getD_some]

/-- A prune leaves the transitions from the cutoff on. -/
theorem transitionAtBucket_prune (holds : tables.EvidenceOrdered) (cutoff bucket : Int) :
    (tables.pruneFocusEvidence cutoff).transitionAtBucket bucket =
      (tables.transitionAtBucket bucket).filter fun row =>
        decide (timestamp cutoff ≤ row.changedAtBucket) := by
  simp only [transitionAtBucket, pruneFocusEvidence]
  cases found : TableRows.first FocusRow.NewestFirst
      (tables.evidence.filter fun row => decide (row.changedAtBucket ≤ timestamp bucket)) with
  | none =>
    have none := filter_eq_nil_iff.mp (first_eq_none_iff.mp found)
    rw [filter_none, first_eq_none_iff, filter_eq_nil_iff]
    exact fun row member => none row (mem_filter.mp member).1
  | some row =>
    obtain ⟨stored, early⟩ := mem_filter.mp (mem_of_first found)
    have newer : ∀ other ∈ tables.evidence,
        other.changedAtBucket ≤ timestamp bucket → row.NewestFirst other := by
      intro other member earlier
      rcases first_before found (mem_filter.mpr ⟨member, decide_eq_true earlier⟩) with same | before
      · rw [same]
        exact Or.inr ⟨rfl, Nat.le_refl _⟩
      · exact before
    by_cases kept : timestamp cutoff ≤ row.changedAtBucket
    · rw [filter_some, if_pos (decide_eq_true kept)]
      refine first_eq_some ?_ ?_ ?_
      · exact mem_filter.mpr ⟨mem_filter.mpr ⟨stored, by simpa using kept⟩, early⟩
      · intro other member
        obtain ⟨member, earlier⟩ := mem_filter.mp member
        exact newer other (mem_filter.mp member).1 (of_decide_eq_true earlier)
      · intro other member forth back
        exact FocusRow.eq_of_newestFirst holds.ordered stored
          (mem_filter.mp (mem_filter.mp member).1).1 forth back
    · rw [filter_some, if_neg (by simpa using kept), first_eq_none_iff, filter_eq_nil_iff]
      intro other member earlier
      obtain ⟨member, recent⟩ := mem_filter.mp member
      have before := newer other member (of_decide_eq_true earlier)
      simp only [FocusRow.NewestFirst] at before
      simp only [Bool.not_eq_eq_eq_not, Bool.not_true, decide_eq_false_iff_not] at recent
      omega

theorem isFocusActive_prune_ne_iff (holds : tables.EvidenceOrdered) (cutoff instant : Int) :
    (tables.pruneFocusEvidence cutoff).isFocusActive instant ≠ tables.isFocusActive instant ↔
      ∃ row, tables.transitionAtBucket (floorToBucket instant) = some row ∧
        row.active = true ∧ row.changedAtBucket < timestamp cutoff := by
  simp only [FocusTables.isFocusActive, focusStateAtBucket, transitionAtBucket_prune holds]
  cases found : tables.transitionAtBucket (floorToBucket instant) with
  | none => simp
  | some row =>
    rcases Int.lt_or_le row.changedAtBucket (timestamp cutoff) with old | recent
    · simp [filter_some, old, Int.not_le.mpr old]
    · simp [filter_some, recent, Int.not_lt.mpr recent]

/-- The evidence is ordered and behind an instant. -/
def BehindInstant (tables : FocusTables) (instant : Int) : Prop :=
  tables.EvidenceOrdered ∧
    ∀ row ∈ tables.evidence, row.changedAtBucket ≤ timestamp (floorToBucket instant)

theorem behindInstant_of_empty (fresh : tables.evidence = []) (instant : Int) :
    tables.BehindInstant instant := by
  refine ⟨{ ordered := ?_, numbered := ?_, alternates := ?_ }, ?_⟩
  · rw [fresh]
    exact List.Pairwise.nil
  · simp [fresh]
  · rw [fresh]
    exact isChain_nil
  · simp [fresh]

theorem BehindInstant.recordTransition {clock : Int} (holds : tables.BehindInstant clock)
    (later : clock ≤ report.occurredAt) :
    (tables.recordTransition report).Follows report :=
  follows_recordTransition holds.1 fun row member =>
    (holds.2 row member).trans (floorToBucket_mono later)

theorem Follows.behindInstant (follows : tables.Follows report) :
    tables.BehindInstant report.occurredAt :=
  ⟨follows.toEvidenceOrdered, follows.behind⟩

theorem run_follows (fresh : tables.evidence = []) {reports : List FocusReport} {last : FocusReport}
    (ordered : (reports ++ [last]).Pairwise fun earlier later =>
      earlier.occurredAt ≤ later.occurredAt) :
    (focusMachine.run tables (reports ++ [last])).Follows last := by
  induction reports using List.reverseRecOn generalizing last with
  | nil =>
    exact (behindInstant_of_empty fresh last.occurredAt).recordTransition (Int.le_refl _)
  | append_singleton reports earlier ih =>
    obtain ⟨before, -, across⟩ := pairwise_append.mp ordered
    rw [Machine.run_append]
    exact (ih before).behindInstant.recordTransition (across earlier (by simp) last (by simp))

end FocusTables

open FocusTables

/-- After reports in time order every later instant is answered with the last report, the
stored rows alternate in time order, and pruning changes the answer for an instant exactly
where the transition that decides it is an activation from before the cutoff. -/
theorem focus_follows_reports (tables : FocusTables) (fresh : tables.evidence = [])
    (reports : List FocusReport) (ordered : reports.Pairwise fun earlier later =>
      earlier.occurredAt ≤ later.occurredAt ∧ earlier.now ≤ later.now) :
    (∀ last, reports.getLast? = some last → ∀ instant, last.occurredAt ≤ instant →
        (focusMachine.run tables reports).isFocusActive instant = last.active) ∧
      (((focusMachine.run tables reports).evidence.insertionSort
        FocusRow.NewestFirst).IsChain fun newer older => newer.active ≠ older.active) ∧
      ∀ cutoff instant,
        ((focusMachine.run tables reports).pruneFocusEvidence cutoff).isFocusActive instant ≠
            (focusMachine.run tables reports).isFocusActive instant ↔
          ∃ row, (focusMachine.run tables reports).transitionAtBucket
              (floorToBucket instant) = some row ∧
            row.active = true ∧ row.changedAtBucket < timestamp cutoff := by
  have reached : (focusMachine.run tables reports).EvidenceOrdered := by
    induction reports using List.reverseRecOn with
    | nil => exact (behindInstant_of_empty fresh 0).1
    | append_singleton reports last _ =>
      exact (run_follows fresh (ordered.imp And.left)).toEvidenceOrdered
  refine ⟨?_, ?_, isFocusActive_prune_ne_iff reached⟩
  · intro last isLast instant later
    obtain ⟨earlier, rfl⟩ := List.getLast?_eq_some_iff.mp isLast
    exact (run_follows fresh (ordered.imp And.left)).isFocusActive later
  · rw [FocusRow.insertionSort_of_ordered reached.ordered, isChain_reverse]
    exact reached.alternates.imp fun _ _ different => different.symm

def FocusReport.onDay (active : Bool) (day : Int) : FocusReport where
  active := active
  occurredAt := Duration.days day
  utcOffsetSeconds := 0
  now := Duration.days day

/-- Focus was on for twenty days, and is off the day after. -/
theorem focus_follows_reports_toggled :
    (focusMachine.run FocusTables.empty
      [FocusReport.onDay true 0, FocusReport.onDay true 20,
        FocusReport.onDay false 20]).isFocusActive (Duration.days 21) = false :=
  (focus_follows_reports FocusTables.empty rfl
    [FocusReport.onDay true 0, FocusReport.onDay true 20, FocusReport.onDay false 20]
    (by decide)).1 (FocusReport.onDay false 20) rfl (Duration.days 21) (by decide)

/-- Focus stays on for twenty days.  The repeat prunes the activation, and the tenth day,
well inside the retention window, is inactive from then on. -/
theorem pruned_activation_inactive :
    Duration.days 20 - Duration.days focusEvidenceRetentionDays ≤ Duration.days 10 ∧
      (focusMachine.run FocusTables.empty [FocusReport.onDay true 0]).isFocusActive
        (Duration.days 10) = true ∧
      ((focusMachine.run FocusTables.empty [FocusReport.onDay true 0]).pruneFocusEvidence
        (Duration.days 20 - Duration.days focusEvidenceRetentionDays)).isFocusActive
          (Duration.days 10) = false ∧
      (focusMachine.run FocusTables.empty
        [FocusReport.onDay true 0, FocusReport.onDay true 20]).isFocusActive
          (Duration.days 10) = false := by
  decide +kernel

end Velvt
