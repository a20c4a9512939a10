import Velvt.InvitationPacing
import Velvt.KeyedRows

/-!
# Unanswered invitations

Silence is not an answer: an invitation that ended without one should leave the backoff as the
invitations before it left it.
-/

namespace Velvt

open List

/-- Invitations after a history that all ended without an answer. -/
structure UnansweredRun (history : InitiationTables) where
  rows : List InitiationInvitationRecord
  unanswered : ∀ row ∈ rows, row.outcome = .noResponse ∨ row.outcome = .expired
  later : ∀ old ∈ history.invitations, ∀ row ∈ rows, old.offeredAt < row.offeredAt

namespace UnansweredRun

variable {history : InitiationTables} (run : UnansweredRun history)

def after : InitiationTables :=
  { history with invitations := history.invitations ++ run.rows }

abbrev scan (tables : InitiationTables) : List InitiationInvitationRecord :=
  tables.recentInvitations backoffScanLimit

/-- The backoff is the same as without the run: the trailing dismissals, the cooldown they make,
and the silence after them. -/
structure ChangesNothing : Prop where
  dismissals : (trailingDismissals (scan run.after)).1 = (trailingDismissals (scan history)).1
  cooldown : invitationCooldown (trailingDismissals (scan run.after)).1 =
    invitationCooldown (trailingDismissals (scan history)).1
  silence : ∀ now, InitiationTables.silenced (scan run.after) now =
    InitiationTables.silenced (scan history) now

/-- No dismissal that counted is pushed out of the scan: of the rows since the last acceptance,
those that the run leaves no room for hold none. -/
def PushesNoDismissal : Prop :=
  ∀ row ∈ (sinceAcceptance (scan history)).drop (backoffScanLimit - run.rows.length),
    row.outcome ≠ .dismissed
  deriving Decidable

theorem sort_after : run.after.invitations.insertionSort InitiationInvitationRecord.NewestFirst =
      run.rows.insertionSort InitiationInvitationRecord.NewestFirst ++
        history.invitations.insertionSort InitiationInvitationRecord.NewestFirst := by
  apply KeyedRows.insertionSort_append_front
  intro old oldIn row rowIn newest
  have ordered := run.later old oldIn row rowIn
  rcases newest with before | ⟨same, -⟩ <;> omega

theorem sinceAcceptance_after : sinceAcceptance (scan run.after) =
      (run.rows.insertionSort InitiationInvitationRecord.NewestFirst).take backoffScanLimit ++
        (sinceAcceptance (scan history)).take (backoffScanLimit - run.rows.length) := by
  have unaccepted : ∀ row ∈
      (run.rows.insertionSort InitiationInvitationRecord.NewestFirst).take backoffScanLimit,
      decide (row.outcome ≠ .accepted) = true := by
    intro row member
    have rowIn := (mem_insertionSort _).mp (mem_of_mem_take member)
    rcases run.unanswered row rowIn with silent | invalid <;> simp [*]
  rw [scan, InitiationTables.recentInvitations, sort_after, take_append,
    length_insertionSort, sinceAcceptance, takeWhile_append_of_pos unaccepted,
    sinceAcceptance, scan, InitiationTables.recentInvitations, take_takeWhile, take_take,
    Nat.min_eq_left (Nat.sub_le _ _)]

theorem undismissed_run :
    ∀ row ∈ (run.rows.insertionSort InitiationInvitationRecord.NewestFirst).take backoffScanLimit,
      ¬ decide (row.outcome = .dismissed) = true := by
  intro row member
  have rowIn := (mem_insertionSort _).mp (mem_of_mem_take member)
  rcases run.unanswered row rowIn with silent | invalid <;> simp [*]

theorem dismissals_after : dismissals (scan run.after) =
      ((sinceAcceptance (scan history)).take (backoffScanLimit - run.rows.length)).countP
        fun row => decide (row.outcome = .dismissed) := by
  rw [dismissals, sinceAcceptance_after, countP_append,
    countP_eq_zero.mpr run.undismissed_run, Nat.zero_add]

theorem lastDismissal_after : lastDismissal (scan run.after) =
      ((sinceAcceptance (scan history)).take (backoffScanLimit - run.rows.length)).find?
        fun row => decide (row.outcome = .dismissed) := by
  rw [lastDismissal, sinceAcceptance_after, List.find?_append,
    List.find?_eq_none.mpr run.undismissed_run, Option.none_or]

theorem trailingDismissals_scan (tables : InitiationTables) : trailingDismissals (scan tables) =
      (dismissals (scan tables),
        (lastDismissal (scan tables)).map fun row => row.outcomeAt.getD row.offeredAt) := by
  have short : (scan tables).length ≤ backoffScanLimit := length_take_le _ _
  rw [trailingDismissals, trailingDismissalsFrom_eq]
  · simp
  · exact (Nat.add_le_add_left short 0).trans (by decide)

/-- Unanswered invitations change nothing about the backoff exactly where they push no dismissal
out of its scan. -/
theorem unanswered_changes_nothing_iff :
    run.ChangesNothing ↔ run.PushesNoDismissal := by
  set counted := sinceAcceptance (scan history) with isCounted
  set room := backoffScanLimit - run.rows.length with isRoom
  constructor
  · intro same row pushed
    have counts := same.dismissals
    rw [trailingDismissals_scan, trailingDismissals_scan] at counts
    have split : dismissals (scan history) = dismissals (scan run.after) +
        (counted.drop room).countP fun row => decide (row.outcome = .dismissed) := by
      rw [run.dismissals_after, dismissals, ← isCounted, ← isRoom, ← countP_append,
        take_append_drop]
    have none_pushed : ((counted.drop room).countP fun row =>
        decide (row.outcome = .dismissed)) = 0 := by
      simp only at counts
      omega
    have undismissed := countP_eq_zero.mp none_pushed row pushed
    simpa using undismissed
  · intro keeps
    have none_pushed : ∀ row ∈ counted.drop room, ¬ decide (row.outcome = .dismissed) = true :=
      fun row pushed => by simpa using keeps row pushed
    have counts : dismissals (scan run.after) = dismissals (scan history) := by
      rw [run.dismissals_after, countP_take none_pushed, dismissals]
    have last : lastDismissal (scan run.after) = lastDismissal (scan history) := by
      rw [run.lastDismissal_after, find?_take none_pushed, lastDismissal]
    have same : trailingDismissals (scan run.after) = trailingDismissals (scan history) := by
      rw [trailingDismissals_scan, trailingDismissals_scan, counts, last]
    constructor
    · rw [same]
    · rw [same]
    · intro now
      rw [InitiationTables.silenced, InitiationTables.silenced, same]

def invitationOfDay (outcome : InitiationInvitationOutcome) (day : Nat) :
    InitiationInvitationRecord where
  invitationId := toString day
  offeredAt := 86400 * day
  localDate := day
  actionId := invitationActionId
  policyVersion := goodHoursPolicyVersion
  backoffPolicyVersion := invitationBackoffPolicyVersion
  outcome := outcome
  outcomeAt := some (86400 * day + 1800)

/-- Three dismissals, and then a month and two days without an answer. -/
def monthOfSilence : UnansweredRun
    { InitiationTables.empty with
      invitations := (List.range 3).map (invitationOfDay .dismissed) } where
  rows := (List.range 32).map fun day => invitationOfDay .noResponse (day + 30)
  unanswered := by
    intro row member
    obtain ⟨day, -, rfl⟩ := mem_map.mp member
    exact .inl rfl
  later := by
    intro old oldIn row member
    obtain ⟨oldDay, isOld, rfl⟩ := mem_map.mp oldIn
    obtain ⟨day, -, rfl⟩ := mem_map.mp member
    have := mem_range.mp isOld
    simp only [invitationOfDay]
    omega

/-- The three dismissals are forgotten, and with them a cooldown of eight days. -/
theorem silence_forgets_dismissals : ¬ monthOfSilence.ChangesNothing := by
  intro same
  have counts := same.dismissals
  revert counts
  decide +kernel

end UnansweredRun

end Velvt
