import Velvt.KeyedRows
import Velvt.WorkBlockAdvance

/-!
# Backoff and newer outcomes

The backoff is recomputed from the newest rows of the intervention table.
-/

namespace Velvt

open List

/-- The second backoff waits at least as long and is at least as quiet. -/
structure BackoffState.AsRestrictive (before after : BackoffState) : Prop where
  suppressed : before.suppressed = true → after.suppressed = true
  salience : before.salience = .quiet → after.salience = .quiet

def backoffOver (rows : List (WorkBlockIntervention .seconds)) (now : Int) : BackoffState :=
  backoffOf (recentInterventions rows backoffHistoryLimit) now

namespace WorkBlockIntervention

variable (row : WorkBlockIntervention .seconds)

def resolvedAt : Int := row.outcomeAt.getD row.offeredAt

end WorkBlockIntervention

/-- The resolved rows of the newest ones, up to the first that is not
negative. -/
def negativeStreak (rows : List (WorkBlockIntervention .seconds)) (limit : Nat) :
    List (WorkBlockIntervention .seconds) :=
  let newestFirst := rows.insertionSort fun first second =>
    second.offeredAt ≤ first.offeredAt
  ((newestFirst.take limit).filter (·.outcome.isTerminal)).takeWhile (·.outcome.isNegative)

/-- Two hours, doubled by each further negative row, and a day at most. -/
def cooldownSeconds (streak : Nat) : Int :=
  min (2 * 60 * 60 * 2 ^ min (streak - 1) 16) (24 * 60 * 60)

theorem lt_loaded_add_seconds (now stored count : Int) :
    now < fromTimestamp stored + Duration.seconds count ↔
      timestamp now < stored + count := by
  rw [fromTimestamp_add_seconds, lt_fromTimestamp_iff]

theorem backoffOver_eq (rows : List (WorkBlockIntervention .seconds)) (now : Int) :
    backoffOver rows now = match negativeStreak rows backoffHistoryLimit with
      | [] => { suppressed := false, salience := .normal }
      | latest :: rest =>
        { suppressed := decide (timestamp now <
            latest.resolvedAt + cooldownSeconds (rest.length + 1))
          salience := .quiet } := by
  have streak : ((recentInterventions rows backoffHistoryLimit).filter
      (·.outcome.isTerminal)).takeWhile (·.outcome.isNegative) =
        (negativeStreak rows backoffHistoryLimit).map WorkBlockIntervention.loaded := by
    simp only [recentInterventions, negativeStreak, filter_map, takeWhile_map]
    rfl
  simp only [backoffOver, backoffOf, streak]
  cases negativeStreak rows backoffHistoryLimit with
  | nil => rfl
  | cons latest rest =>
    have since : (latest.loaded.outcomeAt.getD latest.loaded.offeredAt) =
        fromTimestamp latest.resolvedAt := by
      cases isResolved : latest.outcomeAt <;>
        simp [WorkBlockIntervention.resolvedAt, isResolved]
    simp only [map_cons, since, length_cons, length_map,
      BackoffState.mk.injEq, decide_eq_decide, and_true]
    exact lt_loaded_add_seconds now latest.resolvedAt (cooldownSeconds (rest.length + 1))

section Newer

variable {rows : List (WorkBlockIntervention .seconds)} {newer : WorkBlockIntervention .seconds}

section

variable (newest : ∀ row ∈ rows, row.offeredAt < newer.offeredAt)
  (resolved : newer.outcome.isTerminal = true)

include newest resolved

theorem negativeStreak_append (limit : Nat) :
    negativeStreak (rows ++ [newer]) (limit + 1) =
      if newer.outcome.isNegative = true then newer :: negativeStreak rows limit
      else [] := by
  have sorted : ((rows ++ [newer]).insertionSort fun first second =>
      second.offeredAt ≤ first.offeredAt) = newer :: rows.insertionSort fun first second =>
          second.offeredAt ≤ first.offeredAt :=
    KeyedRows.insertionSort_append_first fun row member =>
      not_le.mpr (newest row member)
  simp only [negativeStreak, sorted, take_succ_cons, filter_cons, resolved, if_true, takeWhile_cons]

theorem backoffOver_append_of_not_negative
    (notNegative : newer.outcome.isNegative = false) (now : Int) :
    backoffOver (rows ++ [newer]) now = { suppressed := false, salience := .normal } := by
  have streak := negativeStreak_append newest resolved 19
  rw [notNegative, if_neg Bool.false_ne_true] at streak
  rw [backoffOver_eq, show backoffHistoryLimit = 19 + 1 from rfl, streak]

theorem backoffOver_append_of_negative (negative : newer.outcome.isNegative = true) (now : Int) :
    backoffOver (rows ++ [newer]) now =
      { suppressed := decide (timestamp now < newer.resolvedAt +
          cooldownSeconds ((negativeStreak rows (backoffHistoryLimit - 1)).length + 1))
        salience := .quiet } := by
  have streak := negativeStreak_append newest resolved (backoffHistoryLimit - 1)
  rw [if_pos negative] at streak
  rw [backoffOver_eq, show backoffHistoryLimit = backoffHistoryLimit - 1 + 1 from rfl, streak]
  rfl

end

theorem asRestrictive_of_no_streak (noStreak : negativeStreak rows backoffHistoryLimit = [])
    (now : Int) (after : BackoffState) :
    (backoffOver rows now).AsRestrictive after := by
  have before := backoffOver_eq rows now
  rw [noStreak] at before
  rw [before]
  exact ⟨by simp, by simp⟩

end Newer

/-- A newer resolved row that did not land leaves the backoff at least as
restrictive, at every instant, if and only if there was no streak of negative
outcomes to lose, or the row is itself negative and its cooldown ends no earlier
than the one it takes over from. -/
theorem backoff_as_restrictive_iff (rows : List (WorkBlockIntervention .seconds))
    (newer : WorkBlockIntervention .seconds)
    (newest : ∀ row ∈ rows, row.offeredAt < newer.offeredAt)
    (resolved : newer.outcome.isTerminal = true)
    (_notLanded : newer.outcome ≠ .acceptedAction ∧ newer.outcome ≠ .returned) :
    (∀ now, (backoffOver rows now).AsRestrictive (backoffOver (rows ++ [newer]) now)) ↔
      negativeStreak rows backoffHistoryLimit = [] ∨
      (newer.outcome.isNegative = true ∧
        ∀ latest ∈ (negativeStreak rows backoffHistoryLimit).head?,
          latest.resolvedAt +
              cooldownSeconds (negativeStreak rows backoffHistoryLimit).length ≤
            newer.resolvedAt +
              cooldownSeconds
                ((negativeStreak rows (backoffHistoryLimit - 1)).length + 1)) := by
  cases streak : negativeStreak rows backoffHistoryLimit with
  | nil =>
    exact iff_of_true (fun now => asRestrictive_of_no_streak streak now _) (Or.inl rfl)
  | cons latest rest =>
    have before (now : Int) := backoffOver_eq rows now
    simp only [streak] at before
    cases negative : newer.outcome.isNegative with
    | false =>
      have after := backoffOver_append_of_not_negative newest resolved negative
      refine iff_of_false (fun keeps => ?_) (by simp)
      have quiet := (keeps 0).salience
      rw [before, after] at quiet
      cases quiet rfl
    | true =>
      have after := backoffOver_append_of_negative newest resolved negative
      simp only [before, after, List.head?_cons, Option.mem_def, Option.some.injEq,
        length_cons, reduceCtorEq, false_or, true_and, forall_eq']
      constructor
      · intro keeps
        set ends := newer.resolvedAt + cooldownSeconds
          ((negativeStreak rows (backoffHistoryLimit - 1)).length + 1)
        have ended := (keeps (fromTimestamp ends)).suppressed
        simp only [timestamp_fromTimestamp, decide_eq_true_eq, lt_irrefl,
          imp_false, not_lt] at ended
        exact ended
      · intro later now
        refine ⟨fun waiting => ?_, fun _ => rfl⟩
        simp only [decide_eq_true_eq] at waiting ⊢
        exact waiting.trans_le later

/-- A dismissed offer, and one an hour and a half after its cooldown that Focus held
back. -/
def dismissedOffer : WorkBlockIntervention .seconds where
  offeredAt := 0
  actionId := driftActionId
  anchorCategory := "work"
  switchCount := 3
  windowSeconds := driftWindowSeconds
  outcome := .dismissed
  outcomeAt := some 60
  salience := .normal
  cardSeenAt := none

def heldOffer : WorkBlockIntervention .seconds :=
  { dismissedOffer with
    offeredAt := 12600
    outcome := .deliverySuppressedDnd
    outcomeAt := some 12600 }

/-- An offer that Focus held back was never shown, and still restores the salience
that a dismissal took away. -/
theorem held_offer_restores_salience :
    ¬ ∀ (rows : List (WorkBlockIntervention .seconds))
      (newer : WorkBlockIntervention .seconds) (now : Int),
      (∀ row ∈ rows, row.offeredAt < newer.offeredAt) →
      newer.outcome.isTerminal = true →
      newer.outcome ≠ .acceptedAction ∧ newer.outcome ≠ .returned →
      (backoffOver rows now).AsRestrictive (backoffOver (rows ++ [newer]) now) := by
  intro monotone
  have kept := monotone [dismissedOffer] heldOffer (Duration.seconds 12600)
    (by decide) (by decide) (by decide)
  have wasQuiet : (backoffOver [dismissedOffer] (Duration.seconds 12600)).salience =
      .quiet := by decide
  have isNormal : (backoffOver ([dismissedOffer] ++ [heldOffer])
      (Duration.seconds 12600)).salience = .normal := by decide
  have quiet := kept.salience wasQuiet
  rw [isNormal] at quiet
  cases quiet

/-- A second dismissal doubles the wait. -/
theorem second_dismissal_is_as_restrictive :
    (backoffOver [dismissedOffer] (Duration.seconds 7000)).AsRestrictive
      (backoffOver ([dismissedOffer] ++
        [{ dismissedOffer with offeredAt := 6000, outcomeAt := some 6060 }])
        (Duration.seconds 7000)) := by
  refine (backoff_as_restrictive_iff [dismissedOffer]
    { dismissedOffer with offeredAt := 6000, outcomeAt := some 6060 }
    (by decide) (by decide) (by decide)).mpr (Or.inr ⟨rfl, ?_⟩) _
  decide

end Velvt
