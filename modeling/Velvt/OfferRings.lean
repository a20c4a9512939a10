import Velvt.OfferNotifier
import Mathlib.Data.List.Nodup

/-!
# A drift offer rings once

Every attempt that is not cancelled owns the slot, and its offer is the current one unless some
snapshot has dropped it.
-/

namespace Velvt.DriftOffers

open StepMachine InterventionNotifier List

section Invariant

/-- What holds between the attempts, the current offer and what was accepted. -/
structure Rings (world : NotifierWorld) : Prop where
  distinct : (world.notifier.attempts.map Attempt.number).Nodup
  numbered : ∀ attempt ∈ world.notifier.attempts, attempt.number ≤ world.notifier.attemptNumber
  owner : ∀ attempt ∈ world.notifier.attempts, attempt.isCancelled = false →
    world.notifier.isAttempting = true ∧ attempt.number = world.notifier.attemptNumber
  task : world.notifier.isAttempting = true →
    world.notifier.inFlightTask = some world.notifier.attemptNumber
  busy : world.notifier.isAttempting = true → world.notifier.disposition ≠ some .delivered
  wanted : ∀ attempt ∈ world.notifier.attempts, attempt.key ∈ world.dropped ∨
    world.notifier.currentKey = some attempt.key ∧ attempt.isCancelled = false
  suppressed : ∀ key ∈ world.dropped, world.notifier.currentKey = some key →
    world.notifier.disposition = some .suppressed
  settled : ∀ key ∈ world.notifier.accepted, key ∈ world.dropped ∨
    world.notifier.currentKey = some key ∧
      (world.notifier.disposition = some .delivered ∨ world.notifier.disposition = some .suppressed)
  pending : ∀ attempt ∈ world.notifier.attempts, attempt.phase = .scheduling →
    attempt.key ∉ world.notifier.accepted
  apart : ∀ first ∈ world.notifier.attempts, ∀ second ∈ world.notifier.attempts,
    first.phase = .scheduling → second.phase = .scheduling → first.key = second.key →
      first.number = second.number
  once : world.notifier.accepted.Nodup
  late : world.requestedLate = []

variable {world : NotifierWorld}

theorem Rings.same_attempt (rings : Rings world) {first second : Attempt}
    (isFirst : first ∈ world.notifier.attempts) (isSecond : second ∈ world.notifier.attempts)
    (number : first.number = second.number) : first = second :=
  inj_on_of_nodup_map rings.distinct isFirst isSecond number

variable {attempt : Attempt}

section

variable (rings : Rings world)

include rings

theorem Rings.dropped_of_not_owner (member : attempt ∈ world.notifier.attempts)
    (notOwner : ¬ (attempt.number = world.notifier.attemptNumber ∧
      world.notifier.isAttempting = true)) : attempt.key ∈ world.dropped := by
  rcases rings.wanted attempt member with dropped | ⟨-, running⟩
  · exact dropped
  · obtain ⟨attempting, number⟩ := rings.owner attempt member running
    exact absurd ⟨number, attempting⟩ notOwner

/-- An offer that has not rung gets an attempt of its own. -/
theorem Rings.attemptDelivery {key : OfferKey} (offer : ActiveIntervention)
    (current : world.notifier.currentKey = some key)
    (notDelivered : world.notifier.disposition ≠ some .delivered) :
    Rings { world with notifier := world.notifier.attemptDelivery key offer } := by
  unfold InterventionNotifier.attemptDelivery
  split
  · exact rings
  · rename_i free
    have isNew : ∀ attempt ∈ world.notifier.attempts,
        attempt.number ≠ world.notifier.attemptNumber + 1 := by
      intro attempt member
      exact Nat.ne_of_lt (Nat.lt_succ_of_le (rings.numbered attempt member))
    refine ⟨?_, ?_, ?_, fun _ => rfl, fun _ => notDelivered, ?_, rings.suppressed, rings.settled, ?_, ?_,
      rings.once, rings.late⟩
    · simp only [map_append, map_cons, map_nil]
      rw [nodup_append]
      refine ⟨rings.distinct, nodup_singleton _, ?_⟩
      intro number before other isOther
      obtain ⟨attempt, member, rfl⟩ := mem_map.mp before
      rw [mem_singleton.mp isOther]
      exact isNew attempt member
    · intro attempt member
      rcases mem_append.mp member with before | added
      · exact Nat.le_succ_of_le (rings.numbered attempt before)
      · obtain rfl := mem_singleton.mp added
        exact Nat.le_refl _
    · intro attempt member running
      rcases mem_append.mp member with before | added
      · exact absurd (rings.owner attempt before running).1 free
      · rw [mem_singleton.mp added]
        exact ⟨rfl, rfl⟩
    · intro attempt member
      rcases mem_append.mp member with before | added
      · exact rings.wanted attempt before
      · rw [mem_singleton.mp added]
        exact .inr ⟨current, rfl⟩
    · intro attempt member scheduling
      rcases mem_append.mp member with before | added
      · exact rings.pending attempt before scheduling
      · rw [mem_singleton.mp added] at scheduling
        cases scheduling
    · intro first isFirst second isSecond firstScheduling secondScheduling same
      rcases mem_append.mp isFirst with before | added
      · rcases mem_append.mp isSecond with before' | added
        · exact rings.apart first before second before' firstScheduling secondScheduling same
        · rw [mem_singleton.mp added] at secondScheduling
          cases secondScheduling
      · rw [mem_singleton.mp added] at firstScheduling
        cases firstScheduling

/-- An attempt that goes on to another phase. -/
theorem Rings.moves (phase : AttemptPhase)
    (free : phase = .scheduling → attempt.key ∉ world.notifier.accepted ∧
      ∀ other ∈ world.notifier.attempts, other.phase = .scheduling →
        other.key = attempt.key → other.number = attempt.number)
    (member : attempt ∈ world.notifier.attempts) (hasRequested : Bool) (requested : List OfferKey) :
    Rings { world with
      notifier := { world.notifier with
        hasRequestedPermission := hasRequested
        requested := requested }.moves attempt phase } := by
  have origin : ∀ moved ∈ world.notifier.attempts.map (fun other =>
      if other.number = attempt.number then { other with phase } else other),
      ∃ other ∈ world.notifier.attempts, moved.number = other.number ∧ moved.key = other.key ∧
        moved.isCancelled = other.isCancelled ∧
        (moved.phase = other.phase ∨ moved.phase = phase ∧ other = attempt) := by
    intro moved isMoved
    obtain ⟨other, isOther, rfl⟩ := mem_map.mp isMoved
    refine ⟨other, isOther, ?_⟩
    split
    · rename_i same
      exact ⟨rfl, rfl, rfl, .inr ⟨rfl, rings.same_attempt isOther member same⟩⟩
    · exact ⟨rfl, rfl, rfl, .inl rfl⟩
  refine ⟨?_, ?_, ?_, rings.task, rings.busy, ?_, rings.suppressed, rings.settled, ?_, ?_,
    rings.once, rings.late⟩
  · have same : (world.notifier.attempts.map (fun other =>
        if other.number = attempt.number then { other with phase } else other)).map
          Attempt.number = world.notifier.attempts.map Attempt.number := by
      rw [map_map]
      refine map_congr_left ?_
      intro other _
      simp only [Function.comp]
      split <;> rfl
    exact same ▸ rings.distinct
  · intro moved isMoved
    obtain ⟨other, isOther, number, -⟩ := origin moved isMoved
    rw [number]
    exact rings.numbered other isOther
  · intro moved isMoved running
    obtain ⟨other, isOther, number, -, cancelled, -⟩ := origin moved isMoved
    rw [number]
    exact rings.owner other isOther (cancelled ▸ running)
  · intro moved isMoved
    obtain ⟨other, isOther, -, key, cancelled, -⟩ := origin moved isMoved
    rw [key, cancelled]
    exact rings.wanted other isOther
  · intro moved isMoved scheduling
    obtain ⟨other, isOther, -, key, -, before | ⟨now, isAttempt⟩⟩ := origin moved isMoved
    · rw [key]
      exact rings.pending other isOther (before ▸ scheduling)
    · rw [key, isAttempt]
      exact (free (now ▸ scheduling)).1
  · intro first isFirst second isSecond firstScheduling secondScheduling same
    obtain ⟨one, isOne, oneNumber, oneKey, -, oneBefore | ⟨oneNow, oneIs⟩⟩ := origin first isFirst
    · obtain ⟨two, isTwo, twoNumber, twoKey, -, twoBefore | ⟨twoNow, twoIs⟩⟩ :=
        origin second isSecond
      · rw [oneNumber, twoNumber]
        exact rings.apart one isOne two isTwo (oneBefore ▸ firstScheduling)
          (twoBefore ▸ secondScheduling) (oneKey ▸ twoKey ▸ same)
      · rw [oneNumber, twoNumber, twoIs]
        exact (free (twoNow ▸ secondScheduling)).2 one isOne (oneBefore ▸ firstScheduling)
          (by rw [← oneKey, same, twoKey, twoIs])
    · obtain ⟨two, isTwo, twoNumber, twoKey, -, twoBefore | ⟨twoNow, twoIs⟩⟩ :=
        origin second isSecond
      · rw [oneNumber, twoNumber, oneIs]
        exact ((free (oneNow ▸ firstScheduling)).2 two isTwo (twoBefore ▸ secondScheduling)
          (by rw [← twoKey, ← same, oneKey, oneIs])).symm
      · rw [oneNumber, twoNumber, oneIs, twoIs]

/-- An attempt that is over leaves the list. -/
theorem Rings.leaves (scheduled busy : Bool)
    {disposition : Option Disposition} (member : attempt ∈ world.notifier.attempts)
    (slot : busy = world.notifier.isAttempting ∨
      busy = false ∧ attempt.number = world.notifier.attemptNumber)
    (kept : disposition = world.notifier.disposition ∨
      busy = false ∧ world.notifier.disposition ≠ some .suppressed ∧
        world.notifier.disposition ≠ some .delivered)
    (settled : scheduled = true → attempt.phase = .scheduling ∧
      (attempt.key ∈ world.dropped ∨ world.notifier.currentKey = some attempt.key ∧
        (disposition = some .delivered ∨ disposition = some .suppressed))) :
    Rings { world with
      notifier := { world.notifier.acceptedIf attempt scheduled with
        attempts := world.notifier.attempts.filter fun other => other.number ≠ attempt.number
        isAttempting := busy
        disposition := disposition } } := by
  have stays : ∀ other ∈ world.notifier.attempts.filter
      (fun other => other.number ≠ attempt.number),
      other ∈ world.notifier.attempts ∧ other.number ≠ attempt.number := by
    intro other isOther
    obtain ⟨before, different⟩ := mem_filter.mp isOther
    exact ⟨before, of_decide_eq_true different⟩
  have wasBusy : busy = true → world.notifier.isAttempting = true := by
    intro isBusy
    rcases slot with same | ⟨freed, -⟩
    · rw [← same, isBusy]
    · rw [isBusy] at freed
      cases freed
  have isAccepted : ∀ key ∈ (world.notifier.acceptedIf attempt scheduled).accepted,
      key ∈ world.notifier.accepted ∨ scheduled = true ∧ key = attempt.key := by
    intro key accepted
    cases scheduled with
    | false => exact .inl accepted
    | true =>
      rcases mem_append.mp accepted with before | new
      · exact .inl before
      · exact .inr ⟨rfl, mem_singleton.mp new⟩
  refine ⟨?_, ?_, ?_, ?_, ?_, ?_, ?_, ?_, ?_, ?_, ?_, rings.late⟩
  · exact rings.distinct.sublist (filter_sublist.map _)
  · exact fun other isOther => rings.numbered other (stays other isOther).1
  · intro other isOther running
    obtain ⟨before, different⟩ := stays other isOther
    obtain ⟨attempting, number⟩ := rings.owner other before running
    rcases slot with same | ⟨-, owner⟩
    · exact ⟨same.trans attempting, number⟩
    · exact absurd (number.trans owner.symm) different
  · exact fun isBusy => rings.task (wasBusy isBusy)
  · intro isBusy
    rcases kept with same | ⟨freed, -⟩
    · rw [same]
      exact rings.busy (wasBusy isBusy)
    · rw [show busy = true from isBusy] at freed
      cases freed
  · exact fun other isOther => rings.wanted other (stays other isOther).1
  · intro key dropped current
    have before := rings.suppressed key dropped current
    rcases kept with same | ⟨-, notSuppressed, -⟩
    · exact same.trans before
    · exact absurd before notSuppressed
  · intro key accepted
    rcases isAccepted key accepted with before | ⟨now, rfl⟩
    · rcases rings.settled key before with dropped | ⟨current, delivered | suppressed⟩
      · exact .inl dropped
      · rcases kept with same | ⟨-, -, notDelivered⟩
        · exact .inr ⟨current, .inl (same.trans delivered)⟩
        · exact absurd delivered notDelivered
      · rcases kept with same | ⟨-, notSuppressed, -⟩
        · exact .inr ⟨current, .inr (same.trans suppressed)⟩
        · exact absurd suppressed notSuppressed
    · exact (settled now).2
  · intro other isOther scheduling accepted
    obtain ⟨before, different⟩ := stays other isOther
    rcases isAccepted _ accepted with already | ⟨now, same⟩
    · exact rings.pending other before scheduling already
    · exact different (rings.apart other before attempt member scheduling (settled now).1 same)
  · intro first isFirst second isSecond
    exact rings.apart first (stays first isFirst).1 second (stays second isSecond).1
  · cases scheduled with
    | false => exact rings.once
    | true =>
      refine nodup_append.mpr ⟨rings.once, nodup_singleton _, ?_⟩
      intro key accepted other isOther same
      rw [mem_singleton.mp isOther] at same
      exact rings.pending attempt member (settled rfl).1 (same ▸ accepted)

theorem Rings.retries : Rings { world with notifier := world.notifier.retryPendingOffer } := by
  unfold InterventionNotifier.retryPendingOffer
  split
  · rename_i undelivered current _
    refine rings.attemptDelivery _ current ?_
    intro delivered
    rw [undelivered] at delivered
    cases delivered
  · exact rings

theorem Rings.attemptsIfUntried :
    Rings { world with notifier := world.notifier.attemptCurrentOfferIfUntried } := by
  unfold InterventionNotifier.attemptCurrentOfferIfUntried
  split
  · rename_i untried current _
    split
    · refine rings.attemptDelivery _ current ?_
      intro delivered
      rw [untried] at delivered
      cases delivered
    · exact rings
  · exact rings

theorem Rings.ends (scheduled : Bool)
    (member : attempt ∈ world.notifier.attempts)
    (scheduling : scheduled = true → attempt.phase = .scheduling) :
    Rings { world with
      notifier := (world.notifier.acceptedIf attempt scheduled).ends attempt
        (if scheduled then .delivered else .undelivered) } := by
  unfold InterventionNotifier.ends InterventionNotifier.finishAttempt
  split
  · rename_i owner
    have owns : attempt.number = world.notifier.attemptNumber := owner.1
    have attempting : world.notifier.isAttempting = true := owner.2
    split
    · rename_i current
      split
      · rename_i decided
        refine rings.leaves scheduled false member (.inr ⟨rfl, owns⟩) (.inl rfl) ?_
        intro now
        rcases decided with suppressed | delivered
        · exact ⟨scheduling now, .inr ⟨current, .inr suppressed⟩⟩
        · exact ⟨scheduling now, .inr ⟨current, .inl delivered⟩⟩
      · rename_i undecided
        obtain ⟨notSuppressed, notDelivered⟩ := not_or.mp undecided
        refine rings.leaves scheduled false member (.inr ⟨rfl, owns⟩)
          (.inr ⟨rfl, notSuppressed, notDelivered⟩) ?_
        intro now
        rw [if_pos now]
        exact ⟨scheduling now, .inr ⟨current, .inl rfl⟩⟩
    · rename_i replaced
      have dropped : attempt.key ∈ world.dropped := by
        rcases rings.wanted attempt member with dropped | ⟨current, -⟩
        · exact dropped
        · exact absurd current replaced
      have freed := rings.leaves scheduled false member (.inr ⟨rfl, owns⟩) (.inl rfl)
        (fun now => ⟨scheduling now, .inl dropped⟩)
      exact freed.attemptsIfUntried
  · rename_i notOwner
    have dropped := rings.dropped_of_not_owner member notOwner
    exact rings.leaves scheduled _ member (.inl rfl) (.inl rfl) (fun now => ⟨scheduling now, .inl dropped⟩)

theorem Rings.endsUndelivered (member : attempt ∈ world.notifier.attempts) :
    Rings { world with notifier := world.notifier.ends attempt .undelivered } :=
  rings.ends false member (fun never => by cases never)

end

end Invariant

section Snapshots

variable {world : NotifierWorld}

/-- An offer that is forgotten is dropped. -/
theorem Rings.forgets (rings : Rings world) : Rings { world with
      notifier := world.notifier.forgetCurrentOffer
      dropped := world.dropped ++ world.notifier.currentKey.toList } := by
  have allDropped : ∀ attempt ∈ world.notifier.attempts,
      attempt.key ∈ world.dropped ++ world.notifier.currentKey.toList := by
    intro attempt member
    rcases rings.wanted attempt member with dropped | ⟨current, -⟩
    · exact mem_append_left _ dropped
    · exact mem_append_right _ (by rw [current]; exact mem_singleton_self _)
  have origin : ∀ attempt ∈ world.notifier.forgetCurrentOffer.attempts,
      ∃ before ∈ world.notifier.attempts, attempt.number = before.number ∧
        attempt.key = before.key ∧ attempt.phase = before.phase ∧ attempt.isCancelled = true := by
    intro attempt member
    obtain ⟨before, isBefore, rfl⟩ := mem_map.mp member
    refine ⟨before, isBefore, ?_⟩
    split
    · exact ⟨rfl, rfl, rfl, rfl⟩
    · rename_i notInFlight
      refine ⟨rfl, rfl, rfl, ?_⟩
      cases running : before.isCancelled with
      | true => rfl
      | false =>
        obtain ⟨attempting, number⟩ := rings.owner before isBefore running
        exact absurd (number ▸ rings.task attempting) notInFlight
  refine ⟨?_, ?_, ?_, ?_, ?_, ?_, ?_, ?_, ?_, ?_, rings.once, rings.late⟩
  · have same : world.notifier.forgetCurrentOffer.attempts.map Attempt.number =
        world.notifier.attempts.map Attempt.number := by
      rw [forgetCurrentOffer, map_map]
      refine map_congr_left ?_
      intro attempt _
      simp only [Function.comp]
      split <;> rfl
    exact same ▸ rings.distinct
  · intro attempt member
    obtain ⟨before, isBefore, number, -⟩ := origin attempt member
    rw [number]
    exact rings.numbered before isBefore
  · intro attempt member running
    obtain ⟨-, -, -, -, -, cancelled⟩ := origin attempt member
    rw [cancelled] at running
    cases running
  · intro attempting
    cases attempting
  · intro attempting
    cases attempting
  · intro attempt member
    obtain ⟨before, isBefore, -, key, -⟩ := origin attempt member
    rw [key]
    exact .inl (allDropped before isBefore)
  · intro key _ current
    cases current
  · intro key accepted
    rcases rings.settled key accepted with dropped | ⟨current, -⟩
    · exact .inl (mem_append_left _ dropped)
    · exact .inl (mem_append_right _ (by rw [current]; exact mem_singleton_self _))
  · intro attempt member scheduling
    obtain ⟨before, isBefore, -, key, phase, -⟩ := origin attempt member
    rw [key]
    exact rings.pending before isBefore (phase ▸ scheduling)
  · intro first isFirst second isSecond firstScheduling secondScheduling same
    obtain ⟨one, isOne, oneNumber, oneKey, onePhase, -⟩ := origin first isFirst
    obtain ⟨two, isTwo, twoNumber, twoKey, twoPhase, -⟩ := origin second isSecond
    rw [oneNumber, twoNumber]
    exact rings.apart one isOne two isTwo (onePhase ▸ firstScheduling)
      (twoPhase ▸ secondScheduling) (oneKey ▸ twoKey ▸ same)

def InterventionNotifier.replacedBy (notifier : InterventionNotifier) (key : OfferKey) :
    List OfferKey :=
  if notifier.currentKey = some key then [] else notifier.currentKey.toList

/-- Another offer is shown, and the ones it replaces are dropped. -/
theorem Rings.showsAs (rings : Rings world) {key : OfferKey} (offer : ActiveIntervention)
    (disposition : Option Disposition) (quiet : List OfferKey)
    (isQuiet : ∀ other ∈ quiet, other = key ∧ disposition = some .suppressed)
    (kept : disposition = some .suppressed ∨
      disposition = (world.notifier.shows key offer).disposition ∧
        (key ∈ world.dropped → world.notifier.currentKey = some key)) :
    Rings { world with
      notifier := { world.notifier.shows key offer with disposition := disposition }
      dropped := world.dropped ++ (world.notifier.replacedBy key ++ quiet) } := by
  have current : (world.notifier.shows key offer).currentKey = some key := by
    unfold InterventionNotifier.shows
    split
    · assumption
    · rfl
  have same : (world.notifier.shows key offer).attempts = world.notifier.attempts ∧
      (world.notifier.shows key offer).attemptNumber = world.notifier.attemptNumber ∧
      (world.notifier.shows key offer).isAttempting = world.notifier.isAttempting ∧
      (world.notifier.shows key offer).inFlightTask = world.notifier.inFlightTask ∧
      (world.notifier.shows key offer).accepted = world.notifier.accepted := by
    unfold InterventionNotifier.shows
    split <;> exact ⟨rfl, rfl, rfl, rfl, rfl⟩
  obtain ⟨attempts, attemptNumber, isAttempting, inFlightTask, accepted⟩ := same
  -- What was the current offer is either still shown or replaced.
  have goes : ∀ other, world.notifier.currentKey = some other → other ≠ key →
      other ∈ world.dropped ++ (world.notifier.replacedBy key ++ quiet) := by
    intro other was different
    refine mem_append_right _ (mem_append_left _ ?_)
    rw [InterventionNotifier.replacedBy, was, if_neg (by simpa using different)]
    exact mem_singleton_self _
  have unchanged : world.notifier.currentKey = some key →
      (world.notifier.shows key offer).disposition = world.notifier.disposition := by
    intro already
    rw [InterventionNotifier.shows, if_pos already]
  refine ⟨?_, ?_, ?_, ?_, ?_, ?_, ?_, ?_, ?_, ?_, ?_, rings.late⟩
  · exact attempts ▸ rings.distinct
  · exact attempts ▸ attemptNumber ▸ rings.numbered
  · exact attempts ▸ attemptNumber ▸ isAttempting ▸ rings.owner
  · exact attemptNumber ▸ isAttempting ▸ inFlightTask ▸ rings.task
  · intro attempting delivered
    rcases kept with suppressed | ⟨shown, -⟩
    · rw [show disposition = some .delivered from delivered] at suppressed
      cases suppressed
    · by_cases already : world.notifier.currentKey = some key
      · exact rings.busy (isAttempting ▸ attempting)
          ((unchanged already).symm.trans (shown.symm.trans delivered))
      · rw [InterventionNotifier.shows, if_neg already] at shown
        rw [show disposition = some .delivered from delivered] at shown
        cases shown
  · intro attempt member
    rcases rings.wanted attempt (attempts ▸ member) with dropped | ⟨was, running⟩
    · exact .inl (mem_append_left _ dropped)
    · by_cases stays : attempt.key = key
      · exact .inr ⟨current.trans (congrArg some stays.symm), running⟩
      · exact .inl (goes attempt.key was stays)
  · intro other dropped isCurrent
    rcases kept with suppressed | ⟨shown, fresh⟩
    · exact suppressed
    · have isKey : key = other := Option.some.inj (current.symm.trans isCurrent)
      rw [← isKey] at dropped
      rcases mem_append.mp dropped with before | now
      · have already := fresh before
        exact shown.trans ((unchanged already).trans (rings.suppressed key before already))
      · rcases mem_append.mp now with replaced | quieted
        · rw [InterventionNotifier.replacedBy] at replaced
          split at replaced
          · cases replaced
          · rename_i different
            exact absurd (Option.mem_toList.mp replaced) different
        · exact (isQuiet key quieted).2
  · intro other wasAccepted
    rcases rings.settled other (accepted ▸ wasAccepted) with dropped | ⟨was, decided⟩
    · exact .inl (mem_append_left _ dropped)
    · by_cases stays : other = key
      · rw [stays] at was ⊢
        refine .inr ⟨current, ?_⟩
        rcases kept with suppressed | ⟨shown, -⟩
        · exact .inr suppressed
        · rw [shown, unchanged was]
          exact decided
      · exact .inl (goes other was stays)
  · exact attempts ▸ accepted ▸ rings.pending
  · exact attempts ▸ rings.apart
  · exact accepted ▸ rings.once

end Snapshots

end Velvt.DriftOffers
