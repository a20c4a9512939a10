import Velvt.OfferRings

/-!
# The runs of the notifier

Each action keeps the invariant of the attempts, as long as no offer that some snapshot has
dropped comes back or goes ahead.
-/

namespace Velvt.DriftOffers

open StepMachine InterventionNotifier

section Runs

variable {world : NotifierWorld}

/-- A step by which no offer rings that is not wanted: no offer comes back at normal salience
after it was withdrawn or replaced, and an attempt that was not cancelled finds notifications
granted only while its offer is the current one and was not made quiet. -/
def StaysWanted (world : NotifierWorld) : NotifierAction → Prop
  | .handle snapshot => ∀ shown ∈ shownOffer snapshot, shown.2.salience = .normal →
      shown.1 ∈ world.dropped → world.notifier.currentKey = some shown.1
  | .statusChecked number status => ∀ attempt ∈ world.notifier.inPhase number .checking,
      status = .granted → attempt.isCancelled = false →
        world.notifier.currentKey = some attempt.key ∧ world.notifier.disposition ≠ some .suppressed
  | .permissionAnswered number status => ∀ attempt ∈ world.notifier.inPhase number .asking,
      status = .granted → attempt.isCancelled = false →
        world.notifier.currentKey = some attempt.key ∧ world.notifier.disposition ≠ some .suppressed
  | _ => True

instance (world : NotifierWorld) (action : NotifierAction) :
    Decidable (StaysWanted world action) := by
  unfold StaysWanted
  split <;> infer_instance

variable {action : NotifierAction} {status : PermissionStatus}

theorem next_of_silent (silent : (world.notifier.act action).requested = world.notifier.requested) :
    notifierMachine.next world action = {
      notifier := world.notifier.act action
      dropped := world.droppedAfter action
      requestedLate := world.requestedLate } := by
  change NotifierWorld.mk _ _ _ = _
  rw [NotifierWorld.requestedBy, silent, List.drop_length, List.filter_nil, List.append_nil]

@[simp]
theorem attemptDelivery_requested (notifier : InterventionNotifier) (key : OfferKey)
    (offer : ActiveIntervention) :
    (notifier.attemptDelivery key offer).requested = notifier.requested := by
  unfold InterventionNotifier.attemptDelivery
  split <;> rfl

@[simp]
theorem attemptCurrentOfferIfUntried_requested (notifier : InterventionNotifier) :
    notifier.attemptCurrentOfferIfUntried.requested = notifier.requested := by
  unfold InterventionNotifier.attemptCurrentOfferIfUntried
  split
  · split
    · simp
    · rfl
  · rfl

@[simp]
theorem ends_requested (notifier : InterventionNotifier) (attempt : Attempt)
    (attempted : Disposition) : (notifier.ends attempt attempted).requested = notifier.requested := by
  unfold InterventionNotifier.ends InterventionNotifier.finishAttempt
  split
  · split
    · split <;> rfl
    · simp
  · rfl

@[simp]
theorem shows_requested (notifier : InterventionNotifier) (key : OfferKey)
    (offer : ActiveIntervention) :
    (notifier.shows key offer).requested = notifier.requested := by
  unfold InterventionNotifier.shows
  split <;> rfl

theorem shows_currentKey (notifier : InterventionNotifier) (key : OfferKey)
    (offer : ActiveIntervention) : (notifier.shows key offer).currentKey = some key := by
  unfold InterventionNotifier.shows
  split
  · assumption
  · rfl

/-- A snapshot keeps the rings, where it does not give up an offer that is wanted. -/
theorem Rings.handles (rings : Rings world) {snapshot : Option WorkBlockSnapshot}
    (wanted : StaysWanted world (.handle snapshot)) :
    Rings (notifierMachine.next world (.handle snapshot)) := by
  cases carried : shownOffer snapshot with
  | none =>
    have act : world.notifier.act (.handle snapshot) = world.notifier.forgetCurrentOffer := by
      simp [InterventionNotifier.act, InterventionNotifier.handle, carried]
    have drops : world.notifier.drops snapshot = world.notifier.currentKey.toList := by
      simp [InterventionNotifier.drops, carried]
    rw [next_of_silent (by rw [act]; rfl), act, NotifierWorld.droppedAfter, drops]
    exact rings.forgets
  | some shown =>
    obtain ⟨key, offer⟩ := shown
    by_cases loud : offer.salience = .normal
    · have drops : world.notifier.drops snapshot = world.notifier.replacedBy key ++ [] := by
        simp [InterventionNotifier.drops, carried, loud, InterventionNotifier.replacedBy]
      have fresh : key ∈ world.dropped → world.notifier.currentKey = some key :=
        wanted (key, offer) carried loud
      have isShown := rings.showsAs offer (world.notifier.shows key offer).disposition []
        (fun other member => by cases member) (.inr ⟨rfl, fresh⟩)
      by_cases untried : (world.notifier.shows key offer).disposition = none ∨
          (world.notifier.shows key offer).disposition = some .undelivered
      · have act : world.notifier.act (.handle snapshot) =
            (world.notifier.shows key offer).attemptDelivery key offer := by
          simp [InterventionNotifier.act, InterventionNotifier.handle, carried, loud, untried]
        rw [next_of_silent (by rw [act]; simp), act, NotifierWorld.droppedAfter, drops]
        refine isShown.attemptDelivery offer (shows_currentKey _ _ _) ?_
        intro delivered
        rcases untried with none_yet | failed
        · rw [show _ = _ from delivered] at none_yet
          cases none_yet
        · rw [show _ = _ from delivered] at failed
          cases failed
      · have act : world.notifier.act (.handle snapshot) = world.notifier.shows key offer := by
          simp only [InterventionNotifier.act, InterventionNotifier.handle, carried, loud,
            ne_eq, not_true_eq_false, if_false, untried]
        rw [next_of_silent (by rw [act]; simp), act, NotifierWorld.droppedAfter, drops]
        exact isShown
    · have drops : world.notifier.drops snapshot =
          world.notifier.replacedBy key ++ [key] := by
        simp [InterventionNotifier.drops, carried, loud, InterventionNotifier.replacedBy]
      have act : world.notifier.act (.handle snapshot) =
          { world.notifier.shows key offer with disposition := some .suppressed } := by
        simp [InterventionNotifier.act, InterventionNotifier.handle, carried, loud]
      rw [next_of_silent (by rw [act]; simp), act, NotifierWorld.droppedAfter, drops]
      exact rings.showsAs offer _ _
        (fun other member => ⟨List.mem_singleton.mp member, rfl⟩) (.inl rfl)

theorem Rings.stays (rings : Rings world) (act : world.notifier.act action = world.notifier)
    (keeps : world.droppedAfter action = world.dropped) :
    Rings (notifierMachine.next world action) := by
  rw [next_of_silent (by rw [act]), act, keeps]
  exact rings

theorem Rings.givesUp (rings : Rings world) {attempt : Attempt}
    (member : attempt ∈ world.notifier.attempts)
    (act : world.notifier.act action = world.notifier.ends attempt .undelivered)
    (keeps : world.droppedAfter action = world.dropped) :
    Rings (notifierMachine.next world action) := by
  rw [next_of_silent (by rw [act]; simp), act, keeps]
  exact rings.endsUndelivered member

theorem Rings.proceeds (rings : Rings world) {attempt : Attempt}
    (member : attempt ∈ world.notifier.attempts)
    (running : attempt.isCancelled = false)
    (act : world.notifier.act action = world.notifier.proceed attempt status)
    (keeps : world.droppedAfter action = world.dropped)
    (wanted : status = .granted → world.notifier.currentKey = some attempt.key ∧
      world.notifier.disposition ≠ some .suppressed) :
    Rings (notifierMachine.next world action) := by
  by_cases granted : status = .granted
  · obtain ⟨current, notSuppressed⟩ := wanted granted
    obtain ⟨attempting, owns⟩ := rings.owner attempt member running
    have notDropped : attempt.key ∉ world.dropped := by
      intro dropped
      exact notSuppressed (rings.suppressed _ dropped current)
    have notAccepted : attempt.key ∉ world.notifier.accepted := by
      intro accepted
      rcases rings.settled _ accepted with dropped | ⟨-, delivered | suppressed⟩
      · exact notDropped dropped
      · exact rings.busy attempting delivered
      · exact notSuppressed suppressed
    have alone : ∀ other ∈ world.notifier.attempts, other.phase = .scheduling →
        other.key = attempt.key → other.number = attempt.number := by
      intro other isOther _ same
      rcases rings.wanted other isOther with dropped | ⟨-, alsoRunning⟩
      · exact absurd (same ▸ dropped) notDropped
      · exact (rings.owner other isOther alsoRunning).2.trans owns.symm
    have moved := rings.moves .scheduling (fun _ => ⟨notAccepted, alone⟩) member
      world.notifier.hasRequestedPermission (world.notifier.requested ++ [attempt.key])
    have next : notifierMachine.next world action = {
        notifier := { world.notifier with
          requested := world.notifier.requested ++ [attempt.key] }.moves attempt .scheduling
        dropped := world.dropped
        requestedLate := world.requestedLate } := by
      have act' := act.trans (if_pos granted)
      change NotifierWorld.mk _ _ _ = _
      rw [NotifierWorld.requestedBy, act', keeps]
      simp [InterventionNotifier.moves, notDropped]
    rw [next]
    exact moved
  · exact rings.givesUp member (act.trans (if_neg granted)) keeps

theorem Rings.of_inPhase {number : Nat} {phase : AttemptPhase} {attempt : Attempt}
    (found : world.notifier.inPhase number phase = some attempt) :
    attempt ∈ world.notifier.attempts ∧ attempt.phase = phase := by
  refine ⟨List.mem_of_find?_eq_some found, ?_⟩
  have holds := List.find?_some found
  exact (of_decide_eq_true holds).2

theorem Rings.checks (rings : Rings world) {number : Nat}
    (wanted : StaysWanted world (.statusChecked number status)) :
    Rings (notifierMachine.next world (.statusChecked number status)) := by
  cases found : world.notifier.inPhase number .checking with
  | none => exact rings.stays (by simp [InterventionNotifier.act, statusChecked, found]) rfl
  | some attempt =>
    obtain ⟨member, -⟩ := Rings.of_inPhase found
    cases cancelled : attempt.isCancelled with
    | true =>
      refine rings.givesUp member ?_ rfl
      simp [InterventionNotifier.act, statusChecked, found, cancelled]
    | false =>
      by_cases asks : status = .unknown ∧ world.notifier.hasRequestedPermission = false
      · have act : world.notifier.act (.statusChecked number status) =
            { world.notifier with hasRequestedPermission := true }.moves attempt .asking := by
          simp only [InterventionNotifier.act, statusChecked, found, cancelled, asks,
            Bool.false_eq_true, if_false, and_self, if_true]
        rw [next_of_silent (by rw [act]; rfl), act]
        exact rings.moves .asking (fun never => by cases never) member true world.notifier.requested
      · have act : world.notifier.act (.statusChecked number status) =
            world.notifier.proceed attempt status := by
          simp only [InterventionNotifier.act, statusChecked, found, cancelled, asks,
            Bool.false_eq_true, if_false]
        exact rings.proceeds member cancelled act rfl
          (fun granted => wanted attempt found granted cancelled)

theorem Rings.asks (rings : Rings world) {number : Nat}
    (wanted : StaysWanted world (.permissionAnswered number status)) :
    Rings (notifierMachine.next world (.permissionAnswered number status)) := by
  cases found : world.notifier.inPhase number .asking with
  | none => exact rings.stays (by simp [InterventionNotifier.act, permissionAnswered, found]) rfl
  | some attempt =>
    obtain ⟨member, -⟩ := Rings.of_inPhase found
    cases cancelled : attempt.isCancelled with
    | true =>
      refine rings.givesUp member ?_ rfl
      simp [InterventionNotifier.act, permissionAnswered, found, cancelled]
    | false =>
      have act : world.notifier.act (.permissionAnswered number status) =
          world.notifier.proceed attempt status := by
        simp [InterventionNotifier.act, permissionAnswered, found, cancelled]
      exact rings.proceeds member cancelled act rfl
        (fun granted => wanted attempt found granted cancelled)

theorem Rings.answers (rings : Rings world) (number : Nat) (scheduled : Bool) :
    Rings (notifierMachine.next world (.centreAnswered number scheduled)) := by
  cases found : world.notifier.inPhase number .scheduling with
  | none => exact rings.stays (by simp [InterventionNotifier.act, centreAnswered, found]) rfl
  | some attempt =>
    obtain ⟨member, phase⟩ := Rings.of_inPhase found
    have act : world.notifier.act (.centreAnswered number scheduled) =
        (world.notifier.acceptedIf attempt scheduled).ends attempt
          (if scheduled then .delivered else .undelivered) := by
      simp [InterventionNotifier.act, centreAnswered, found]
    rw [next_of_silent (by rw [act]; simp [acceptedIf]), act]
    exact rings.ends scheduled member (fun _ => phase)

/-- A step that no unwanted offer takes part in keeps the invariant. -/
theorem Rings.next (rings : Rings world)
    (wanted : StaysWanted world action) : Rings (notifierMachine.next world action) := by
  cases action with
  | handle snapshot => exact rings.handles wanted
  | retryPendingOffer =>
    have silent : (world.notifier.act .retryPendingOffer).requested =
        world.notifier.requested := by
      change world.notifier.retryPendingOffer.requested = _
      unfold retryPendingOffer
      split
      · simp
      · rfl
    rw [next_of_silent silent]
    exact rings.retries
  | statusChecked number status => exact rings.checks wanted
  | permissionAnswered number status => exact rings.asks wanted
  | centreAnswered number scheduled => exact rings.answers number scheduled

theorem rings_initial : Rings .initial := by
  refine ⟨List.nodup_nil, ?_, ?_, ?_, ?_, ?_, ?_, ?_, ?_, ?_, List.nodup_nil, rfl⟩
  · intro attempt member
    cases member
  · intro attempt member
    cases member
  · intro attempting
    cases attempting
  · intro attempting
    cases attempting
  · intro attempt member
    cases member
  · intro key dropped
    cases dropped
  · intro key accepted
    cases accepted
  · intro attempt member
    cases member
  · intro first isFirst
    cases isFirst

def Attempt.ownsSlot (attempt : Attempt) (notifier : InterventionNotifier) : Prop :=
  attempt ∈ notifier.attempts ∧ attempt.number = notifier.attemptNumber ∧
    notifier.isAttempting = true

/-- As long as no dropped offer is brought back or goes ahead, at most one attempt owns the slot,
the notification centre accepts every offer at most once, and no offer is requested after a
snapshot has shown it as quiet, withdrawn or replaced. -/
theorem offer_rings_once_while_wanted (actions : List NotifierAction)
    (wanted : notifierMachine.Meets StaysWanted .initial actions) :
    let world := notifierMachine.run .initial actions
    (∀ first second : Attempt, first.ownsSlot world.notifier → second.ownsSlot world.notifier →
      first = second) ∧
      world.notifier.accepted.Nodup ∧ world.requestedLate = [] := by
  intro world
  have keeps : ∀ (world : NotifierWorld) action, Rings world → StaysWanted world action →
      Rings (notifierMachine.next world action) := by
    intro world action rings wanted
    exact rings.next wanted
  have rings : Rings world := notifierMachine.invariant_run keeps rings_initial wanted
  refine ⟨?_, rings.once, rings.late⟩
  intro first second firstOwns secondOwns
  exact rings.same_attempt firstOwns.1 secondOwns.1
    (firstOwns.2.1.trans secondOwns.2.1.symm)

def snapshotWith (offeredAt : Int) (salience : InterventionSalience) : Option WorkBlockSnapshot :=
  some {
    blockID := some "block"
    activeIntervention := some { title := "Back?", body := "Five switches", offeredAt, salience } }

def rungAndReplaced : List NotifierAction :=
  [.handle (snapshotWith 1 .normal), .statusChecked 1 .unknown, .permissionAnswered 1 .granted,
    .handle (snapshotWith 1 .normal), .centreAnswered 1 true, .handle (snapshotWith 1 .normal),
    .handle (snapshotWith 2 .normal), .statusChecked 2 .granted, .centreAnswered 2 true]

/-- An offer rings, is shown again, and is replaced by another one. -/
theorem rung_and_replaced_rings_once :
    let world := notifierMachine.run .initial rungAndReplaced
    (∀ first second : Attempt, first.ownsSlot world.notifier → second.ownsSlot world.notifier →
      first = second) ∧
      world.notifier.accepted.Nodup ∧ world.requestedLate = [] :=
  offer_rings_once_while_wanted rungAndReplaced (by decide)

def broughtBack : List NotifierAction :=
  [.handle (snapshotWith 1 .normal), .statusChecked 1 .granted, .centreAnswered 1 true,
    .handle none, .handle (snapshotWith 1 .normal), .statusChecked 2 .granted,
    .centreAnswered 2 true]

def quietedWhileAsking : List NotifierAction :=
  [.handle (snapshotWith 1 .normal), .statusChecked 1 .unknown, .handle (snapshotWith 1 .quiet),
    .permissionAnswered 1 .granted]

/-- The first offer rings twice, the second one after it was made quiet. -/
theorem offers_ring_twice_and_late :
    ¬ (notifierMachine.run .initial broughtBack).notifier.accepted.Nodup ∧
      (notifierMachine.run .initial quietedWhileAsking).requestedLate ≠ [] := by
  decide

end Runs

end Velvt.DriftOffers
