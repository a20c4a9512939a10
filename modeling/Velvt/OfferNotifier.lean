import Velvt.StepMachine

/-!
# The notifications for drift offers

The notifier lives on the main actor.  A snapshot starts an attempt to deliver its offer, a task of
its own that waits for the status of the permission, for the answer to its alert, and for the
notification centre.  Between two of these waits other snapshots come in.
-/

namespace Velvt.DriftOffers

open StepMachine

/-- Identity of an offer. -/
structure OfferKey where
  blockID : String
  offeredAt : Int
  deriving DecidableEq

inductive InterventionSalience
  | normal
  | quiet
  deriving DecidableEq

structure ActiveIntervention where
  title : String
  body : String
  offeredAt : Int
  salience : InterventionSalience

structure WorkBlockSnapshot where
  blockID : Option String
  activeIntervention : Option ActiveIntervention

inductive PermissionStatus
  | unknown
  | granted
  | denied
  | restricted
  deriving DecidableEq

inductive Disposition
  | suppressed
  | delivered
  | undelivered
  deriving DecidableEq

/-- What the task of an attempt waits for. -/
inductive AttemptPhase
  | checking
  | asking
  | scheduling
  deriving DecidableEq

/-- A delivery task that has not ended. -/
structure Attempt where
  number : Nat
  key : OfferKey
  offer : ActiveIntervention
  phase : AttemptPhase
  isCancelled : Bool

/-- `InterventionNotifier`, with its tasks and what they have had from the notification centre. -/
structure InterventionNotifier where
  currentKey : Option OfferKey
  currentOffer : Option ActiveIntervention
  disposition : Option Disposition
  hasRequestedPermission : Bool
  isAttempting : Bool
  attemptNumber : Nat
  inFlightTask : Option Nat
  attempts : List Attempt
  requested : List OfferKey
  accepted : List OfferKey

def shownOffer (snapshot : Option WorkBlockSnapshot) : Option (OfferKey × ActiveIntervention) :=
  match snapshot.bind (·.blockID), snapshot.bind (·.activeIntervention) with
  | some blockID, some intervention =>
    some ({ blockID, offeredAt := intervention.offeredAt }, intervention)
  | _, _ => none

namespace InterventionNotifier

def initial : InterventionNotifier where
  currentKey := none
  currentOffer := none
  disposition := none
  hasRequestedPermission := false
  isAttempting := false
  attemptNumber := 0
  inFlightTask := none
  attempts := []
  requested := []
  accepted := []

variable (notifier : InterventionNotifier)

def attemptDelivery (key : OfferKey) (offer : ActiveIntervention) : InterventionNotifier :=
  if notifier.isAttempting then
    notifier
  else
    let number := notifier.attemptNumber + 1
    { notifier with
      isAttempting := true
      attemptNumber := number
      inFlightTask := some number
      attempts := notifier.attempts ++
        [{ number, key, offer, phase := .checking, isCancelled := false }] }

def forgetCurrentOffer : InterventionNotifier :=
  { notifier with
    currentKey := none
    currentOffer := none
    disposition := none
    hasRequestedPermission := false
    inFlightTask := none
    isAttempting := false
    attempts := notifier.attempts.map fun attempt =>
      if notifier.inFlightTask = some attempt.number then
        { attempt with isCancelled := true }
      else
        attempt }

def shows (key : OfferKey) (offer : ActiveIntervention) : InterventionNotifier :=
  if notifier.currentKey = some key then
    { notifier with currentOffer := some offer }
  else
    { notifier with
      currentKey := some key
      disposition := none
      hasRequestedPermission := false
      currentOffer := some offer }

def handle (snapshot : Option WorkBlockSnapshot) : InterventionNotifier :=
  match shownOffer snapshot with
  | none => notifier.forgetCurrentOffer
  | some (key, offer) =>
    let shown := notifier.shows key offer
    if offer.salience ≠ .normal then
      { shown with disposition := some .suppressed }
    else if shown.disposition = none ∨ shown.disposition = some .undelivered then
      shown.attemptDelivery key offer
    else
      shown

def retryPendingOffer : InterventionNotifier :=
  match notifier.disposition, notifier.currentKey, notifier.currentOffer with
  | some .undelivered, some key, some offer => notifier.attemptDelivery key offer
  | _, _, _ => notifier

def attemptCurrentOfferIfUntried : InterventionNotifier :=
  match notifier.disposition, notifier.currentKey, notifier.currentOffer with
  | none, some key, some offer =>
    if offer.salience = .normal then notifier.attemptDelivery key offer else notifier
  | _, _, _ => notifier

def finishAttempt (attempt : Nat) (key : OfferKey) (attempted : Disposition) :
    InterventionNotifier :=
  if attempt = notifier.attemptNumber ∧ notifier.isAttempting then
    let freed := { notifier with isAttempting := false }
    if notifier.currentKey = some key then
      if notifier.disposition = some .suppressed ∨ notifier.disposition = some .delivered then
        freed
      else
        { freed with disposition := some attempted }
    else
      freed.attemptCurrentOfferIfUntried
  else
    notifier

def ends (attempt : Attempt) (attempted : Disposition) : InterventionNotifier :=
  { notifier with
    attempts := notifier.attempts.filter fun other => other.number ≠ attempt.number }.finishAttempt
      attempt.number attempt.key attempted

def moves (attempt : Attempt) (phase : AttemptPhase) : InterventionNotifier :=
  { notifier with
    attempts := notifier.attempts.map fun other =>
      if other.number = attempt.number then { other with phase } else other }

def inPhase (number : Nat) (phase : AttemptPhase) : Option Attempt :=
  notifier.attempts.find? fun attempt => attempt.number = number ∧ attempt.phase = phase

def proceed (attempt : Attempt) (status : PermissionStatus) : InterventionNotifier :=
  if status = .granted then
    { notifier with requested := notifier.requested ++ [attempt.key] }.moves attempt .scheduling
  else
    notifier.ends attempt .undelivered

/-- `checkStatus` returns to an attempt. -/
def statusChecked (number : Nat) (checked : PermissionStatus) : InterventionNotifier :=
  match notifier.inPhase number .checking with
  | none => notifier
  | some attempt =>
    if attempt.isCancelled then
      notifier.ends attempt .undelivered
    else if checked = .unknown ∧ notifier.hasRequestedPermission = false then
      { notifier with hasRequestedPermission := true }.moves attempt .asking
    else
      notifier.proceed attempt checked

/-- `requestPermission` returns to an attempt. -/
def permissionAnswered (number : Nat) (status : PermissionStatus) : InterventionNotifier :=
  match notifier.inPhase number .asking with
  | none => notifier
  | some attempt =>
    if attempt.isCancelled then
      notifier.ends attempt .undelivered
    else
      notifier.proceed attempt status

def acceptedIf (attempt : Attempt) (scheduled : Bool) : InterventionNotifier :=
  { notifier with
    accepted := if scheduled then notifier.accepted ++ [attempt.key] else notifier.accepted }

/-- `scheduleIntervention` returns to an attempt. -/
def centreAnswered (number : Nat) (scheduled : Bool) : InterventionNotifier :=
  match notifier.inPhase number .scheduling with
  | none => notifier
  | some attempt =>
    (notifier.acceptedIf attempt scheduled).ends attempt
      (if scheduled then .delivered else .undelivered)

end InterventionNotifier

inductive NotifierAction
  | handle (snapshot : Option WorkBlockSnapshot)
  | retryPendingOffer
  | statusChecked (number : Nat) (checked : PermissionStatus)
  | permissionAnswered (number : Nat) (status : PermissionStatus)
  | centreAnswered (number : Nat) (scheduled : Bool)

def InterventionNotifier.act (notifier : InterventionNotifier) :
    NotifierAction → InterventionNotifier
  | .handle snapshot => notifier.handle snapshot
  | .retryPendingOffer => notifier.retryPendingOffer
  | .statusChecked number checked => notifier.statusChecked number checked
  | .permissionAnswered number status => notifier.permissionAnswered number status
  | .centreAnswered number scheduled => notifier.centreAnswered number scheduled

/-- The offers that a snapshot shows as quiet, withdrawn or replaced. -/
def InterventionNotifier.drops (notifier : InterventionNotifier)
    (snapshot : Option WorkBlockSnapshot) : List OfferKey :=
  match shownOffer snapshot with
  | none => notifier.currentKey.toList
  | some (key, offer) =>
    (if notifier.currentKey = some key then [] else notifier.currentKey.toList) ++
      if offer.salience = .normal then [] else [key]

/-- The notifier, with the offers that some snapshot has shown as quiet, withdrawn or replaced,
and those that were requested afterwards. -/
structure NotifierWorld where
  notifier : InterventionNotifier
  dropped : List OfferKey
  requestedLate : List OfferKey

def NotifierWorld.droppedAfter (world : NotifierWorld) : NotifierAction → List OfferKey
  | .handle snapshot => world.dropped ++ world.notifier.drops snapshot
  | _ => world.dropped

def NotifierWorld.requestedBy (world : NotifierWorld) (action : NotifierAction) : List OfferKey :=
  (world.notifier.act action).requested.drop world.notifier.requested.length

def notifierMachine : Machine NotifierWorld NotifierAction Unit where
  step world action :=
    ((), {
      notifier := world.notifier.act action
      dropped := world.droppedAfter action
      requestedLate := world.requestedLate ++
        (world.requestedBy action).filter fun key => key ∈ world.dropped })

def NotifierWorld.initial : NotifierWorld where
  notifier := .initial
  dropped := []
  requestedLate := []

end Velvt.DriftOffers
