import Velvt.LocalTime
import Velvt.StepMachine
import Velvt.TableRows

/-!
# Focus evidence and quiet hours

The client reports coarse Focus transitions.  Here are the evidence tables, their statements, and
what the focus manager decides from them: the Focus state at an instant, the late-night pattern
rule with its offer, and Velvt's own quiet hours.
-/

namespace Velvt

open StepMachine

def dndPatternRuleVersion : Nat := 1

def focusEvidenceBucketSeconds : Int := 300

def focusEvidenceRetentionDays : Int := 14

def lateNightHours : List Nat := [22, 23, 0, 1]

def lateNightMinDistinctDays : Nat := 3

def lateNightLookbackDays : Nat := 7

def quietHoursDeclineReaskDays : Int := 30

def offerMorningStartHour : Nat := 6

def offerMorningEndHour : Nat := 12

def quietStartLocalMinutes : Nat := 22 * 60

def quietEndLocalMinutes : Nat := 7 * 60

/-- The offer as the client receives it. -/
structure QuietHoursOffer where
  ruleVersion : Nat
  lateNightDays : Nat
  startLocalMinutes : Nat
  endLocalMinutes : Nat
  body : String

def quietHoursOfferBody (lateNightDays : Nat) : String :=
  let nights :=
    if lateNightDays = 1 then "1 recent late night"
    else toString lateNightDays ++ " recent late nights"
  "Do Not Disturb was on during " ++ nights ++
    ". Velvt can hold its own notifications from 22:00 to 07:00 — one tap turns that on, " ++
    "and declining changes nothing."

/-- One transition as the manager writes it, in instants of memory. -/
structure FocusTransition where
  active : Bool
  changedAtBucket : Int
  localHour : Nat
  localDate : Int
  recordedAt : Int

/-- One row of `focus_state_evidence`, with its instants in whole seconds. -/
structure FocusRow where
  id : Nat
  active : Bool
  changedAtBucket : Int
  localHour : Nat
  localDate : Int
  recordedAt : Int

/-- `ORDER BY changed_at_bucket DESC, id DESC`. -/
def FocusRow.NewestFirst (first second : FocusRow) : Prop :=
  second.changedAtBucket < first.changedAtBucket ∨
    (second.changedAtBucket = first.changedAtBucket ∧ second.id ≤ first.id)
  deriving Decidable

inductive QuietHoursOfferResponse
  | accepted
  | declined
  deriving DecidableEq

/-- The row of `quiet_hours_offer_state`. -/
structure QuietHoursOfferState where
  ruleVersion : Nat
  triggeredAt : Option Int
  offeredAt : Option Int
  response : Option QuietHoursOfferResponse
  respondedAt : Option Int

/-- The row of `velvt_quiet_hours`. -/
structure VelvtQuietHours where
  startLocalMinutes : Nat
  endLocalMinutes : Nat
  ruleVersion : Nat
  configuredAt : Int

/-- The row of `focus_observer_state`. -/
structure FocusObserverState where
  utcOffsetSeconds : Int
  updatedAt : Int

/-- The tables of the focus repository.  `lastId` is the largest id the evidence table ever
gave. -/
structure FocusTables where
  evidence : List FocusRow
  lastId : Nat
  observerState : Option FocusObserverState
  quietHoursOfferState : Option QuietHoursOfferState
  quietHours : Option VelvtQuietHours

namespace FocusTables

def empty : FocusTables where
  evidence := []
  lastId := 0
  observerState := none
  quietHoursOfferState := none
  quietHours := none

variable (tables : FocusTables)

/-- The newest stored transition.  A repeat of its state stores nothing. -/
def latestFocusTransition : Option FocusRow :=
  TableRows.first FocusRow.NewestFirst tables.evidence

/-- `INSERT INTO focus_state_evidence`. -/
def insertTransition (transition : FocusTransition) : FocusTables :=
  { tables with
    evidence := tables.evidence ++
      [{ id := tables.lastId + 1
         active := transition.active
         changedAtBucket := timestamp transition.changedAtBucket
         localHour := transition.localHour
         localDate := transition.localDate
         recordedAt := timestamp transition.recordedAt }]
    lastId := tables.lastId + 1 }

def recordFocusTransition (transition : FocusTransition) : FocusTables :=
  if tables.latestFocusTransition.map (·.active) = some transition.active then
    tables
  else
    tables.insertTransition transition

/-- The stored transition that decides the state at a bucket: the newest at or before it. -/
def transitionAtBucket (bucket : Int) : Option FocusRow :=
  TableRows.first FocusRow.NewestFirst
    (tables.evidence.filter fun row => decide (row.changedAtBucket ≤ timestamp bucket))

def focusStateAtBucket (bucket : Int) : Option Bool :=
  (tables.transitionAtBucket bucket).map (·.active)

/-- `SELECT DISTINCT local_date … WHERE active = 1 AND local_hour IN …`. -/
def focusActiveDatesInHours (hours : List Nat) : List Int :=
  ((tables.evidence.filter fun row => row.active && hours.contains row.localHour).map
    (·.localDate)).dedup

def pruneFocusEvidence (cutoff : Int) : FocusTables :=
  { tables with
    evidence := tables.evidence.filter fun row =>
      !decide (row.changedAtBucket < timestamp cutoff) }

def setUtcOffset (seconds instant : Int) : FocusTables :=
  { tables with
    observerState := some { utcOffsetSeconds := seconds, updatedAt := timestamp instant } }

def utcOffsetSeconds : Option Int := tables.observerState.map (·.utcOffsetSeconds)

def recordQuietHoursTrigger (ruleVersion : Nat) (instant : Int) : FocusTables :=
  { tables with
    quietHoursOfferState :=
      some
        { ruleVersion := ruleVersion
          triggeredAt := some (timestamp instant)
          offeredAt := none
          response := none
          respondedAt := none } }

def recordQuietHoursOffered (instant : Int) : FocusTables :=
  { tables with
    quietHoursOfferState := tables.quietHoursOfferState.map fun state =>
      { state with offeredAt := state.offeredAt.or (some (timestamp instant)) } }

/-- Only an unanswered offer transitions: a reply cannot be rewritten. -/
def recordQuietHoursResponse (response : QuietHoursOfferResponse) (instant : Int) :
    FocusTables :=
  { tables with
    quietHoursOfferState := tables.quietHoursOfferState.map fun state =>
      if state.response = none then
        { state with response := some response, respondedAt := some (timestamp instant) }
      else state }

def setQuietHours (quietHours : VelvtQuietHours) : FocusTables :=
  { tables with quietHours := some quietHours }

/-- Quiet hours are a choice of the user and survive the evidence. -/
def clearFocusEvidence : FocusTables :=
  { tables with evidence := [], observerState := none, quietHoursOfferState := none }

end FocusTables

def floorToBucket (instant : Int) : Int :=
  fromTimestamp (timestamp instant / focusEvidenceBucketSeconds * focusEvidenceBucketSeconds)

/-- `recent_local_dates`: the trailing local days that end at `now`. -/
def recentLocalDates (now offsetSeconds : Int) (days : Nat) : List Int :=
  (List.range days).map fun back =>
    LocalTime.localDate (toLocal (now - Duration.days back) offsetSeconds)

/-- One `FocusStateChanged` message, with the instant at which it is recorded. -/
structure FocusReport where
  active : Bool
  occurredAt : Int
  utcOffsetSeconds : Int
  now : Int

namespace FocusTables

variable (tables : FocusTables)

/-- The offer is settled or in flight, so the pattern rule stays silent. -/
def offerHolds (now : Int) : Bool :=
  match tables.quietHoursOfferState with
  | none => false
  | some state =>
    match state.response with
    | some .accepted => true
    | some .declined =>
      state.respondedAt.any fun respondedAt =>
        decide (now < fromTimestamp respondedAt + Duration.days quietHoursDeclineReaskDays)
    | none => state.triggeredAt.isSome

/-- Rule v1: late-night activations on enough distinct local days trigger an offer. -/
def evaluatePatternRule (now : Int) : FocusTables :=
  if tables.quietHours.isSome || tables.offerHolds now then
    tables
  else
    match tables.utcOffsetSeconds with
    | none => tables
    | some offsetSeconds =>
      let lookback := recentLocalDates now offsetSeconds lateNightLookbackDays
      let matchingDays :=
        ((tables.focusActiveDatesInHours lateNightHours).filter lookback.contains).length
      if lateNightMinDistinctDays ≤ matchingDays then
        tables.recordQuietHoursTrigger dndPatternRuleVersion now
      else
        tables

def transitionOf (report : FocusReport) : FocusTransition :=
  let localTime := toLocal report.occurredAt (clampOffset report.utcOffsetSeconds)
  { active := report.active
    changedAtBucket := floorToBucket report.occurredAt
    localHour := LocalTime.hour localTime
    localDate := LocalTime.localDate localTime
    recordedAt := report.now }

def recordTransition (report : FocusReport) : FocusTables :=
  let observed := tables.setUtcOffset (clampOffset report.utcOffsetSeconds) report.now
  let pruned :=
    observed.pruneFocusEvidence (report.now - Duration.days focusEvidenceRetentionDays)
  let recorded := pruned.recordFocusTransition (transitionOf report)
  recorded.evaluatePatternRule report.now

def isFocusActive (instant : Int) : Bool :=
  (tables.focusStateAtBucket (floorToBucket instant)).getD false

/-- The offer a waiting trigger makes on a local morning strictly after it. -/
def pendingMorningOffer (now : Int) : Option QuietHoursOffer × FocusTables :=
  match tables.quietHoursOfferState, tables.utcOffsetSeconds with
  | some state, some offsetSeconds =>
    match state.response, state.triggeredAt with
    | none, some triggeredAt =>
      let hour := LocalTime.hour (toLocal now offsetSeconds)
      if hour < offerMorningStartHour ∨ offerMorningEndHour ≤ hour ∨
          now ≤ fromTimestamp triggeredAt then
        (none, tables)
      else
        let lookback := recentLocalDates now offsetSeconds lateNightLookbackDays
        let lateNightDays := max 1
          ((tables.focusActiveDatesInHours lateNightHours).filter lookback.contains).length
        (some
          { ruleVersion := state.ruleVersion
            lateNightDays := lateNightDays
            startLocalMinutes := quietStartLocalMinutes
            endLocalMinutes := quietEndLocalMinutes
            body := quietHoursOfferBody lateNightDays },
          tables.recordQuietHoursOffered now)
    | _, _ => (none, tables)
  | _, _ => (none, tables)

/-- Accepting configures Velvt's quiet hours, declining is only remembered. -/
def respondToOffer (accepted : Bool) (now : Int) : FocusTables :=
  if accepted then
    (tables.recordQuietHoursResponse .accepted now).setQuietHours
      { startLocalMinutes := quietStartLocalMinutes
        endLocalMinutes := quietEndLocalMinutes
        ruleVersion := dndPatternRuleVersion
        configuredAt := timestamp now }
  else
    tables.recordQuietHoursResponse .declined now

/-- The minutes left in the quiet window that contains `now`, at a given offset. -/
def quietHoursRemainingMinutesAt (now utcOffsetSeconds : Int) : Option Nat :=
  match tables.quietHours with
  | none => none
  | some quietHours =>
    let localTime := toLocal now (clampOffset utcOffsetSeconds)
    let minutes := LocalTime.hour localTime * 60 + LocalTime.minute localTime
    let start := quietHours.startLocalMinutes
    let finish := quietHours.endLocalMinutes
    let inside :=
      if start ≤ finish then decide (start ≤ minutes ∧ minutes < finish)
      else decide (start ≤ minutes ∨ minutes < finish)
    if !inside then none
    else some (if minutes < finish then finish - minutes else (1440 - minutes) + finish)

def quietHoursRemainingMinutes (now : Int) : Option Nat :=
  tables.utcOffsetSeconds.bind fun offsetSeconds =>
    tables.quietHoursRemainingMinutesAt now offsetSeconds

def inVelvtQuietHours (now : Int) : Bool :=
  (tables.quietHoursRemainingMinutes now).isSome

end FocusTables

def focusMachine : Machine FocusTables FocusReport Unit where
  step tables report := ((), tables.recordTransition report)

end Velvt
