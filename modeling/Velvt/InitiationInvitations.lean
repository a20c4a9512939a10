import Velvt.LocalTime
import Velvt.StepMachine
import Velvt.TableRows

/-!
# Initiation invitations

The invitation table with its statements, the good-hours assessment, and the operations of the
initiation manager.  What the manager reads from other parts of the service, the delivery gates
and the evidence of completed blocks, is part of a request.
-/

namespace Velvt

open StepMachine

def goodHoursPolicyVersion : Nat := 1

def goodHoursMinTotalCompletedBlocks : Nat := 6

def goodHoursMinBucketBlocks : Nat := 3

def goodHoursMinBucketDwellSeconds : Nat := 45 * 60

def invitationBackoffPolicyVersion : Nat := 1

def invitationDailyCap : Nat := 1

def invitationActionId : String := "soft_start_25"

def invitationDurationSeconds : Nat := 25 * 60

def invitationResponseTtlSeconds : Int := 30 * 60

def invitationBaseCooldownSeconds : Int := 24 * 60 * 60

def invitationBackoffCooldownMultiplier : Nat := 2

def invitationSilenceDismissalThreshold : Nat := 3

def invitationSilenceDays : Int := 30

def backoffScanLimit : Nat := 32

inductive InitiationInvitationOutcome
  | offered
  | accepted
  | dismissed
  | noResponse
  | expired
  deriving DecidableEq

/-- One row of `initiation_invitation`, with its instants in whole seconds. -/
structure InitiationInvitationRecord where
  invitationId : String
  offeredAt : Int
  localDate : Int
  actionId : String
  policyVersion : Nat
  backoffPolicyVersion : Nat
  outcome : InitiationInvitationOutcome
  outcomeAt : Option Int

/-- `ORDER BY offered_at DESC, invitation_id DESC`. -/
def InitiationInvitationRecord.NewestFirst (first second : InitiationInvitationRecord) : Prop :=
  second.offeredAt < first.offeredAt ∨
    (second.offeredAt = first.offeredAt ∧ second.invitationId ≤ first.invitationId)
  deriving Decidable

/-- The row of `initiation_settings`. -/
structure InitiationSettings where
  invitationsEnabled : Bool
  updatedAt : Int

/-- The tables of the initiation repository. -/
structure InitiationTables where
  invitations : List InitiationInvitationRecord
  settings : Option InitiationSettings

namespace InitiationTables

def empty : InitiationTables where
  invitations := []
  settings := none

variable (tables : InitiationTables)

/-- `INSERT INTO initiation_invitation`.  The id is the primary key. -/
def recordInvitation (record : InitiationInvitationRecord) : Option InitiationTables :=
  if record.invitationId ∈ tables.invitations.map (·.invitationId) then
    none
  else
    some { tables with invitations := tables.invitations ++ [record] }

def openInvitation : Option InitiationInvitationRecord :=
  TableRows.newest (·.offeredAt)
    (tables.invitations.filter fun row => decide (row.outcome = .offered))

def recentInvitations (limit : Nat) : List InitiationInvitationRecord :=
  (tables.invitations.insertionSort InitiationInvitationRecord.NewestFirst).take limit

def resolveInvitation (invitationId : String) (outcome : InitiationInvitationOutcome)
    (instant : Int) : InitiationTables :=
  { tables with
    invitations :=
      TableRows.update
        (fun row => decide (row.invitationId = invitationId ∧ row.outcome = .offered))
        (fun row => { row with outcome := outcome, outcomeAt := some (timestamp instant) })
        tables.invitations }

def invitationsOnLocalDate (localDate : Int) : Nat :=
  tables.invitations.countP fun row => decide (row.localDate = localDate)

def invitationsEnabled : Bool :=
  (tables.settings.map (·.invitationsEnabled)).getD true

def setInvitationsEnabled (enabled : Bool) (instant : Int) : InitiationTables :=
  { tables with
    settings := some { invitationsEnabled := enabled, updatedAt := timestamp instant } }

end InitiationTables

inductive GoodHoursAssessment
  | insufficientEvidence
  | outsideGoodHours
  | goodHour
  deriving DecidableEq

structure CompletedBlockDwellSpan where
  blockId : String
  startedAt : Int
  endedAt : Int

/-- The evidence of completed blocks since the start of the lookback window. -/
structure GoodHoursEvidence where
  completedBlockCount : Nat
  completedBlockDwellSpans : List CompletedBlockDwellSpan

/-- The part of a span in one local hour. -/
structure DwellPiece where
  bucket : Nat × Nat
  blockId : String
  seconds : Nat

def hourBucket (instant offsetSeconds : Int) : Nat × Nat :=
  let localTime := toLocal instant offsetSeconds
  (LocalTime.weekday localTime, LocalTime.hour localTime)

def nextHour (cursor offsetSeconds : Int) : Int :=
  let localTime := toLocal cursor offsetSeconds
  cursor + Duration.seconds
    (3600 - (LocalTime.minute localTime * 60 + LocalTime.second localTime : Nat))

theorem lt_nextHour (cursor offsetSeconds : Int) : cursor < nextHour cursor offsetSeconds := by
  simp only [nextHour, LocalTime.minute, LocalTime.second, Duration.seconds]
  omega

/-- The loop over one span: it is split where the local hour changes. -/
def dwellPieces (blockId : String) (offsetSeconds endedAt cursor : Int) : List DwellPiece :=
  if cursor < endedAt then
    let pieceEnd := min endedAt (nextHour cursor offsetSeconds)
    { bucket := hourBucket cursor offsetSeconds
      blockId := blockId
      seconds := positiveSeconds (pieceEnd - cursor) } ::
      dwellPieces blockId offsetSeconds endedAt pieceEnd
  else
    []
termination_by (endedAt - cursor).toNat
decreasing_by
  have := lt_nextHour cursor offsetSeconds
  omega

def dwellSeconds (pieces : List DwellPiece) (bucket : Nat × Nat) : Nat :=
  (pieces.filter fun piece => decide (piece.bucket = bucket)).foldl
    (fun total piece => saturatingAdd total piece.seconds) 0

def dwellBlocks (pieces : List DwellPiece) (bucket : Nat × Nat) : List String :=
  ((pieces.filter fun piece => decide (piece.bucket = bucket)).map (·.blockId)).dedup

def qualifies (pieces : List DwellPiece) (bucket : Nat × Nat) : Bool :=
  decide (goodHoursMinBucketDwellSeconds ≤ dwellSeconds pieces bucket) &&
    decide (goodHoursMinBucketBlocks ≤ (dwellBlocks pieces bucket).length)

def assessGoodHours (evidence : GoodHoursEvidence) (now utcOffsetSeconds : Int) :
    GoodHoursAssessment :=
  let offsetSeconds := clampOffset utcOffsetSeconds
  if evidence.completedBlockCount < goodHoursMinTotalCompletedBlocks then
    .insufficientEvidence
  else
    let pieces := evidence.completedBlockDwellSpans.flatMap fun span =>
      dwellPieces span.blockId offsetSeconds span.endedAt span.startedAt
    if !(pieces.map (·.bucket)).any (qualifies pieces) then
      .insufficientEvidence
    else if qualifies pieces (hourBucket now offsetSeconds) then
      .goodHour
    else
      .outsideGoodHours

/-- `trailing_dismissals`: the loop stops at the first acceptance. -/
def trailingDismissalsFrom : Nat → Option Int → List InitiationInvitationRecord → Nat × Option Int
  | count, lastDismissedAt, [] => (count, lastDismissedAt)
  | count, lastDismissedAt, invitation :: older =>
    match invitation.outcome with
    | .dismissed =>
      trailingDismissalsFrom (saturatingAdd count 1)
        (lastDismissedAt.or (some (invitation.outcomeAt.getD invitation.offeredAt))) older
    | .accepted => (count, lastDismissedAt)
    | .noResponse => trailingDismissalsFrom count lastDismissedAt older
    | .expired => trailingDismissalsFrom count lastDismissedAt older
    | .offered => trailingDismissalsFrom count lastDismissedAt older

def trailingDismissals (recent : List InitiationInvitationRecord) : Nat × Option Int :=
  trailingDismissalsFrom 0 none recent

/-- The seconds from the last invitation to the next, after some trailing dismissals. -/
def invitationCooldown (trailing : Nat) : Int :=
  invitationBaseCooldownSeconds *
    (min (invitationBackoffCooldownMultiplier ^ min trailing backoffScanLimit) u32Max : Nat)

/-- What the delivery gates answer. -/
structure InvitationGates where
  liveBlockExists : Bool
  inQuietHours : Bool
  focusActive : Bool

def InvitationGates.suppress (gates : InvitationGates) : Bool :=
  gates.liveBlockExists || gates.inQuietHours || gates.focusActive

/-- The message handed to the client. -/
structure InitiationInvitation where
  invitationId : String
  actionId : String
  body : String
  durationSeconds : Nat
  policyVersion : Nat

def invitationBody : String :=
  "You usually focus well around now — want a 25-minute soft start?"

def offerPayload (record : InitiationInvitationRecord) : InitiationInvitation where
  invitationId := record.invitationId
  actionId := record.actionId
  body := invitationBody
  durationSeconds := invitationDurationSeconds
  policyVersion := record.policyVersion

/-- One check for an invitation, with what it reads and the id a new one would get. -/
structure InvitationRequest where
  now : Int
  utcOffsetSeconds : Int
  gates : InvitationGates
  evidence : GoodHoursEvidence
  uuid : String

inductive InitiationAnswer
  | done
  | persistenceFailed
  | invitation (offer : Option InitiationInvitation)
  | claimable (answer : Bool)
  | enabled (answer : Bool)

namespace InitiationTables

variable (tables : InitiationTables)

/-- The housekeeping of `pending_invitation`: how an open invitation ends, if it does. -/
def staleOutcome (request : InvitationRequest) (current : InitiationInvitationRecord) :
    Option InitiationInvitationOutcome :=
  if !tables.invitationsEnabled || current.policyVersion != goodHoursPolicyVersion ||
      current.backoffPolicyVersion != invitationBackoffPolicyVersion then
    some .expired
  else if fromTimestamp current.offeredAt + Duration.seconds invitationResponseTtlSeconds ≤
      request.now then
    some .noResponse
  else if request.gates.suppress then
    some .expired
  else
    none

def silenced (recent : List InitiationInvitationRecord) (now : Int) : Bool :=
  decide (invitationSilenceDismissalThreshold ≤ (trailingDismissals recent).1) &&
    (trailingDismissals recent).2.any fun dismissedAt =>
      decide (now < fromTimestamp dismissedAt + Duration.days invitationSilenceDays)

def coolingDown (recent : List InitiationInvitationRecord) (now : Int) : Bool :=
  recent.head?.any fun last =>
    decide (now < fromTimestamp last.offeredAt +
      Duration.seconds (invitationCooldown (trailingDismissals recent).1))

def requestDate (request : InvitationRequest) : Int :=
  LocalTime.localDate (toLocal request.now (clampOffset request.utcOffsetSeconds))

/-- Every gate a new invitation has to pass once no other one is open. -/
def mayInvite (request : InvitationRequest) : Bool :=
  tables.invitationsEnabled &&
    !request.gates.suppress &&
    decide (tables.invitationsOnLocalDate (requestDate request) < invitationDailyCap) &&
    !silenced (tables.recentInvitations backoffScanLimit) request.now &&
    !coolingDown (tables.recentInvitations backoffScanLimit) request.now &&
    decide (assessGoodHours request.evidence request.now
      (clampOffset request.utcOffsetSeconds) = .goodHour)

def newInvitation (request : InvitationRequest) : InitiationInvitationRecord where
  invitationId := request.uuid
  offeredAt := timestamp request.now
  localDate := requestDate request
  actionId := invitationActionId
  policyVersion := goodHoursPolicyVersion
  backoffPolicyVersion := invitationBackoffPolicyVersion
  outcome := .offered
  outcomeAt := none

/-- The second half of `pending_invitation`: a new invitation, where every gate is open. -/
def inviteAfresh (request : InvitationRequest) : InitiationAnswer × InitiationTables :=
  if tables.mayInvite request then
    match tables.recordInvitation (newInvitation request) with
    | none => (.persistenceFailed, tables)
    | some recorded => (.invitation (some (offerPayload (newInvitation request))), recorded)
  else
    (.invitation none, tables)

def pendingInvitation (request : InvitationRequest) : InitiationAnswer × InitiationTables :=
  match tables.openInvitation with
  | none => tables.inviteAfresh request
  | some current =>
    match tables.staleOutcome request current with
    | none => (.invitation (some (offerPayload current)), tables)
    | some outcome =>
      (tables.resolveInvitation current.invitationId outcome request.now).inviteAfresh request

def dismiss (invitationId : String) (now : Int) : InitiationTables :=
  tables.resolveInvitation invitationId .dismissed now

def claimable (invitationId : String) (now : Int) : Bool :=
  tables.openInvitation.any fun current =>
    decide (current.invitationId = invitationId ∧
      current.policyVersion = goodHoursPolicyVersion ∧
      now < fromTimestamp current.offeredAt + Duration.seconds invitationResponseTtlSeconds)

def expireOpen (now : Int) : InitiationTables :=
  match tables.openInvitation with
  | none => tables
  | some current => tables.resolveInvitation current.invitationId .expired now

def recordBlockStarted (claimed : Option String) (now : Int) : InitiationTables :=
  match claimed with
  | some invitationId => tables.resolveInvitation invitationId .accepted now
  | none => tables.expireOpen now

def setEnabled (enabled : Bool) (now : Int) : InitiationTables :=
  let stored := tables.setInvitationsEnabled enabled now
  if enabled then stored else stored.expireOpen now

end InitiationTables

/-- The calls of the initiation manager. -/
inductive InitiationCall
  | pendingInvitation (request : InvitationRequest)
  | dismiss (invitationId : String) (now : Int)
  | claimable (invitationId : String) (now : Int)
  | recordBlockStarted (claimed : Option String) (now : Int)
  | expireOpen (now : Int)
  | setEnabled (enabled : Bool) (now : Int)
  | enabled

def initiationMachine : Machine InitiationTables InitiationCall InitiationAnswer where
  step tables call :=
    match call with
    | .pendingInvitation request => tables.pendingInvitation request
    | .dismiss invitationId now => (.done, tables.dismiss invitationId now)
    | .claimable invitationId now => (.claimable (tables.claimable invitationId now), tables)
    | .recordBlockStarted claimed now => (.done, tables.recordBlockStarted claimed now)
    | .expireOpen now => (.done, tables.expireOpen now)
    | .setEnabled enabled now =>
      (.enabled (tables.setEnabled enabled now).invitationsEnabled, tables.setEnabled enabled now)
    | .enabled => (.enabled tables.invitationsEnabled, tables)

end Velvt
