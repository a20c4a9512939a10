import Mathlib.Algebra.Order.Ring.Rat
import Velvt.StepMachine
import Velvt.TableRows

/-!
# Antecedent findings

The table `antecedent_finding` with its checks, its unique index and its three triggers, and the
statements of its repository.  A floating-point column is a rational number, and `none` is NaN,
which the store binds as `NULL`.
-/

namespace Velvt

open StepMachine

inductive AntecedentFindingState
  | candidate
  | confirmed
  | surfaced
  | retracted
  | disputed
  deriving DecidableEq

inductive AntecedentRetractionReason
  | effectDisappeared
  | supportLost
  | userDisputed
  | registryVersionChange

structure AntecedentFinding where
  findingId : String
  candidateId : String
  candidateRegistryVersion : Nat
  discoveredAt : Int
  discoveryWindowStart : String
  discoveryWindowEnd : String
  supportEpisodes : Nat
  effectSize : Option ℚ
  qValue : Option ℚ
  confirmedAt : Option Int
  confirmSupportEpisodes : Option Nat
  confirmEffectSize : Option ℚ
  state : AntecedentFindingState
  surfacedAt : Option Int
  retractedAt : Option Int
  retractionReason : Option AntecedentRetractionReason
  userDisputedAt : Option Int

/-- `GLOB '????-??-??'`. -/
def isDateShaped (text : String) : Bool :=
  match text.toList with
  | [_, _, _, _, firstDash, _, _, secondDash, _, _] => firstDash == '-' && secondDash == '-'
  | _ => false

/-- Days since 1970-01-01 in the Gregorian calendar, by the arithmetic of the store's date
functions.  A day past the end of its month runs over into the next. -/
def civilDay (year month day : Nat) : Int :=
  let (year, month) := if month ≤ 2 then ((year : Int) - 1, month + 12) else ((year : Int), month)
  let century := (year + 4800) / 100
  36525 * (year + 4716) / 100 + 306001 * ((month : Int) + 1) / 10000 + day +
    (38 - century + century / 4) - 2442112

def digitsValue (letters : List Char) : Option Nat :=
  if letters.all Char.isDigit then
    some (letters.foldl (fun value letter => value * 10 + (letter.toNat - '0'.toNat)) 0)
  else
    none

/-- `CAST(strftime('%s', ?) AS INTEGER)` of a date-shaped text: the midnight at which the day
begins in UTC, or `NULL` where the text is no date. -/
def midnightSeconds (text : String) : Option Int :=
  match text.toList with
  | [y₁, y₂, y₃, y₄, _, m₁, m₂, _, d₁, d₂] =>
    match digitsValue [y₁, y₂, y₃, y₄], digitsValue [m₁, m₂], digitsValue [d₁, d₂] with
    | some year, some month, some day =>
      if 1 ≤ month ∧ month ≤ 12 ∧ 1 ≤ day ∧ day ≤ 31 then
        some (civilDay year month day * 86400)
      else
        none
    | _, _, _ => none
  | _ => none

inductive AntecedentFindingError
  | unconfirmed
  | notHeldOut
  | constraint
  | storage

namespace AntecedentFinding

def isBetween (low high value : ℚ) : Bool := decide (low ≤ value) && decide (value ≤ high)

/-- The `CHECK` and `NOT NULL` constraints of the table. -/
@[mk_iff]
structure Admissible (finding : AntecedentFinding) : Prop where
  version : 1 ≤ finding.candidateRegistryVersion
  windowStart : isDateShaped finding.discoveryWindowStart = true
  windowEnd : isDateShaped finding.discoveryWindowEnd = true
  effect : finding.effectSize.any (isBetween (-1) 1) = true
  qRange : finding.qValue.any (isBetween 0 1) = true
  confirmEffect : finding.confirmEffectSize.all (isBetween (-1) 1) = true
  surfacedConfirmed : finding.surfacedAt = none ∨ finding.confirmedAt.isSome = true
  stateConfirmed : finding.state ≠ .surfaced ∨ finding.confirmedAt.isSome = true
  confirmation : finding.confirmedAt = none ∨
    finding.confirmSupportEpisodes.isSome = true ∧ finding.confirmEffectSize.isSome = true
  retraction : finding.retractedAt = none ∨ finding.retractionReason.isSome = true

instance (finding : AntecedentFinding) : Decidable finding.Admissible :=
  decidable_of_iff' _ finding.admissible_iff

/-- `idx_antecedent_finding_one_look_per_window`. -/
def SameLook (first second : AntecedentFinding) : Prop :=
  first.candidateId = second.candidateId ∧
    first.candidateRegistryVersion = second.candidateRegistryVersion ∧
    first.discoveryWindowStart = second.discoveryWindowStart ∧
    first.discoveryWindowEnd = second.discoveryWindowEnd
  deriving Decidable

/-- `trg_antecedent_finding_requires_confirmation`, and the trigger on insertion. -/
def requiresConfirmation (finding : AntecedentFinding) : Option AntecedentFindingError :=
  if finding.state = .surfaced ∧ finding.confirmedAt = none then some .unconfirmed else none

/-- `trg_antecedent_finding_confirmation_is_held_out`.  A comparison with `NULL` holds for no
row. -/
def confirmationIsHeldOut (finding : AntecedentFinding) : Option AntecedentFindingError :=
  match finding.confirmedAt, midnightSeconds finding.discoveryWindowEnd with
  | some confirmedAt, some midnight => if confirmedAt < midnight then some .notHeldOut else none
  | _, _ => none

/-- What a statement answers for a row it would leave: the trigger speaks before the checks. -/
def refusal (trigger : AntecedentFinding → Option AntecedentFindingError)
    (finding : AntecedentFinding) : Option AntecedentFindingError :=
  (trigger finding).or (if finding.Admissible then none else some .constraint)

end AntecedentFinding

section Statements

variable (rows : List AntecedentFinding)

/-- `INSERT INTO antecedent_finding`. -/
def insertFinding (finding : AntecedentFinding) :
    Except AntecedentFindingError (List AntecedentFinding) :=
  match finding.refusal AntecedentFinding.requiresConfirmation with
  | some error => .error error
  | none =>
    if rows.any fun row =>
        decide (row.findingId = finding.findingId) || decide (row.SameLook finding) then
      .error .constraint
    else
      .ok (rows ++ [finding])

/-- `UPDATE antecedent_finding SET … WHERE finding_id = ?1`, with the number of rows changed. -/
def updateFinding (findingId : String) (trigger : AntecedentFinding → Option AntecedentFindingError)
    (change : AntecedentFinding → AntecedentFinding) :
    Except AntecedentFindingError (Nat × List AntecedentFinding) :=
  let selected := rows.filter fun row => decide (row.findingId = findingId)
  match selected.findSome? fun row => (change row).refusal trigger with
  | some error => .error error
  | none =>
    .ok (selected.length,
      TableRows.update (fun row => decide (row.findingId = findingId)) change rows)

end Statements

namespace AntecedentFinding

def confirming (confirmedAt : Int) (supportEpisodes : Nat) (effectSize : Option ℚ)
    (finding : AntecedentFinding) : AntecedentFinding :=
  { finding with
    confirmedAt := some confirmedAt
    confirmSupportEpisodes := some supportEpisodes
    confirmEffectSize := effectSize }

def movingTo (state : AntecedentFindingState) (finding : AntecedentFinding) : AntecedentFinding :=
  { finding with state := state }

def surfacing (surfacedAt : Int) (finding : AntecedentFinding) : AntecedentFinding :=
  { finding with state := .surfaced, surfacedAt := some surfacedAt }

def retracting (retractedAt : Int) (reason : AntecedentRetractionReason)
    (finding : AntecedentFinding) : AntecedentFinding :=
  { finding with
    state := .retracted
    retractedAt := some retractedAt
    retractionReason := some reason }

def disputing (disputedAt : Int) (finding : AntecedentFinding) : AntecedentFinding :=
  { finding with
    state := .disputed
    userDisputedAt := some disputedAt
    retractedAt := some disputedAt
    retractionReason := some .userDisputed }

end AntecedentFinding

/-- What the repository answers. -/
inductive FindingAnswer
  | recorded
  | updated (found : Bool)
  | failed (error : AntecedentFindingError)

section Repository

variable (rows : List AntecedentFinding)

def recordAntecedentFinding (finding : AntecedentFinding) :
    FindingAnswer × List AntecedentFinding :=
  match insertFinding rows finding with
  | .ok inserted => (.recorded, inserted)
  | .error error => (.failed error, rows)

def updateOne (findingId : String) (trigger : AntecedentFinding → Option AntecedentFindingError)
    (change : AntecedentFinding → AntecedentFinding) (fails : Bool) :
    FindingAnswer × List AntecedentFinding :=
  if fails then
    (.failed .storage, rows)
  else
    match updateFinding rows findingId trigger change with
    | .ok (count, updated) => (.updated (decide (0 < count)), updated)
    | .error error => (.failed error, rows)

/-- The evidence and the state are two statements, each committed on its own. -/
def confirmAntecedentFinding (findingId : String) (confirmedAt : Int) (supportEpisodes : Nat)
    (effectSize : Option ℚ) (failsEvidence failsState : Bool) :
    FindingAnswer × List AntecedentFinding :=
  match updateOne rows findingId AntecedentFinding.confirmationIsHeldOut
      (AntecedentFinding.confirming confirmedAt supportEpisodes effectSize) failsEvidence with
  | (.updated true, evidenced) =>
    updateOne evidenced findingId AntecedentFinding.requiresConfirmation
      (AntecedentFinding.movingTo .confirmed) failsState
  | refused => refused

def markAntecedentFindingSurfaced (findingId : String) (surfacedAt : Int) (fails : Bool) :
    FindingAnswer × List AntecedentFinding :=
  updateOne rows findingId AntecedentFinding.requiresConfirmation
    (AntecedentFinding.surfacing surfacedAt) fails

def retractAntecedentFinding (findingId : String) (retractedAt : Int)
    (reason : AntecedentRetractionReason) (fails : Bool) :
    FindingAnswer × List AntecedentFinding :=
  updateOne rows findingId AntecedentFinding.requiresConfirmation
    (AntecedentFinding.retracting retractedAt reason) fails

def disputeAntecedentFinding (findingId : String) (disputedAt : Int) (fails : Bool) :
    FindingAnswer × List AntecedentFinding :=
  updateOne rows findingId AntecedentFinding.requiresConfirmation
    (AntecedentFinding.disputing disputedAt) fails

end Repository

/-- The calls of the repository that write, each with the statements that the storage fails. -/
inductive FindingCall
  | record (finding : AntecedentFinding)
  | confirm (findingId : String) (confirmedAt : Int) (supportEpisodes : Nat)
      (effectSize : Option ℚ) (failsEvidence failsState : Bool)
  | markSurfaced (findingId : String) (surfacedAt : Int) (fails : Bool)
  | retract (findingId : String) (retractedAt : Int) (reason : AntecedentRetractionReason)
      (fails : Bool)
  | dispute (findingId : String) (disputedAt : Int) (fails : Bool)

def findingMachine : Machine (List AntecedentFinding) FindingCall FindingAnswer where
  step rows
    | .record finding => recordAntecedentFinding rows finding
    | .confirm findingId confirmedAt supportEpisodes effectSize failsEvidence failsState =>
      confirmAntecedentFinding rows findingId confirmedAt supportEpisodes effectSize
        failsEvidence failsState
    | .markSurfaced findingId surfacedAt fails =>
      markAntecedentFindingSurfaced rows findingId surfacedAt fails
    | .retract findingId retractedAt reason fails =>
      retractAntecedentFinding rows findingId retractedAt reason fails
    | .dispute findingId disputedAt fails =>
      disputeAntecedentFinding rows findingId disputedAt fails

end Velvt
