import Velvt.WorkBlockCopy

/-!
# The end-of-block result

`aggregate_result` and the functions it calls: one pass over the closed,
confident rows of the ledger, a coverage level from the seconds the raw buffer
covered, and the one bounded next action.
-/

namespace Velvt

def recoveryDurationSeconds : Nat := 10 * 60

def nextActionFor (record : WorkBlockRecord .nanoseconds) (phase : WorkBlockPhase) :
    WorkBlockNextAction :=
  if record.origin = .invitation ∧ (phase = .abandoned ∨ phase = .expired) then
    { actionId := softRestartActionId
      label := softRestartLabel
      durationSeconds := recoveryDurationSeconds }
  else
    { actionId := driftActionId
      label := recoveryLabel record.purpose
      durationSeconds := recoveryDurationSeconds }

def withDndEvidence (result : WorkBlockResult) (completedUnderDnd : Bool)
    (heldCount : Nat) : WorkBlockResult :=
  { result with
    dndOutcomes := result.dndOutcomes ++
      (if completedUnderDnd then [.completedUnderDnd] else []) ++
      List.replicate heldCount .deliverySuppressedDnd
    reconciliation := dndReconciliationCopy completedUnderDnd heldCount }

/-- The counters of the result loop. -/
structure ResultScan where
  longest : Nat := 0
  currentCategory : Option String := none
  currentStretch : Nat := 0
  switchAways : Nat := 0
  recoveries : Nat := 0
  wasAwayFromDominant : Bool := false
  hasSeenDominant : Bool := false

/-- One pass of the result loop over an observed stretch of a category. -/
def ResultScan.step (dominant : Option String) (scan : ResultScan)
    (entry : String × Nat) : ResultScan :=
  let currentStretch :=
    if scan.currentCategory == some entry.1 then
      saturatingAdd scan.currentStretch entry.2
    else
      entry.2
  let scan :=
    { scan with
      currentCategory := some entry.1
      currentStretch := currentStretch
      longest := max scan.longest currentStretch }
  match dominant with
  | none => scan
  | some dominant =>
    if entry.1 == dominant then
      { scan with
        recoveries :=
          if scan.hasSeenDominant && scan.wasAwayFromDominant then
            saturatingAdd scan.recoveries 1
          else
            scan.recoveries
        hasSeenDominant := true
        wasAwayFromDominant := false }
    else if scan.hasSeenDominant && !scan.wasAwayFromDominant then
      { scan with
        switchAways := saturatingAdd scan.switchAways 1
        wasAwayFromDominant := true }
    else
      scan

def aggregateResult (record : WorkBlockRecord .nanoseconds) (phase : WorkBlockPhase)
    (elapsed : Nat) (observations : List (WorkBlockObservation .nanoseconds))
    (coveredSeconds : Nat) : WorkBlockResult :=
  let valid := observedSeconds observations
  let coverageRatio : ℚ :=
    if elapsed = 0 then 0
    else min (max ((coveredSeconds : ℚ) / (elapsed : ℚ)) 0) 1
  let coverage : WorkBlockCoverage :=
    if coverageRatio < 1 / 4 then .insufficient
    else if coverageRatio < 3 / 4 then .partialCoverage
    else .good
  let confidence : ConfidenceLevel :=
    match coverage with
    | .insufficient => .none
    | .partialCoverage => .low
    | .good => if 2 ≤ valid.length then .high else .medium
  let dominant := (maxBySeconds (categorySeconds valid)).map Prod.fst
  let scan := valid.foldl (ResultScan.step dominant) {}
  let safeEvidenceCategory := if coverage = .insufficient then none else dominant
  { plannedDurationSeconds := record.plannedDurationSeconds
    elapsedDurationSeconds := elapsed
    longestUninterruptedSeconds := scan.longest
    switchAwayCount := scan.switchAways
    recoveryCount := scan.recoveries
    confidence := confidence
    coverage := coverage
    coverageRatio := coverageRatio
    safeEvidenceCategory := safeEvidenceCategory
    observation := blockResultCopy coverage safeEvidenceCategory scan.switchAways
      scan.recoveries scan.longest coveredSeconds elapsed
    nextAction := nextActionFor record phase
    dndOutcomes := []
    reconciliation := none }

end Velvt
