import Velvt.WorkBlockOwnership

/-!
# What the drift gate saw

The gate answers with one of ten verdicts.
-/

namespace Velvt

namespace GateVerdict

def inserts : GateVerdict → Bool
  | withheldDemotion | suppressedDnd | offered => true
  | _ => false

def isSpent : GateVerdict → Bool
  | abstainedWarmup | abstainedRemaining | abstainedBlockCap => true
  | _ => false

end GateVerdict

/-- What the gate saw when it named an anchor and inserted a row. -/
structure Cleared (surroundings : Surroundings) (block : WorkBlock)
    (record : WorkBlockRecord .nanoseconds) (now : Int) (reading : GateReading)
    (anchor : String) : Prop where
  warm : driftMinElapsedSeconds ≤ elapsedSeconds record now
  uncapped : block.interventionRow = none
  unsuppressed : (surroundings.backoff now).suppressed = false
  dominant : dominantCategory block.observations = some anchor
  anchorCategory : reading.anchorCategory = some anchor
  switchCount : reading.switchCount = (departureScan block.observations anchor
    (now - Duration.seconds driftWindowSeconds)).switchCount
  enough : driftMinSwitches ≤ reading.switchCount
  departed : (departureScan block.observations anchor
    (now - Duration.seconds driftWindowSeconds)).previousWasAnchor ≠ some true
  offered : reading.verdict = .offered →
    surroundings.demotion now = .active ∧ surroundings.focusActive now = false

section Reading

variable {surroundings : Surroundings} {block : WorkBlock}
  {record : WorkBlockRecord .nanoseconds} {now : Int}

/-- A reading whose verdict inserts a decision has passed each gate. -/
theorem gateReading_cleared
    (inserts : (gateReading surroundings block record now).verdict.inserts = true) :
    ∃ anchor, Cleared surroundings block record now
      (gateReading surroundings block record now) anchor := by
  generalize isReading : gateReading surroundings block record now = reading at inserts
  simp only [gateReading] at isReading
  split at isReading
  · subst isReading
    cases inserts
  next warm =>
  split at isReading
  · subst isReading
    cases inserts
  split at isReading
  · subst isReading
    cases inserts
  next uncapped =>
  split at isReading
  · subst isReading
    cases inserts
  next unsuppressed =>
  split at isReading
  · subst isReading
    cases inserts
  next anchor dominant =>
  split at isReading
  · subst isReading
    cases inserts
  next enough =>
  split at isReading
  · subst isReading
    cases inserts
  next departed =>
  have cleared {verdict : GateVerdict}
      (isVerdict : ⟨verdict, some anchor, (departureScan block.observations anchor
        (now - Duration.seconds driftWindowSeconds)).switchCount⟩ = reading)
      (offered : verdict = .offered →
        surroundings.demotion now = .active ∧ surroundings.focusActive now = false) :
      Cleared surroundings block record now reading anchor := by
    subst isVerdict
    exact ⟨not_lt.mp warm, by simpa using uncapped, by simpa using unsuppressed, dominant,
      rfl, rfl, not_lt.mp enough, departed, offered⟩
  refine ⟨anchor, ?_⟩
  split at isReading
  · exact cleared isReading (by simp)
  next notDemoted =>
  split at isReading
  · exact cleared isReading (by simp)
  next notFocused =>
  refine cleared isReading fun _ => ⟨?_, by simpa using notFocused⟩
  cases state : surroundings.demotion now with
  | active => rfl
  | demoted => exact absurd state notDemoted

theorem gateReading_capped (capped : block.interventionRow.isSome = true) :
    (gateReading surroundings block record now).verdict.isSpent = true := by
  simp only [gateReading, capped, if_true]
  split
  · rfl
  split <;> rfl

end Reading

namespace GateReading

variable {reading : GateReading} {salience : InterventionSalience} {now : Int}

theorem offer_isSome : (reading.offer salience now).isSome = reading.verdict.inserts := by
  cases verdict : reading.verdict <;> simp [offer, verdict, GateVerdict.inserts]

theorem offer_fields {row : WorkBlockIntervention .nanoseconds}
    (isRow : reading.offer salience now = some row) :
    row.offeredAt = now ∧ row.anchorCategory = reading.anchorCategory.getD "" ∧
      row.switchCount = reading.switchCount ∧
      (row.outcome = .offered ↔ reading.verdict = .offered) ∧
      (row.outcome.isDelivered = true → row.outcome = .offered) := by
  cases verdict : reading.verdict <;> simp only [offer, verdict, reduceCtorEq] at isRow <;>
    (cases isRow; exact ⟨rfl, rfl, rfl, by simp, by simp [WorkBlockInterventionOutcome.isDelivered]⟩)

end GateReading

end Velvt
