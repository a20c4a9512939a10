import Velvt.WorkBlockOperations

/-!
# The outcomes of logged decisions

A decision is logged before anyone knows what follows it.  `InterventionDecisionOutcomeTarget`
fills the outcome in from the block's rows once the horizon of the decision has closed.  A pass may
come between any two operations of the manager.
-/

namespace Velvt

open StepMachine

def decisionOutcomeHorizonSeconds : Int := 600

/-- Where the log holds a decision. -/
structure DecisionKey where
  blockId : Uuid
  index : Nat

/-- `decision_from_row`. -/
def InterventionDecision.loaded (row : InterventionDecision .seconds) :
    InterventionDecision .nanoseconds where
  occurredAt := fromTimestamp row.occurredAt
  blockId := row.blockId
  policyVersion := row.policyVersion
  anchorCategory := row.anchorCategory
  switchCount := row.switchCount
  elapsedSeconds := row.elapsedSeconds
  remainingSeconds := row.remainingSeconds
  gateVerdict := row.gateVerdict
  propensity := row.propensity
  anchorSeenWithin600s := row.anchorSeenWithin600s
  outcomeAt := row.outcomeAt.map fromTimestamp

namespace BlockUpdate

/-- `SET anchor_seen_within_600s = ?, outcome_at = ? WHERE anchor_seen_within_600s IS NULL`, on a
row. -/
def resolveDecisionRow (anchorSeen : Bool) (stored : Int) (row : InterventionDecision .seconds) :
    InterventionDecision .seconds :=
  if row.anchorSeenWithin600s.isNone then
    { row with anchorSeenWithin600s := some anchorSeen, outcomeAt := some stored }
  else
    row

def resolveDecision (index : Nat) (anchorSeen : Bool) (instant : Int) : BlockUpdate where
  apply block :=
    { block with
      decisionRows :=
        block.decisionRows.modify index (resolveDecisionRow anchorSeen (timestamp instant)) }
  keepsId _ := rfl

end BlockUpdate

namespace WorkBlockStore

def loggedDecisions (store : WorkBlockStore) : List (DecisionKey × InterventionDecision .seconds) :=
  store.blocks.flatMap fun block =>
    block.decisionRows.zipIdx.map fun (row, index) => (⟨block.blockId, index⟩, row)

def decisionRow (store : WorkBlockStore) (key : DecisionKey) :
    Option (InterventionDecision .seconds) :=
  (store.block key.blockId).bind fun block => block.decisionRows[key.index]?

/-- `ORDER BY occurred_at ASC, decision_id ASC LIMIT ?`; `decisionId` gives the identifiers drawn
for the decisions. -/
def unresolvedDecisions (store : WorkBlockStore) (decisionId : DecisionKey → Uuid)
    (horizonClosedBy : Int) (limit : Nat) :
    List (DecisionKey × InterventionDecision .nanoseconds) :=
  let rows := store.loggedDecisions.filter fun (_, row) =>
    row.anchorSeenWithin600s.isNone && row.anchorCategory.isSome && row.blockId.isSome &&
      decide (row.occurredAt ≤ timestamp horizonClosedBy)
  let rows := rows.insertionSort fun (firstKey, first) (secondKey, second) =>
    first.occurredAt < second.occurredAt ∨
      first.occurredAt = second.occurredAt ∧ (decisionId firstKey).toNat ≤ (decisionId secondKey).toNat
  (rows.take limit).map fun (key, row) => (key, row.loaded)

/-- Whether a row of the block lies in `(from, until]` with the category, whatever its
confidence. -/
def observedCategoryBetween (store : WorkBlockStore) (blockId : Uuid) (category : String)
    (fromInstant untilInstant : Int) : Bool :=
  (store.block blockId).any fun block =>
    block.observationRows.any fun row =>
      eqIgnoreAsciiCase row.category category &&
        decide (timestamp fromInstant < row.occurredAt) &&
        decide (row.occurredAt ≤ timestamp untilInstant)

/-- Sets the outcome of a decision that has none; answers whether it had none. -/
def resolveDecision (store : WorkBlockStore) (key : DecisionKey) (anchorSeen : Bool)
    (instant : Int) : WorkBlockStore × Bool :=
  (store.updateBlock key.blockId (.resolveDecision key.index anchorSeen instant),
    (store.decisionRow key).any (·.anchorSeenWithin600s.isNone))

end WorkBlockStore

namespace InterventionDecisionOutcomeTarget

/-- One decision of a pass, with the count of those resolved before it. -/
def resolve (state : WorkBlockStore × Nat)
    (entry : DecisionKey × InterventionDecision .nanoseconds) : WorkBlockStore × Nat :=
  match entry.2.blockId, entry.2.anchorCategory with
  | some blockId, some anchor =>
    let horizonClosedAt := entry.2.occurredAt + Duration.seconds decisionOutcomeHorizonSeconds
    let anchorSeen :=
      state.1.observedCategoryBetween blockId anchor entry.2.occurredAt horizonClosedAt
    let (store, updated) := state.1.resolveDecision entry.1 anchorSeen horizonClosedAt
    (store, if updated then state.2 + 1 else state.2)
  | _, _ => state

def runCleanup (decisionId : DecisionKey → Uuid) (store : WorkBlockStore) (now : Int)
    (batchSize : Nat) : WorkBlockStore × Nat :=
  let unresolved := store.unresolvedDecisions decisionId
    (now - Duration.seconds decisionOutcomeHorizonSeconds) batchSize
  unresolved.foldl resolve (store, 0)

end InterventionDecisionOutcomeTarget

/-- An operation of the manager, or a pass over the log. -/
inductive OutcomeStep
  | operation (op : Operation)
  | resolveOutcomes (now : Int) (batchSize : Nat)

namespace OutcomeStep

def operation? : OutcomeStep → Option Operation
  | operation op => some op
  | resolveOutcomes _ _ => none

end OutcomeStep

def operationsOf (steps : List OutcomeStep) : List Operation :=
  steps.filterMap OutcomeStep.operation?

inductive OutcomeAnswer
  | operation (answer : Answer)
  | resolved (count : Nat)

def outcomeMachine (decisionId : DecisionKey → Uuid) :
    Machine WorkBlockManager OutcomeStep OutcomeAnswer where
  step manager
    | .operation op =>
      let (answer, next) := managerMachine.step manager op
      (.operation answer, next)
    | .resolveOutcomes now batchSize =>
      let (store, count) :=
        InterventionDecisionOutcomeTarget.runCleanup decisionId manager.store now batchSize
      (.resolved count, { manager with store := store })

end Velvt
