import Velvt.WorkBlockAggregate

/-!
# The work-block store

The tables behind `WorkBlockRepo`, with the statements of `SqliteWorkBlockRepo`
as functions.  The rows that other tables keep under a block's identifier are
held with the block: the foreign keys bind them to it, and the primary keys of
the result and intervention tables allow one row each.  Blocks stand in rowid
order, observations and decisions in the order they were inserted.
-/

namespace Velvt

/-- One row of `work_block` with its rows in the other tables. -/
structure WorkBlock where
  record : WorkBlockRecord .seconds
  observationRows : List (WorkBlockObservation .seconds)
  resultRow : Option WorkBlockResult
  interventionRow : Option (WorkBlockIntervention .seconds)
  decisionRows : List (InterventionDecision .seconds)

namespace WorkBlock

variable (block : WorkBlock)

@[simp]
abbrev blockId : Uuid := block.record.blockId

@[simp]
abbrev phase : WorkBlockPhase := block.record.phase

/-- The rows of the block, `ORDER BY occurred_at, id`. -/
def orderedRows : List (WorkBlockObservation .seconds) :=
  block.observationRows.insertionSort fun first second =>
    first.occurredAt ≤ second.occurredAt

def observations : List (WorkBlockObservation .nanoseconds) :=
  block.orderedRows.map WorkBlockObservation.loaded

/-- `ORDER BY occurred_at DESC, id DESC LIMIT 1`. -/
def latestObservation : Option (WorkBlockObservation .nanoseconds) :=
  block.orderedRows.getLast?.map WorkBlockObservation.loaded

end WorkBlock

/-- What an `UPDATE`, or an `INSERT` under a block's identifier, does to a block.
No statement changes the primary key. -/
structure BlockUpdate where
  apply : WorkBlock → WorkBlock
  keepsId : ∀ block, (apply block).blockId = block.blockId

namespace BlockUpdate

/-- The update under `WHERE block_id = ?`. -/
def only (blockId : Uuid) (update : BlockUpdate) : BlockUpdate where
  apply block := if block.blockId = blockId then update.apply block else block
  keepsId block := by
    split
    · exact update.keepsId block
    · rfl

def andThen (first second : BlockUpdate) : BlockUpdate where
  apply block := second.apply (first.apply block)
  keepsId block := (second.keepsId _).trans (first.keepsId block)

/-- `SET phase = 'paused' … WHERE phase = 'active'`. -/
def setPaused (instant : Int) : BlockUpdate where
  apply block :=
    if block.phase = .active then
      { block with record :=
        { block.record with
          phase := .paused
          pausedAt := some (timestamp instant)
          updatedAt := timestamp instant } }
    else
      block
  keepsId block := by split <;> rfl

/-- `SET phase = 'active' … WHERE phase = 'paused'`. -/
def setActive (instant : Int) (totalPausedSeconds : Nat) : BlockUpdate where
  apply block :=
    if block.phase = .paused then
      { block with record :=
        { block.record with
          phase := .active
          pausedAt := none
          totalPausedSeconds := totalPausedSeconds
          updatedAt := timestamp instant } }
    else
      block
  keepsId block := by split <;> rfl

/-- `SET recovered_after_restart = 1 … WHERE phase IN ('active', 'paused')`. -/
def markRecovered (instant : Int) : BlockUpdate where
  apply block :=
    if block.phase.isLive then
      { block with record :=
        { block.record with
          recoveredAfterRestart := true
          updatedAt := timestamp instant } }
    else
      block
  keepsId block := by split <;> rfl

/-- `SET ended_at = MAX(occurred_at, ?) WHERE ended_at IS NULL`, on a row. -/
def closeRow (stored : Int) (row : WorkBlockObservation .seconds) :
    WorkBlockObservation .seconds :=
  if row.endedAt.isNone then
    { row with endedAt := some (max row.occurredAt stored) }
  else
    row

def closeOpenObservation (instant : Int) : BlockUpdate where
  apply block :=
    { block with
      observationRows := block.observationRows.map (closeRow (timestamp instant)) }
  keepsId _ := rfl

/-- Inserts the row and moves `updated_at` forward, never back. -/
def appendObservation (observation : WorkBlockObservation .nanoseconds) : BlockUpdate where
  apply block :=
    { block with
      observationRows := block.observationRows ++ [observation.stored]
      record :=
        { block.record with
          updatedAt := max block.record.updatedAt (timestamp observation.occurredAt) } }
  keepsId _ := rfl

/-- The update of `finalize`, which the result row is inserted with. -/
def finalize (completion : WorkBlockCompletion) : BlockUpdate where
  apply block :=
    if block.resultRow.isNone ∧ block.phase.isLive then
      { block with
        record :=
          { block.record with
            phase := completion.phase
            endedAt := some (timestamp completion.endedAt)
            pausedAt := none
            intentionExpiresAt := min block.record.intentionExpiresAt
              (timestamp (completion.endedAt + Duration.hours 24))
            updatedAt := timestamp completion.endedAt }
        resultRow := some completion.result }
    else
      block
  keepsId block := by split <;> rfl

/-- `INSERT … ON CONFLICT(block_id) DO NOTHING`. -/
def recordIntervention (intervention : WorkBlockIntervention .nanoseconds) : BlockUpdate where
  apply block :=
    { block with
      interventionRow := block.interventionRow.or (some intervention.stored) }
  keepsId _ := rfl

/-- `SET card_seen_at = ? WHERE card_seen_at IS NULL`, on a row. -/
def seeCard (stored : Int) (row : WorkBlockIntervention .seconds) :
    WorkBlockIntervention .seconds :=
  if row.cardSeenAt.isNone then { row with cardSeenAt := some stored } else row

def markInterventionCardSeen (instant : Int) : BlockUpdate where
  apply block :=
    { block with
      interventionRow := block.interventionRow.map (seeCard (timestamp instant)) }
  keepsId _ := rfl

/-- `SET outcome = ?, outcome_at = ? WHERE outcome = 'offered'`, on a row. -/
def resolveRow (outcome : WorkBlockInterventionOutcome) (stored : Int)
    (row : WorkBlockIntervention .seconds) : WorkBlockIntervention .seconds :=
  if row.outcome = .offered then
    { row with outcome := outcome, outcomeAt := some stored }
  else
    row

def resolveIntervention (outcome : WorkBlockInterventionOutcome) (instant : Int) : BlockUpdate where
  apply block :=
    { block with
      interventionRow :=
        block.interventionRow.map (resolveRow outcome (timestamp instant)) }
  keepsId _ := rfl

def recordDecision (decision : InterventionDecision .nanoseconds) : BlockUpdate where
  apply block :=
    { block with decisionRows := block.decisionRows ++ [decision.stored] }
  keepsId _ := rfl

/-- `SET intention = NULL WHERE intention IS NOT NULL AND intention_expires_at
<= ?`. -/
def expireIntention (now : Int) : BlockUpdate where
  apply block :=
    if block.record.intention.isSome ∧
        block.record.intentionExpiresAt ≤ timestamp now then
      { block with record := { block.record with intention := none } }
    else
      block
  keepsId block := by split <;> rfl

end BlockUpdate

def parseClassificationStatusValue : String → Option ClassificationStatus
  | "classified" => some .classified
  | "ambiguous" => some .ambiguous
  | "unclassified" => some .unclassified
  | _ => none

def parseClassificationConfidenceValue : String → Option ClassificationConfidence
  | "high" => some .high
  | "medium" => some .medium
  | "low" => some .low
  | "none" => some .none
  | _ => none

def maxReportedDwellSeconds : Int := 30 * 60

namespace RawEventRow

/-- `MIN(MAX(duration_seconds, 0), ?4)`. -/
def clampedSeconds (row : RawEventRow) : Int :=
  min (max row.durationSeconds 0) maxReportedDwellSeconds

/-- One row as `reported_dwells` reads it, leniently. -/
def dwell (row : RawEventRow) : ReportedDwell where
  occurredAt := fromTimestamp row.occurredAt
  durationSeconds := row.clampedSeconds.toNat
  category := row.category
  classificationStatus :=
    (parseClassificationStatusValue row.classificationStatus).getD .unclassified
  classificationConfidence :=
    (parseClassificationConfidenceValue row.classificationConfidence).getD .none

/-- The `WHERE` clause of `reported_dwells`. -/
def overlaps (fromStored untilStored : Int) (row : RawEventRow) : Bool :=
  decide (fromStored - maxReportedDwellSeconds ≤ row.occurredAt) &&
    decide (row.occurredAt < untilStored) &&
    decide (fromStored < row.occurredAt + row.clampedSeconds)

end RawEventRow

/-- The tables.  `blocks` stands in rowid order, and the primary key admits each
identifier once. -/
structure WorkBlockStore where
  blocks : List WorkBlock
  primaryKey : (blocks.map WorkBlock.blockId).Nodup
  demotionRow : Option (DemotionStateRecord .seconds)
  rawEventBuffer : List RawEventRow

namespace WorkBlockStore

def empty : WorkBlockStore where
  blocks := []
  primaryKey := List.nodup_nil
  demotionRow := none
  rawEventBuffer := []

variable (store : WorkBlockStore)

/-- The block `latest` reads: the one with the highest rowid. -/
def latestBlock : Option WorkBlock := store.blocks.getLast?

def latest : Option (WorkBlockRecord .nanoseconds) :=
  store.latestBlock.map fun block => block.record.loaded

def block (blockId : Uuid) : Option WorkBlock :=
  store.blocks.find? fun block => block.blockId == blockId

def updateBlocks (update : BlockUpdate) : WorkBlockStore :=
  { store with
    blocks := store.blocks.map update.apply
    primaryKey := by
      have keepsIds : (store.blocks.map update.apply).map WorkBlock.blockId =
          store.blocks.map WorkBlock.blockId := by
        simp [Function.comp_def, update.keepsId]
      rw [keepsIds]
      exact store.primaryKey }

/-- Applies a statement `… WHERE block_id = ?`. -/
def updateBlock (blockId : Uuid) (update : BlockUpdate) : WorkBlockStore :=
  store.updateBlocks (update.only blockId)

/-- The rows of a block that `create` inserts. -/
def createdBlock (record : WorkBlockRecord .nanoseconds) : WorkBlock where
  record := record.stored
  observationRows := []
  resultRow := none
  interventionRow := none
  decisionRows := []

/-- `INSERT INTO work_block`; the primary key refuses a second row. -/
def create (record : WorkBlockRecord .nanoseconds) :
    Except WorkBlockError WorkBlockStore :=
  if taken : record.blockId ∈ store.blocks.map WorkBlock.blockId then
    .error .persistence
  else
    .ok { store with
      blocks := store.blocks ++ [createdBlock record]
      primaryKey := by
        rw [List.map_append, List.nodup_append_comm]
        exact List.nodup_cons.mpr ⟨taken, store.primaryKey⟩ }

def observations (blockId : Uuid) : List (WorkBlockObservation .nanoseconds) :=
  ((store.block blockId).map WorkBlock.observations).getD []

def latestObservation (blockId : Uuid) : Option (WorkBlockObservation .nanoseconds) :=
  (store.block blockId).bind WorkBlock.latestObservation

def result (blockId : Uuid) : Option WorkBlockResult :=
  (store.block blockId).bind WorkBlock.resultRow

def intervention (blockId : Uuid) : Option (WorkBlockIntervention .nanoseconds) :=
  ((store.block blockId).bind WorkBlock.interventionRow).map WorkBlockIntervention.loaded

/-- Every dwell of the raw buffer that overlaps `[from, until)`, oldest
first. -/
def reportedDwells (fromInstant untilInstant : Int) : List ReportedDwell :=
  if untilInstant ≤ fromInstant then [] else
  let rows := store.rawEventBuffer.filter
    (RawEventRow.overlaps (timestamp fromInstant) (timestamp untilInstant))
  let rows := rows.insertionSort fun first second =>
    first.occurredAt ≤ second.occurredAt
  rows.map RawEventRow.dwell

/-- The whole intervention table, in the order the rows were inserted: a block
has its row inserted while it is the latest. -/
def interventionRows : List (WorkBlockIntervention .seconds) :=
  store.blocks.filterMap WorkBlock.interventionRow

end WorkBlockStore

/-- `ORDER BY offered_at DESC LIMIT ?`, over the rows of the table. -/
def recentInterventions (rows : List (WorkBlockIntervention .seconds))
    (limit : Nat) : List (WorkBlockIntervention .nanoseconds) :=
  ((rows.insertionSort fun first second =>
    second.offeredAt ≤ first.offeredAt).take limit).map WorkBlockIntervention.loaded

/-- Delivered offers since an instant, and those answered `was_focused`.  The
upper bound of the statement is `i64::MAX`, later than any instant. -/
def wrongInterventionCounts (rows : List (WorkBlockIntervention .seconds))
    (since : Int) : WrongInterventionCounts :=
  let rows := rows.filter fun row => decide (timestamp since ≤ row.offeredAt)
  { delivered := rows.countP fun row => row.outcome.isDelivered
    wasFocused := rows.countP fun row => row.outcome == .wasFocused }

end Velvt
