import Velvt.StepMachine
import Velvt.WorkBlockManager

/-!
# Runs of the work-block manager

The operations of the manager as those of a step machine.  Each carries the clock reading it is
called at, and the identifier drawn for a block it creates.  Two more are the rest of the service:
the raw event buffer is replaced, or the Focus/DND source changes.
-/

namespace Velvt

open StepMachine

inductive Operation
  | start (request : StartWorkBlock) (freshId : Uuid) (now : Int)
  | startWithOrigin (request : StartWorkBlock) (origin : WorkBlockOrigin)
      (freshId : Uuid) (now : Int)
  | pause (blockId : Uuid) (now : Int)
  | resume (blockId : Uuid) (now : Int)
  | endBlock (blockId : Uuid) (now : Int)
  | requestState (now : Int)
  | lifecycle (event : WorkBlockLifecycleEvent) (now : Int)
  /-- A reported dwell, with the reading of the clock when the report is
  handled. -/
  | observeSafeCategory (category : String) (status : ClassificationStatus)
      (confidence : ClassificationConfidence) (occurredAt receivedAt : Int)
  | recoverAfterRestart (now : Int)
  | acceptRecovery (blockId : Uuid) (actionId : String) (freshId : Uuid) (now : Int)
  | recordInterventionCardSeen (blockId : Uuid) (now : Int)
  | reportInterventionOutcome (blockId : Uuid) (response : InterventionResponse) (now : Int)
  | evaluateDemotion (now : Int)
  | demotionStatePayload (now : Int)
  | resetDemotion (now : Int)
  | replaceRawEvents (rows : List RawEventRow) (now : Int)
  | attachFocusSource (focus : Option (Int → Bool)) (now : Int)

namespace Operation

def reading : Operation → Int
  | start _ _ now | startWithOrigin _ _ _ now | pause _ now | resume _ now
  | endBlock _ now | requestState now | lifecycle _ now
  | observeSafeCategory _ _ _ _ now | recoverAfterRestart now
  | acceptRecovery _ _ _ now | recordInterventionCardSeen _ now
  | reportInterventionOutcome _ _ now | evaluateDemotion now
  | demotionStatePayload now | resetDemotion now | replaceRawEvents _ now
  | attachFocusSource _ now => now

/-- The instant an operation is about: a report is about the start of its
dwell. -/
def instant : Operation → Int
  | observeSafeCategory _ _ _ occurredAt _ => occurredAt
  | op => op.reading

/-- A report never lies after the reading it is handled at. -/
def Punctual (op : Operation) : Prop := op.instant ≤ op.reading
  deriving Decidable

end Operation

inductive Answer
  | snapshot (snapshot : WorkBlockSnapshot)
  | observed (outcome : Option ObservationOutcome)
  | evaluated (evaluation : DemotionEvaluation)
  | demotion (state : DemotionState)
  | refused (error : WorkBlockError)
  | external

def Answer.reported : Answer → Option WorkBlockSnapshot
  | .snapshot shown => some shown
  | .observed outcome => outcome.map ObservationOutcome.snapshot
  | _ => none

namespace WorkBlockManager

/-- The manager over an empty `work_block` table. -/
def opened (focus : Option (Int → Bool)) (demotionRow : Option (DemotionStateRecord .seconds))
    (rawEventBuffer : List RawEventRow) : WorkBlockManager where
  store :=
    { blocks := []
      primaryKey := List.nodup_nil
      demotionRow := demotionRow
      rawEventBuffer := rawEventBuffer }
  focus := focus
  deadline := none

end WorkBlockManager

def replaceRawEvents (rows : List RawEventRow) : ManagerM Unit :=
  ManagerM.command fun store => { store with rawEventBuffer := rows }

def attachFocusSource (focus : Option (Int → Bool)) : ManagerM Unit :=
  fun manager => (.ok (), { manager with focus := focus })

def Operation.perform : Operation → ManagerM Answer
  | .start request freshId now => .snapshot <$> Velvt.start request freshId now
  | .startWithOrigin request origin freshId now =>
    .snapshot <$> Velvt.startWithOrigin request origin freshId now
  | .pause blockId now => .snapshot <$> Velvt.pause blockId now
  | .resume blockId now => .snapshot <$> Velvt.resume blockId now
  | .endBlock blockId now => .snapshot <$> Velvt.endBlock blockId now
  | .requestState now => .snapshot <$> Velvt.requestState now
  | .lifecycle event now => .snapshot <$> Velvt.lifecycle event now
  | .observeSafeCategory category status confidence occurredAt _ =>
    .observed <$> Velvt.observeSafeCategory category status confidence occurredAt
  | .recoverAfterRestart now => .snapshot <$> Velvt.recoverAfterRestart now
  | .acceptRecovery blockId actionId freshId now =>
    .snapshot <$> Velvt.acceptRecovery blockId actionId freshId now
  | .recordInterventionCardSeen blockId now =>
    .snapshot <$> Velvt.recordInterventionCardSeen blockId now
  | .reportInterventionOutcome blockId response now =>
    .snapshot <$> Velvt.reportInterventionOutcome blockId response now
  | .evaluateDemotion now => .evaluated <$> Velvt.evaluateDemotion now
  | .demotionStatePayload now => .demotion <$> Velvt.demotionStatePayload now
  | .resetDemotion now => .demotion <$> Velvt.resetDemotion now
  | .replaceRawEvents rows _ => (fun _ => .external) <$> Velvt.replaceRawEvents rows
  | .attachFocusSource focus _ => (fun _ => .external) <$> Velvt.attachFocusSource focus

/-- The manager as a step machine; a failed operation is answered with its
error. -/
def managerMachine : Machine WorkBlockManager Operation Answer where
  step manager op :=
    match op.perform manager with
    | (.ok answer, next) => (answer, next)
    | (.error error, next) => (.refused error, next)

end Velvt
