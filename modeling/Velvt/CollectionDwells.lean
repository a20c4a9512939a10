import Velvt.StepMachine
import Mathlib.Data.Rat.Floor

/-!
# The dwells of the collection agent

The agent changes its open dwell under a lock, on the main thread or on the accessibility
observer's queue, and hands what it closed and began to its sink afterwards.  Each section that
holds the lock is one step, and each call of the sink another.
-/

namespace Velvt.Collection

open StepMachine

structure RunningApplication where
  processIdentifier : Int
  appName : String
  bundleIdentifier : Option String

structure FocusedActivity where
  windowTitle : Option String
  focusedDocumentURL : Option String

structure DeclaredAppMetadata where
  declaredAppCategory : Option String
  documentTypeIDs : List String

/-- The collection layer's only output type.  Instants are seconds. -/
structure RawEvent where
  appName : String
  bundleIdentifier : Option String
  declaredAppCategory : Option String
  documentTypeIDs : List String
  windowTitle : String
  focusedDocumentURL : Option String
  occurredAt : ℚ
  durationSeconds : Int
  deriving DecidableEq

def RawEvent.withDuration (event : RawEvent) (seconds : Int) : RawEvent :=
  { event with durationSeconds := seconds }

def RawEvent.reanchored (event : RawEvent) (instant : ℚ) : RawEvent :=
  { event with occurredAt := instant, durationSeconds := 0 }

/-- The identity of an activity; what an application declares is not part of it. -/
def RawEvent.SameActivity (previous next : RawEvent) : Prop :=
  previous.appName = next.appName ∧ previous.bundleIdentifier = next.bundleIdentifier ∧
    previous.windowTitle = next.windowTitle ∧
    previous.focusedDocumentURL = next.focusedDocumentURL
  deriving Decidable

def maximumDwellDuration : ℚ := 30 * 60

def dwellSeconds (start finish : ℚ) : Int :=
  ⌊min (max 0 (finish - start)) maximumDwellDuration⌋

/-- A call of the event sink. -/
inductive SinkCall
  | receive (event : RawEvent)
  | activityBegan (event : RawEvent)
  deriving DecidableEq

/-- The dwell that a change of activity closed, and the one it began. -/
structure DwellReport where
  closed : Option RawEvent
  began : Option RawEvent

/-- `deliver`: the dwell that was closed first. -/
def DwellReport.calls (report : DwellReport) : List SinkCall :=
  report.closed.toList.map .receive ++ report.began.toList.map .activityBegan

/-- What happens to the open dwell. -/
inductive DwellStep
  | began (event : RawEvent)
  | reopened (event : RawEvent)
  | closed (event : RawEvent) (closedAt : ℚ)

/-- `AXCollectionAgent`, with the history of its open dwell. -/
structure AXCollectionAgent where
  isRunningLocked : Bool
  activeProcessIdentifier : Option Int
  frontmostApplication : Option RunningApplication
  observesWindow : Bool
  pendingDwellEvent : Option RawEvent
  log : List DwellStep

namespace AXCollectionAgent

def started : AXCollectionAgent where
  isRunningLocked := true
  activeProcessIdentifier := none
  frontmostApplication := none
  observesWindow := false
  pendingDwellEvent := none
  log := []

variable (agent : AXCollectionAgent)

def takePendingDwellLocked (instant : ℚ) (reanchor : Bool) :
    AXCollectionAgent × Option RawEvent :=
  match agent.pendingDwellEvent with
  | none => (agent, none)
  | some pending =>
    let completed := pending.withDuration (dwellSeconds pending.occurredAt instant)
    let reopened := pending.reanchored instant
    if reanchor then
      ({ agent with
          pendingDwellEvent := some reopened
          log := agent.log ++ [.closed completed instant, .reopened reopened] },
        some completed)
    else
      ({ agent with
          pendingDwellEvent := none
          log := agent.log ++ [.closed completed instant] },
        some completed)

def replacePendingDwellLocked (next : RawEvent) : AXCollectionAgent × DwellReport :=
  match agent.pendingDwellEvent with
  | none =>
    ({ agent with pendingDwellEvent := some next, log := agent.log ++ [.began next] },
      { closed := none, began := some next })
  | some previous =>
    if previous.SameActivity next then
      (agent, { closed := none, began := none })
    else
      -- Never before the dwell it closes.
      let next :=
        if next.occurredAt < previous.occurredAt then next.reanchored previous.occurredAt
        else next
      let completed := previous.withDuration (dwellSeconds previous.occurredAt next.occurredAt)
      ({ agent with
          pendingDwellEvent := some next
          log := agent.log ++ [.closed completed next.occurredAt, .began next] },
        { closed := some completed, began := some next })

/-- The event of an application: `activity` is missing where no window can be read. -/
def eventFor (application : RunningApplication) (declared : DeclaredAppMetadata)
    (activity : Option FocusedActivity) (instant : ℚ) : RawEvent where
  appName := application.appName
  bundleIdentifier := application.bundleIdentifier
  declaredAppCategory := declared.declaredAppCategory
  documentTypeIDs := declared.documentTypeIDs
  windowTitle := (activity.bind (·.windowTitle)).getD ""
  focusedDocumentURL := activity.bind (·.focusedDocumentURL)
  occurredAt := instant
  durationSeconds := 0

/-- `observe`: the application that the observer is about to be registered for. -/
def observe (application : RunningApplication) : AXCollectionAgent :=
  { agent with
    activeProcessIdentifier := some application.processIdentifier
    frontmostApplication := some application
    observesWindow := false }

/-- `observe`: the registration failed. -/
def registrationFailed (application : RunningApplication) : AXCollectionAgent :=
  if agent.activeProcessIdentifier = some application.processIdentifier then
    { agent with activeProcessIdentifier := none }
  else
    agent

def emit (application : RunningApplication) (declared : DeclaredAppMetadata)
    (activity : FocusedActivity) (instant : ℚ) : AXCollectionAgent × DwellReport :=
  if agent.isRunningLocked = true ∧
      agent.activeProcessIdentifier = some application.processIdentifier then
    { agent with observesWindow := true }.replacePendingDwellLocked
      (eventFor application declared (some activity) instant)
  else
    (agent, { closed := none, began := none })

def beginApplicationDwell (application : RunningApplication) (declared : DeclaredAppMetadata)
    (instant : ℚ) : AXCollectionAgent × DwellReport :=
  if agent.isRunningLocked = true ∧
      agent.frontmostApplication.map (·.processIdentifier) =
        some application.processIdentifier ∧ agent.observesWindow = false then
    agent.replacePendingDwellLocked (eventFor application declared none instant)
  else
    (agent, { closed := none, began := none })

def accessibilityObserverFailed (processIdentifier : Int) : AXCollectionAgent :=
  if agent.isRunningLocked = true ∧ agent.activeProcessIdentifier = some processIdentifier then
    { agent with activeProcessIdentifier := none, observesWindow := false }
  else
    agent

def flushPendingDwell (instant : ℚ) : AXCollectionAgent × Option RawEvent :=
  match agent.isRunningLocked, agent.pendingDwellEvent with
  | true, some pending =>
    if 0 < dwellSeconds pending.occurredAt instant then
      agent.takePendingDwellLocked instant true
    else
      (agent, none)
  | _, _ => (agent, none)

/-- The section of `stop` and of `stopAfterPermissionRevocation`. -/
def stop (now : ℚ) : AXCollectionAgent × Option RawEvent :=
  if agent.isRunningLocked then
    { agent with
      isRunningLocked := false
      activeProcessIdentifier := none
      frontmostApplication := none
      observesWindow := false }.takePendingDwellLocked now false
  else
    (agent, none)

end AXCollectionAgent

/-- A section that holds the lock, with what its thread has read before. -/
inductive LockSection
  | observe (application : RunningApplication)
  | registrationFailed (application : RunningApplication)
  | emit (application : RunningApplication) (declared : DeclaredAppMetadata)
      (activity : FocusedActivity) (instant : ℚ)
  | beginApplicationDwell (application : RunningApplication) (declared : DeclaredAppMetadata)
      (instant : ℚ)
  | accessibilityObserverFailed (processIdentifier : Int)
  | flushPendingDwell (instant : ℚ)
  | stop (now : ℚ)

/-- The agent after a section, and the calls that its thread then makes. -/
def AXCollectionAgent.locked (agent : AXCollectionAgent) :
    LockSection → AXCollectionAgent × List SinkCall
  | .observe application => (agent.observe application, [])
  | .registrationFailed application => (agent.registrationFailed application, [])
  | .emit application declared activity instant =>
    let (agent, report) := agent.emit application declared activity instant
    (agent, report.calls)
  | .beginApplicationDwell application declared instant =>
    let (agent, report) := agent.beginApplicationDwell application declared instant
    (agent, report.calls)
  | .accessibilityObserverFailed processIdentifier =>
    (agent.accessibilityObserverFailed processIdentifier, [])
  | .flushPendingDwell instant =>
    let (agent, completed) := agent.flushPendingDwell instant
    (agent, completed.toList.map .receive)
  | .stop now =>
    let (agent, completed) := agent.stop now
    (agent, completed.toList.map .receive)

inductive CollectionThread
  | main
  | callbackQueue
  deriving DecidableEq

/-- The agent, the calls that each thread has still to make, and those that the sink has had. -/
structure CollectionWorld where
  agent : AXCollectionAgent
  /-- The calls in the order in which they were decided under the lock. -/
  decided : List SinkCall
  delivering : CollectionThread → List SinkCall
  received : List SinkCall

def CollectionWorld.started : CollectionWorld where
  agent := .started
  decided := []
  delivering := fun _ => []
  received := []

inductive CollectionStep
  | locked (thread : CollectionThread) (lockSection : LockSection)
  | deliver (thread : CollectionThread)

namespace CollectionWorld

variable (world : CollectionWorld)

def lock (thread : CollectionThread) (lockSection : LockSection) : CollectionWorld :=
  if world.delivering thread = [] then
    { world with
      agent := (world.agent.locked lockSection).1
      decided := world.decided ++ (world.agent.locked lockSection).2
      delivering := Function.update world.delivering thread (world.agent.locked lockSection).2 }
  else
    world

def deliver (thread : CollectionThread) : CollectionWorld :=
  match world.delivering thread with
  | [] => world
  | call :: calls =>
    { world with
      delivering := Function.update world.delivering thread calls
      received := world.received ++ [call] }

end CollectionWorld

def collectionMachine : Machine CollectionWorld CollectionStep Unit where
  step world step :=
    match step with
    | .locked thread lockSection => ((), world.lock thread lockSection)
    | .deliver thread => ((), world.deliver thread)

namespace DwellStep

def opens : DwellStep → Option RawEvent
  | .began event | .reopened event => some event
  | .closed _ _ => none

def call : DwellStep → Option SinkCall
  | .began event => some (.activityBegan event)
  | .reopened _ => none
  | .closed event _ => some (.receive event)

def start : DwellStep → ℚ
  | .began event | .reopened event | .closed event _ => event.occurredAt

/-- How one step follows on another.  What closes a dwell carries its start and the whole seconds
of its span, and the next one opens where it was closed. -/
def Abuts : DwellStep → DwellStep → Prop
  | .began opened, .closed event closedAt | .reopened opened, .closed event closedAt =>
    event = { opened with
      durationSeconds := ⌊min (max 0 (closedAt - opened.occurredAt)) (30 * 60)⌋ }
  | .closed event closedAt, .began opened =>
    event.occurredAt ≤ closedAt ∧ opened.occurredAt = closedAt
  | .closed event closedAt, .reopened opened =>
    event.occurredAt ≤ closedAt ∧ opened.occurredAt = closedAt ∧ event.SameActivity opened
  | _, _ => False

end DwellStep

end Velvt.Collection
