import Mathlib.Data.Finset.Card
import Velvt.OfferNotifier

/-!
# One notification for an insight date

A payload starts a task, which waits for the debounce interval, the status of the permission, the
answer to its alert, and the notification centre.  A newer payload cancels the task entered for its
date.  A task looks whether it is cancelled at a few points only, and whoever ends otherwise takes
the entry of its date out, even that of a newer task.
-/

namespace Velvt.DateNotifications

open StepMachine List

open DriftOffers (PermissionStatus)

section Model

variable {UUID InsightDate : Type*}

/-- What of a payload decides over its notification. -/
structure NotificationPayload (UUID InsightDate : Type*) where
  notificationID : UUID
  insightDate : InsightDate
  deriving DecidableEq

/-- `UserDefaultsScheduledNotificationTracker`, with the ids themselves for their strings. -/
structure ScheduledNotificationTracker (UUID : Type*) where
  identifiers : List UUID
  capacity : Nat
  capacity_pos : 0 < capacity

namespace ScheduledNotificationTracker

/-- `init`, on preferences that hold some ids. -/
def start (identifiers : List UUID) (capacity : Int) : ScheduledNotificationTracker UUID where
  identifiers := identifiers
  capacity := (max 1 capacity).toNat
  capacity_pos := by omega

variable [DecidableEq UUID] (tracker : ScheduledNotificationTracker UUID)

def contains (notificationID : UUID) : Bool :=
  tracker.identifiers.contains notificationID

/-- The last `count` elements. -/
def suffix (count : Nat) (values : List UUID) : List UUID :=
  values.drop (values.length - count)

def record (notificationID : UUID) : ScheduledNotificationTracker UUID :=
  let updated := tracker.identifiers.filter fun other => other ≠ notificationID
  { tracker with identifiers := suffix tracker.capacity (updated ++ [notificationID]) }

end ScheduledNotificationTracker

/-- What a task waits for. -/
inductive TaskStage
  | sleeping
  | checking
  | asking
  | scheduling
  | ended
  deriving DecidableEq

structure DeliveryTask (UUID InsightDate : Type*) where
  payload : NotificationPayload UUID InsightDate
  stage : TaskStage
  isCancelled : Bool
  deriving DecidableEq

inductive NotificationDeliveryOutcome
  | delivered
  | blockedByPermission (status : PermissionStatus)
  | rejectedByNotificationCentre
  deriving DecidableEq

/-- What a task does before its next wait. -/
inductive Effect (UUID : Type*)
  /-- `scheduler.schedule` is called, by the task of this index. -/
  | schedule (task : Nat)
  | record (notificationID : UUID)
  | report (outcome : NotificationDeliveryOutcome)
  deriving DecidableEq

/-- `NotificationDeliveryCoordinator`, with the tasks it has started, oldest first. -/
structure NotificationDeliveryCoordinator (UUID InsightDate : Type*) where
  tasks : List (DeliveryTask UUID InsightDate)
  pendingTasksByDate : InsightDate → Option Nat
  scheduledNotifications : ScheduledNotificationTracker UUID

/-- What the wait of a task comes back with. -/
inductive Awaited
  /-- The sleep is over, or broken off. -/
  | woken
  | status (status : PermissionStatus)
  | accepted (accepted : Bool)

/-- A payload comes in, or a task goes on. -/
inductive DeliveryEvent (UUID InsightDate : Type*)
  | handle (payload : NotificationPayload UUID InsightDate)
  | resume (task : Nat) (awaited : Awaited)

namespace NotificationDeliveryCoordinator

def initial (tracker : ScheduledNotificationTracker UUID) :
    NotificationDeliveryCoordinator UUID InsightDate where
  tasks := []
  pendingTasksByDate := fun _ => none
  scheduledNotifications := tracker

variable (coordinator : NotificationDeliveryCoordinator UUID InsightDate)

def cancel (index : Nat) : NotificationDeliveryCoordinator UUID InsightDate :=
  { coordinator with
    tasks := coordinator.tasks.modify index fun task => { task with isCancelled := true } }

def waitAt (index : Nat) (stage : TaskStage) :
    NotificationDeliveryCoordinator UUID InsightDate :=
  { coordinator with
    tasks := coordinator.tasks.modify index fun task => { task with stage := stage } }

variable [DecidableEq InsightDate]

def removeValue (date : InsightDate) : NotificationDeliveryCoordinator UUID InsightDate :=
  { coordinator with
    pendingTasksByDate := Function.update coordinator.pendingTasksByDate date none }

/-- `pendingTasksByDate[date]?.cancel()`. -/
def cancelPending (date : InsightDate) : NotificationDeliveryCoordinator UUID InsightDate :=
  match coordinator.pendingTasksByDate date with
  | some index => coordinator.cancel index
  | none => coordinator

def handle (payload : NotificationPayload UUID InsightDate) :
    NotificationDeliveryCoordinator UUID InsightDate :=
  { coordinator with
    tasks := (coordinator.cancelPending payload.insightDate).tasks ++
      [{ payload := payload, stage := .sleeping, isCancelled := false }]
    pendingTasksByDate := Function.update coordinator.pendingTasksByDate payload.insightDate
      (some coordinator.tasks.length) }

def proceed (index : Nat) (task : DeliveryTask UUID InsightDate) (status : PermissionStatus) :
    List (Effect UUID) × NotificationDeliveryCoordinator UUID InsightDate :=
  if status = .granted ∧ task.isCancelled = false then
    ([.schedule index], coordinator.waitAt index .scheduling)
  else
    ([.report (.blockedByPermission status)],
      (coordinator.removeValue task.payload.insightDate).waitAt index .ended)

variable [DecidableEq UUID]

def advance (index : Nat) (task : DeliveryTask UUID InsightDate) :
    Awaited → List (Effect UUID) × NotificationDeliveryCoordinator UUID InsightDate
  | .woken =>
    if task.stage = .sleeping then
      if task.isCancelled then ([], coordinator.waitAt index .ended)
      else if coordinator.scheduledNotifications.contains task.payload.notificationID then
        ([], (coordinator.removeValue task.payload.insightDate).waitAt index .ended)
      else ([], coordinator.waitAt index .checking)
    else ([], coordinator)
  | .status status =>
    if task.stage = .checking then
      if task.isCancelled then ([], coordinator.waitAt index .ended)
      else if status = .unknown then ([], coordinator.waitAt index .asking)
      else coordinator.proceed index task status
    else if task.stage = .asking then coordinator.proceed index task status
    else ([], coordinator)
  | .accepted accepted =>
    if task.stage = .scheduling then
      let ended := (coordinator.removeValue task.payload.insightDate).waitAt index .ended
      if accepted then
        ([.record task.payload.notificationID, .report .delivered],
          { ended with scheduledNotifications :=
              coordinator.scheduledNotifications.record task.payload.notificationID })
      else ([.report .rejectedByNotificationCentre], ended)
    else ([], coordinator)

end NotificationDeliveryCoordinator

variable [DecidableEq InsightDate] [DecidableEq UUID]

def deliveryMachine : Machine (NotificationDeliveryCoordinator UUID InsightDate)
    (DeliveryEvent UUID InsightDate) (List (Effect UUID)) where
  step coordinator
    | .handle payload => ([], coordinator.handle payload)
    | .resume index awaited =>
      match coordinator.tasks[index]? with
      | some task => coordinator.advance index task awaited
      | none => ([], coordinator)

end Model

section Conduct

variable {UUID InsightDate : Type*} [DecidableEq InsightDate] [DecidableEq UUID]

/-- The event calls `scheduler.schedule` for the task. -/
def Schedules (coordinator : NotificationDeliveryCoordinator UUID InsightDate)
    (event : DeliveryEvent UUID InsightDate) (index : Nat) : Prop :=
  Effect.schedule index ∈ deliveryMachine.answer coordinator event
  deriving Decidable

/-- No payload of the date was handled after the task's. -/
def IsNewest (coordinator : NotificationDeliveryCoordinator UUID InsightDate)
    (date : InsightDate) (index : Nat) : Prop :=
  ∀ later task, index < later → coordinator.tasks[later]? = some task →
    task.payload.insightDate ≠ date

/-- What is scheduled for the date is the payload that was handled last. -/
def SchedulesNewest (date : InsightDate)
    (coordinator : NotificationDeliveryCoordinator UUID InsightDate)
    (event : DeliveryEvent UUID InsightDate) : Prop :=
  ∀ index task, Schedules coordinator event index → coordinator.tasks[index]? = some task →
    task.payload.insightDate = date → IsNewest coordinator date index

/-- Where the entry of the date is taken out, the task that is entered goes on. -/
def TakesOutOwn (date : InsightDate)
    (coordinator : NotificationDeliveryCoordinator UUID InsightDate)
    (event : DeliveryEvent UUID InsightDate) : Prop :=
  ∀ entered, coordinator.pendingTasksByDate date = some entered →
    (deliveryMachine.next coordinator event).pendingTasksByDate date = none →
      ∃ awaited, event = .resume entered awaited

instance (date : InsightDate) (coordinator : NotificationDeliveryCoordinator UUID InsightDate)
    (event : DeliveryEvent UUID InsightDate) : Decidable (TakesOutOwn date coordinator event) :=
  decidable_of_iff (∀ entered ∈ coordinator.pendingTasksByDate date,
      (deliveryMachine.next coordinator event).pendingTasksByDate date = none →
        (match event with
          | .handle _ => false
          | .resume index _ => index == entered) = true)
    (by cases event <;> simp [TakesOutOwn])

/-- The id is not among those that are scheduled, except by the tasks that may. -/
def NotAgain (notificationID : UUID) (allowed : Nat → Prop)
    (coordinator : NotificationDeliveryCoordinator UUID InsightDate)
    (event : DeliveryEvent UUID InsightDate) : Prop :=
  ∀ index task, Schedules coordinator event index → coordinator.tasks[index]? = some task →
    task.payload.notificationID = notificationID → allowed index

/-- Past the look into the ledger, and not in the notification centre yet. -/
def TaskStage.hasLooked (stage : TaskStage) : Prop :=
  stage = .checking ∨ stage = .asking

/-- The task of this index has looked into the ledger. -/
def HasLooked (coordinator : NotificationDeliveryCoordinator UUID InsightDate) (index : Nat) :
    Prop :=
  ∃ task, coordinator.tasks[index]? = some task ∧ task.stage.hasLooked

def recordedIDs (coordinator : NotificationDeliveryCoordinator UUID InsightDate)
    (event : DeliveryEvent UUID InsightDate) : List UUID :=
  (deliveryMachine.answer coordinator event).filterMap fun
    | .record notificationID => some notificationID
    | _ => none

end Conduct

section Steps

variable {UUID InsightDate : Type*} [DecidableEq InsightDate] [DecidableEq UUID]
  {coordinator : NotificationDeliveryCoordinator UUID InsightDate}

open NotificationDeliveryCoordinator ScheduledNotificationTracker

def DeliveryTask.isLive (task : DeliveryTask UUID InsightDate) : Prop :=
  task.isCancelled = false ∧ (task.stage = .sleeping ∨ task.stage.hasLooked)

/-- What a task does when it goes on to a stage. -/
structure AdvancesTo (coordinator : NotificationDeliveryCoordinator UUID InsightDate)
    (index : Nat) (task : DeliveryTask UUID InsightDate) (stage : TaskStage)
    (effects : List (Effect UUID))
    (after : NotificationDeliveryCoordinator UUID InsightDate) : Prop where
  tasks : after.tasks = (coordinator.waitAt index stage).tasks
  live : stage = .sleeping ∨ stage.hasLooked → task.stage = .sleeping ∨ task.stage.hasLooked
  looked : stage.hasLooked → task.stage.hasLooked ∨
    coordinator.scheduledNotifications.contains task.payload.notificationID = false
  entries : after.pendingTasksByDate = coordinator.pendingTasksByDate ∨
    ¬ (stage = .sleeping ∨ stage.hasLooked) ∧ after.pendingTasksByDate =
      (coordinator.removeValue task.payload.insightDate).pendingTasksByDate
  schedules : ∀ scheduled, Effect.schedule scheduled ∈ effects →
    scheduled = index ∧ task.isCancelled = false ∧ task.stage.hasLooked
  records : after.scheduledNotifications =
    (effects.filterMap fun
      | .record notificationID => some notificationID
      | _ => none).foldl record coordinator.scheduledNotifications

variable {index : Nat} {task : DeliveryTask UUID InsightDate}
  {later : DeliveryTask UUID InsightDate}

omit [DecidableEq InsightDate] [DecidableEq UUID] in
theorem waitAt_same (place : coordinator.tasks[index]? = some task) :
    (coordinator.waitAt index task.stage).tasks = coordinator.tasks := by
  apply ext_getElem?
  intro other
  rw [waitAt, List.getElem?_modify]
  by_cases same : index = other
  · subst same
    simp [place]
  · simp [same]

theorem stays (place : coordinator.tasks[index]? = some task) :
    AdvancesTo coordinator index task task.stage [] coordinator where
  tasks := (waitAt_same place).symm
  live := id
  looked := Or.inl
  entries := Or.inl rfl
  schedules := by simp
  records := rfl

theorem ends {effects : List (Effect UUID)}
    {after : NotificationDeliveryCoordinator UUID InsightDate}
    (tasks : after.tasks = (coordinator.waitAt index .ended).tasks)
    (entries : after.pendingTasksByDate = coordinator.pendingTasksByDate ∨
      after.pendingTasksByDate =
        (coordinator.removeValue task.payload.insightDate).pendingTasksByDate)
    (silent : ∀ scheduled, Effect.schedule scheduled ∉ effects)
    (records : after.scheduledNotifications = (effects.filterMap fun
        | .record notificationID => some notificationID
        | _ => none).foldl record coordinator.scheduledNotifications) :
    AdvancesTo coordinator index task .ended effects after where
  tasks := tasks
  live := by simp [TaskStage.hasLooked]
  looked := by simp [TaskStage.hasLooked]
  entries := entries.imp_right fun removed => ⟨by simp [TaskStage.hasLooked], removed⟩
  schedules scheduled member := absurd member (silent scheduled)
  records := records

theorem proceed_spec (looked : task.stage.hasLooked) (status : PermissionStatus) :
    ∃ stage, AdvancesTo coordinator index task stage
      (coordinator.proceed index task status).1 (coordinator.proceed index task status).2 := by
  unfold proceed
  split
  case isTrue granted =>
    refine ⟨.scheduling, rfl, ?_, ?_, Or.inl rfl, ?_, rfl⟩
    · simp [TaskStage.hasLooked]
    · simp [TaskStage.hasLooked]
    · intro scheduled member
      simp only [mem_singleton, Effect.schedule.injEq] at member
      exact ⟨member, granted.2, looked⟩
  case isFalse refused =>
    exact ⟨.ended, ends rfl (Or.inr rfl) (by simp) rfl⟩

theorem advance_spec (place : coordinator.tasks[index]? = some task) (awaited : Awaited) :
    ∃ stage, AdvancesTo coordinator index task stage (coordinator.advance index task awaited).1
      (coordinator.advance index task awaited).2 := by
  cases awaited with
  | woken =>
    simp only [advance]
    split_ifs with sleeping cancelled known
    · exact ⟨.ended, ends rfl (Or.inl rfl) (by simp) rfl⟩
    · exact ⟨.ended, ends rfl (Or.inr rfl) (by simp) rfl⟩
    · refine ⟨.checking, rfl, fun _ => Or.inl sleeping, fun _ => Or.inr (by simpa using known),
        Or.inl rfl, by simp, rfl⟩
    · exact ⟨task.stage, stays place⟩
  | status status =>
    simp only [advance]
    split_ifs with checking cancelled unknown asking
    · exact ⟨.ended, ends rfl (Or.inl rfl) (by simp) rfl⟩
    · have looked : task.stage.hasLooked := Or.inl checking
      exact ⟨.asking, rfl, fun _ => Or.inr looked, fun _ => Or.inl looked, Or.inl rfl,
        by simp, rfl⟩
    · exact proceed_spec (Or.inl checking) status
    · exact proceed_spec (Or.inr asking) status
    · exact ⟨task.stage, stays place⟩
  | accepted accepted =>
    simp only [advance]
    split_ifs with scheduling taken
    · exact ⟨.ended, ends rfl (Or.inr rfl) (by simp) rfl⟩
    · exact ⟨.ended, ends rfl (Or.inr rfl) (by simp) rfl⟩
    · exact ⟨task.stage, stays place⟩

theorem resume_next (place : coordinator.tasks[index]? = some task) (awaited : Awaited) :
    ∃ stage, AdvancesTo coordinator index task stage
      (deliveryMachine.answer coordinator (.resume index awaited))
      (deliveryMachine.next coordinator (.resume index awaited)) := by
  obtain ⟨stage, advances⟩ := advance_spec place awaited
  exact ⟨stage, by simpa [Machine.answer, Machine.next, deliveryMachine, place] using advances⟩

theorem resume_missing (missing : coordinator.tasks[index]? = none) (awaited : Awaited) :
    deliveryMachine.step coordinator (.resume index awaited) = ([], coordinator) := by
  simp [deliveryMachine, missing]

theorem AdvancesTo.getElem? {stage : TaskStage} {effects : List (Effect UUID)}
    {after : NotificationDeliveryCoordinator UUID InsightDate}
    (advances : AdvancesTo coordinator index task stage effects after)
    (place : coordinator.tasks[index]? = some task) {other : Nat}
    (found : after.tasks[other]? = some later) :
    other = index ∧ later = { task with stage := stage } ∨
      other ≠ index ∧ coordinator.tasks[other]? = some later := by
  rw [advances.tasks, waitAt, List.getElem?_modify] at found
  by_cases same : index = other
  · subst same
    rw [place] at found
    left
    simpa [eq_comm] using found
  · right
    simpa [same, Ne.symm same] using found

omit [DecidableEq InsightDate] [DecidableEq UUID] in
theorem cancelPending_length (date : InsightDate) :
    (coordinator.cancelPending date).tasks.length = coordinator.tasks.length := by
  unfold cancelPending
  split
  · simp [cancel]
  · rfl

omit [DecidableEq InsightDate] [DecidableEq UUID] in
theorem cancelPending_getElem? {date : InsightDate} {other : Nat}
    (found : (coordinator.cancelPending date).tasks[other]? = some later) :
    ∃ task, coordinator.tasks[other]? = some task ∧ later.payload = task.payload ∧
      later.stage = task.stage ∧
      (later.isCancelled = false → task.isCancelled = false ∧
        coordinator.pendingTasksByDate date ≠ some other) := by
  unfold cancelPending at found
  split at found
  case h_1 entered entry =>
    rw [cancel, List.getElem?_modify] at found
    obtain ⟨task, place, rfl⟩ := Option.map_eq_some_iff.mp found
    refine ⟨task, place, ?_⟩
    by_cases same : entered = other
    · simp [same]
    · simp [same, entry]
  case h_2 entry =>
    exact ⟨later, found, rfl, rfl, fun cancelled => ⟨cancelled, by simp [entry]⟩⟩

omit [DecidableEq UUID] in
theorem handle_getElem? {payload : NotificationPayload UUID InsightDate} {other : Nat}
    (found : (coordinator.handle payload).tasks[other]? = some later) :
    other = coordinator.tasks.length ∧
        later = { payload := payload, stage := .sleeping, isCancelled := false } ∨
      ∃ task, coordinator.tasks[other]? = some task ∧ later.payload = task.payload ∧
        later.stage = task.stage ∧
        (later.isCancelled = false → task.isCancelled = false ∧
          coordinator.pendingTasksByDate payload.insightDate ≠ some other) := by
  rw [handle, List.getElem?_append] at found
  split at found
  · obtain ⟨task, place, same, stage, cancelled⟩ := cancelPending_getElem? found
    exact Or.inr ⟨task, place, same, stage, cancelled⟩
  · next beyond =>
      rw [cancelPending_length] at beyond found
      rw [List.getElem?_singleton] at found
      split at found
      · left
        exact ⟨by omega, by simpa [eq_comm] using found⟩
      · cases found

end Steps

section Newest

variable {UUID InsightDate : Type*} [DecidableEq InsightDate] [DecidableEq UUID]
  {coordinator : NotificationDeliveryCoordinator UUID InsightDate} {date : InsightDate}

open NotificationDeliveryCoordinator

/-- The entry of a date is the newest task of it, and every task of the date that may still come
to the notification centre is entered. -/
structure Entered (coordinator : NotificationDeliveryCoordinator UUID InsightDate)
    (date : InsightDate) : Prop where
  newest : ∀ index, coordinator.pendingTasksByDate date = some index →
    IsNewest coordinator date index
  live : ∀ index task, coordinator.tasks[index]? = some task →
    task.payload.insightDate = date → task.isLive →
    coordinator.pendingTasksByDate date = some index

omit [DecidableEq InsightDate] [DecidableEq UUID] in
theorem entered_initial (tracker : ScheduledNotificationTracker UUID) :
    Entered (initial tracker) date where
  newest := by simp [initial]
  live := by simp [initial]

omit [DecidableEq UUID] in
theorem Entered.handle (holds : Entered coordinator date)
    (payload : NotificationPayload UUID InsightDate) :
    Entered (coordinator.handle payload) date where
  newest index entry later task after place := by
    rcases handle_getElem? place with ⟨rfl, rfl⟩ | ⟨earlier, place, same, _⟩
    · rintro rfl
      simp [NotificationDeliveryCoordinator.handle] at entry
      omega
    · rw [same]
      by_cases other : payload.insightDate = date
      · have entry : coordinator.tasks.length = index := by
          simpa [NotificationDeliveryCoordinator.handle, other] using entry
        have bound := (List.getElem?_eq_some_iff.mp place).1
        omega
      · have entry : coordinator.pendingTasksByDate date = some index := by
          simpa [NotificationDeliveryCoordinator.handle, Function.update_of_ne (Ne.symm other)]
            using entry
        exact holds.newest index entry later earlier after place
  live index task place day live := by
    rcases handle_getElem? place with ⟨rfl, rfl⟩ | ⟨earlier, place, same, stage, cancelled⟩
    · simp [NotificationDeliveryCoordinator.handle, ← day]
    · obtain ⟨uncancelled, unentered⟩ := cancelled live.1
      have entry := holds.live index earlier place (same ▸ day) ⟨uncancelled, stage ▸ live.2⟩
      have other : date ≠ payload.insightDate := by
        rintro rfl
        exact unentered entry
      simpa [NotificationDeliveryCoordinator.handle, Function.update_of_ne other] using entry

theorem AdvancesTo.entered {index : Nat} {task : DeliveryTask UUID InsightDate}
    {stage : TaskStage} {effects : List (Effect UUID)}
    {after : NotificationDeliveryCoordinator UUID InsightDate}
    (advances : AdvancesTo coordinator index task stage effects after)
    (place : coordinator.tasks[index]? = some task) (holds : Entered coordinator date)
    (own : ∀ entered, coordinator.pendingTasksByDate date = some entered →
      after.pendingTasksByDate date = none → entered = index) :
    Entered after date where
  newest entered entry later found beyond place' := by
    have entry : coordinator.pendingTasksByDate date = some entered := by
      rcases advances.entries with same | ⟨_, removed⟩
      · rw [← same, entry]
      · rw [removed] at entry
        by_cases here : date = task.payload.insightDate
        · simp [removeValue, here] at entry
        · simpa [removeValue, Function.update_of_ne here] using entry
    rcases advances.getElem? place place' with ⟨rfl, rfl⟩ | ⟨_, place'⟩
    · exact holds.newest entered entry later task beyond place
    · exact holds.newest entered entry later found beyond place'
  live other found place' day live := by
    have entry : coordinator.pendingTasksByDate date = some other ∧
        (other = index → stage = .sleeping ∨ stage.hasLooked) := by
      rcases advances.getElem? place place' with ⟨rfl, rfl⟩ | ⟨elsewhere, place'⟩
      · exact ⟨holds.live other task place day ⟨live.1, advances.live live.2⟩, fun _ => live.2⟩
      · exact ⟨holds.live other found place' day live, fun same => absurd same elsewhere⟩
    rcases advances.entries with same | ⟨through, removed⟩
    · rw [same, entry.1]
    · by_cases here : date = task.payload.insightDate
      · have taken : after.pendingTasksByDate date = none := by
          simp [removed, removeValue, here]
        exact absurd (entry.2 (own other entry.1 taken)) through
      · simpa [removed, removeValue, Function.update_of_ne here] using entry.1

theorem Entered.next (holds : Entered coordinator date)
    (event : DeliveryEvent UUID InsightDate) (own : TakesOutOwn date coordinator event) :
    Entered (deliveryMachine.next coordinator event) date := by
  cases event with
  | handle payload => exact holds.handle payload
  | resume index awaited =>
    cases place : coordinator.tasks[index]? with
    | none => rwa [Machine.next, resume_missing place]
    | some task =>
      obtain ⟨stage, advances⟩ := resume_next place awaited
      apply advances.entered place holds
      intro entered entry taken
      obtain ⟨_, same⟩ := own entered entry taken
      injection same with same
      exact same.symm

theorem schedules_live {event : DeliveryEvent UUID InsightDate} {index : Nat}
    {task : DeliveryTask UUID InsightDate} (schedules : Schedules coordinator event index)
    (place : coordinator.tasks[index]? = some task) :
    task.isCancelled = false ∧ task.stage.hasLooked := by
  cases event with
  | handle payload => cases schedules
  | resume other awaited =>
    cases there : coordinator.tasks[other]? with
    | none =>
      rw [Schedules, Machine.answer, resume_missing there] at schedules
      cases schedules
    | some task =>
      obtain ⟨stage, advances⟩ := resume_next there awaited
      obtain ⟨rfl, uncancelled, looked⟩ := advances.schedules index schedules
      cases there.symm.trans place
      exact ⟨uncancelled, looked⟩

theorem Entered.schedulesNewest (holds : Entered coordinator date)
    (event : DeliveryEvent UUID InsightDate) : SchedulesNewest date coordinator event := by
  intro index task schedules place day
  obtain ⟨uncancelled, looked⟩ := schedules_live schedules place
  exact holds.newest index (holds.live index task place day ⟨uncancelled, Or.inr looked⟩)

end Newest

section Ledger

variable {UUID : Type*} [DecidableEq UUID] {tracker : ScheduledNotificationTracker UUID}
  {notificationID : UUID}

open ScheduledNotificationTracker

omit [DecidableEq UUID] in
theorem suffix_append {count : Nat} (front : List UUID) {kept : List UUID}
    (fits : kept.length ≤ count) :
    ∃ shorter, suffix count (front ++ kept) = shorter ++ kept := by
  refine ⟨front.drop (front.length + kept.length - count), ?_⟩
  rw [suffix, length_append, drop_append_of_le_length (by omega)]

/-- The ledger holds the id, and will while no more than these ids are recorded. -/
def Keeps (tracker : ScheduledNotificationTracker UUID) (notificationID : UUID)
    (ahead : List UUID) : Prop :=
  ∃ front back, tracker.identifiers = front ++ notificationID :: back ∧ back.Nodup ∧
    notificationID ∉ back ∧
    ((back.toFinset ∪ ahead.toFinset).erase notificationID).card < tracker.capacity

theorem Keeps.contains {ahead : List UUID} (keeps : Keeps tracker notificationID ahead) :
    tracker.contains notificationID = true := by
  obtain ⟨front, back, identifiers, _⟩ := keeps
  simp [ScheduledNotificationTracker.contains, identifiers]

/-- What was counted on is recorded, and the id is still held. -/
theorem Keeps.record {recorded : UUID} {ahead : List UUID}
    (keeps : Keeps tracker notificationID (recorded :: ahead)) :
    Keeps (tracker.record recorded) notificationID ahead := by
  obtain ⟨front, back, identifiers, nodup, apart, few⟩ := keeps
  by_cases same : recorded = notificationID
  · subst same
    obtain ⟨shorter, cut⟩ := suffix_append
      (tracker.identifiers.filter fun other => other ≠ recorded)
      (show [recorded].length ≤ tracker.capacity from Nat.succ_le_of_lt tracker.capacity_pos)
    refine ⟨shorter, [], cut, nodup_nil, not_mem_nil, lt_of_le_of_lt ?_ few⟩
    apply Finset.card_le_card
    apply Finset.erase_subset_erase
    intro other member
    simp at member ⊢
    exact Or.inr (Or.inr member)
  · have updated : (tracker.identifiers.filter fun other => other ≠ recorded) ++ [recorded] =
        (front.filter fun other => other ≠ recorded) ++
          notificationID :: ((back.filter fun other => other ≠ recorded) ++ [recorded]) := by
      simp [identifiers, Ne.symm same]
    let later := (back.filter fun other => other ≠ recorded) ++ [recorded]
    have laterNodup : later.Nodup := by
      simp [later, nodup_append, nodup.filter]
    have laterApart : notificationID ∉ later := by
      simp [later, apart, Ne.symm same]
    have subset : later.toFinset ∪ ahead.toFinset ⊆
        back.toFinset ∪ (recorded :: ahead).toFinset := by
      intro other member
      simp [later] at member ⊢
      tauto
    have card : ((later.toFinset ∪ ahead.toFinset).erase notificationID).card <
        tracker.capacity :=
      lt_of_le_of_lt (Finset.card_le_card (Finset.erase_subset_erase _ subset)) few
    have length : later.length < tracker.capacity := by
      rw [← toFinset_card_of_nodup laterNodup]
      apply lt_of_le_of_lt (Finset.card_le_card _) card
      intro other member
      have apart : other ≠ notificationID := by
        rintro rfl
        exact laterApart (mem_toFinset.mp member)
      exact Finset.mem_erase.mpr ⟨apart, Finset.mem_union_left _ member⟩
    obtain ⟨shorter, cut⟩ := suffix_append (front.filter fun other => other ≠ recorded)
      (show (notificationID :: later).length ≤ tracker.capacity from Nat.succ_le_of_lt length)
    refine ⟨shorter, later, ?_, laterNodup, laterApart, card⟩
    rw [ScheduledNotificationTracker.record, updated]
    exact cut

theorem Keeps.records {recorded ahead : List UUID}
    (keeps : Keeps tracker notificationID (recorded ++ ahead)) :
    Keeps (recorded.foldl ScheduledNotificationTracker.record tracker) notificationID ahead := by
  induction recorded generalizing tracker with
  | nil => exact keeps
  | cons first recorded ih => exact ih keeps.record

theorem foldl_record_capacity (recorded : List UUID) :
    (recorded.foldl ScheduledNotificationTracker.record tracker).capacity =
      tracker.capacity := by
  induction recorded generalizing tracker with
  | nil => rfl
  | cons first recorded ih => exact ih

end Ledger

section Again

variable {UUID InsightDate : Type*} [DecidableEq InsightDate] [DecidableEq UUID]
  {coordinator : NotificationDeliveryCoordinator UUID InsightDate} {notificationID : UUID}

open NotificationDeliveryCoordinator

theorem next_scheduledNotifications (event : DeliveryEvent UUID InsightDate) :
    (deliveryMachine.next coordinator event).scheduledNotifications =
      (recordedIDs coordinator event).foldl ScheduledNotificationTracker.record
        coordinator.scheduledNotifications := by
  cases event with
  | handle payload => rfl
  | resume index awaited =>
    cases place : coordinator.tasks[index]? with
    | none => rw [recordedIDs, Machine.next, Machine.answer, resume_missing place]; rfl
    | some task =>
      obtain ⟨stage, advances⟩ := resume_next place awaited
      exact advances.records

theorem run_capacity (coordinator : NotificationDeliveryCoordinator UUID InsightDate)
    (events : List (DeliveryEvent UUID InsightDate)) :
    (deliveryMachine.run coordinator events).scheduledNotifications.capacity =
      coordinator.scheduledNotifications.capacity := by
  induction events generalizing coordinator with
  | nil => rfl
  | cons event events ih =>
    rw [Machine.run_cons, ih, next_scheduledNotifications, foldl_record_capacity]

/-- The tasks of the id that have looked into the ledger had done so before. -/
def LookedBefore (start current : NotificationDeliveryCoordinator UUID InsightDate)
    (notificationID : UUID) : Prop :=
  ∀ index task, current.tasks[index]? = some task →
    task.payload.notificationID = notificationID → task.stage.hasLooked → HasLooked start index

theorem LookedBefore.next {start : NotificationDeliveryCoordinator UUID InsightDate}
    (before : LookedBefore start coordinator notificationID)
    (known : coordinator.scheduledNotifications.contains notificationID = true)
    (event : DeliveryEvent UUID InsightDate) :
    LookedBefore start (deliveryMachine.next coordinator event) notificationID := by
  intro index later found same looked
  cases event with
  | handle payload =>
    rcases handle_getElem? found with ⟨rfl, rfl⟩ | ⟨task, place, payload, stage, _⟩
    · simp [TaskStage.hasLooked] at looked
    · exact before index task place (payload ▸ same) (stage ▸ looked)
  | resume other awaited =>
    cases place : coordinator.tasks[other]? with
    | none =>
      rw [Machine.next, resume_missing place] at found
      exact before index later found same looked
    | some task =>
      obtain ⟨stage, advances⟩ := resume_next place awaited
      rcases advances.getElem? place found with ⟨rfl, rfl⟩ | ⟨_, found⟩
      · rcases advances.looked looked with looked | unknown
        · exact before index task place same looked
        · rw [same, known] at unknown
          cases unknown
      · exact before index later found same looked

theorem notAgain_run {start : NotificationDeliveryCoordinator UUID InsightDate}
    {events : List (DeliveryEvent UUID InsightDate)}
    (before : LookedBefore start coordinator notificationID)
    (keeps : Keeps coordinator.scheduledNotifications notificationID
      (deliveryMachine.history recordedIDs coordinator events)) :
    deliveryMachine.Meets (NotAgain notificationID (HasLooked start)) coordinator events := by
  induction events generalizing coordinator with
  | nil => trivial
  | cons event events ih =>
    constructor
    · intro index task schedules place same
      exact before index task place same (schedules_live schedules place).2
    · apply ih (before.next keeps.contains event)
      rw [next_scheduledNotifications]
      exact keeps.records

/-- A task schedules nothing that was handled before a newer payload of its date, as long as no
task has taken out the entry of another one; and no task that has yet to look into the ledger
schedules an id that was recorded, until so many other ids were recorded that the ledger has lost
it. -/
theorem one_notification_per_date (tracker : ScheduledNotificationTracker UUID) :
    (∀ (date : InsightDate) (events : List (DeliveryEvent UUID InsightDate)),
      deliveryMachine.Meets (TakesOutOwn date) (initial tracker) events →
        deliveryMachine.Meets (SchedulesNewest date) (initial tracker) events) ∧
    ∀ (earlier later : List (DeliveryEvent UUID InsightDate)) (notificationID : UUID),
      let recorded := deliveryMachine.run (initial tracker) earlier
      recorded.scheduledNotifications.identifiers.getLast? = some notificationID →
      ((deliveryMachine.history recordedIDs recorded later).toFinset.erase notificationID).card <
        tracker.capacity →
      deliveryMachine.Meets (NotAgain notificationID (HasLooked recorded)) recorded later := by
  constructor
  · intro date events own
    exact Machine.Meets.mono _
      (fun coordinator event (holds : Entered coordinator date) own => holds.next event own)
      (fun _ event holds _ => holds.schedulesNewest event) (entered_initial tracker) own
  · intro earlier later notificationID recorded last few
    have capacity : recorded.scheduledNotifications.capacity = tracker.capacity :=
      run_capacity (initial tracker) earlier
    apply notAgain_run
    · intro index task place _ looked
      exact ⟨task, place, looked⟩
    · obtain ⟨front, identifiers⟩ := List.getLast?_eq_some_iff.mp last
      exact ⟨front, [], identifiers, nodup_nil, not_mem_nil,
        by simpa [capacity] using few⟩

end Again

def coordinatorAfterLaunch (identifiers : List Nat) : NotificationDeliveryCoordinator Nat Nat :=
  NotificationDeliveryCoordinator.initial (ScheduledNotificationTracker.start identifiers 256)

/-- Three payloads of one date: the second comes in during the debounce of the first, the third
while the second waits for the permission. -/
def burstEvents : List (DeliveryEvent Nat Nat) :=
  [.handle ⟨1, 0⟩, .handle ⟨2, 0⟩, .resume 0 .woken, .resume 1 .woken, .handle ⟨3, 0⟩,
    .resume 1 (.status .granted), .resume 2 .woken, .resume 2 (.status .granted),
    .resume 2 (.accepted true)]

/-- Only the third is scheduled, and coming in once more it is not scheduled again. -/
theorem third_payload_is_scheduled_once :
    let recorded := deliveryMachine.run (coordinatorAfterLaunch []) burstEvents
    deliveryMachine.Meets (SchedulesNewest 0) (coordinatorAfterLaunch []) burstEvents ∧
      deliveryMachine.Meets (NotAgain 3 (HasLooked recorded)) recorded
        [.handle ⟨3, 0⟩, .resume 3 .woken, .resume 3 (.status .granted)] := by
  obtain ⟨newest, notAgain⟩ := @one_notification_per_date Nat Nat _ _ (.start [] 256)
  exact ⟨newest 0 burstEvents (by decide), notAgain burstEvents _ 3 (by decide) (by decide)⟩

/-- The first task is in the notification centre when the second payload comes in, and takes the
entry of the second out; the third payload finds nothing to cancel, and the second task goes on. -/
def overtakingEvents : List (DeliveryEvent Nat Nat) :=
  [.handle ⟨1, 0⟩, .resume 0 .woken, .resume 0 (.status .granted),
    .handle ⟨2, 0⟩, .resume 1 .woken, .resume 0 (.accepted true), .handle ⟨3, 0⟩]

/-- The ledger holds 256 ids, and a new one pushes the oldest out, which comes in again. -/
def evictingEvents : List (DeliveryEvent Nat Nat) :=
  [.handle ⟨256, 0⟩, .resume 0 .woken, .resume 0 (.status .granted), .resume 0 (.accepted true),
    .handle ⟨0, 0⟩, .resume 1 .woken]

/-- An entry that another task takes out lets an older payload through, and a full ledger an id
that was recorded. -/
theorem older_payload_or_recorded_id_scheduled :
    (¬ ∀ events, deliveryMachine.Meets (SchedulesNewest 0) (coordinatorAfterLaunch []) events) ∧
      (0 ∈ (coordinatorAfterLaunch (List.range 256)).scheduledNotifications.identifiers ∧
        ¬ ∀ events, deliveryMachine.Meets (NotAgain 0 fun _ => False)
          (coordinatorAfterLaunch (List.range 256)) events) := by
  refine ⟨?_, by decide, ?_⟩
  · intro always
    have meets := always (overtakingEvents ++ [.resume 1 (.status .granted)])
    rw [Machine.meets_append] at meets
    have newest := meets.2.1 1 ⟨⟨2, 0⟩, .checking, false⟩ (by decide) (by decide) rfl
    exact newest 2 ⟨⟨3, 0⟩, .sleeping, false⟩ (by decide) (by decide) rfl
  · intro always
    have meets := always (evictingEvents ++ [.resume 1 (.status .granted)])
    rw [Machine.meets_append] at meets
    exact meets.2.1 1 ⟨⟨0, 0⟩, .checking, false⟩ (by decide +kernel) (by decide +kernel) rfl

end Velvt.DateNotifications
