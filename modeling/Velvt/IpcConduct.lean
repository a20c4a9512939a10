import Mathlib.Data.List.Perm.Basic
import Velvt.IpcClient

/-!
# One connection at a time

While `connect` is called only where nothing of an earlier call is left but cancelled receive loops
and cancelled sleeps, one task at a time drives the connection: the call itself, then its receive
loop, then the reconnect loop after a loss, and so on.
-/

namespace Velvt.Ipc

open StepMachine List

/-- The task is a `connect` or one of the two loops, and it does not wait for a frame or in its
sleep as a cancelled one. -/
def ClientTask.isDriver (task : ClientTask) : Bool :=
  match task.stage with
  | .connecting _ | .connectClosing _ | .losing | .reconnectStarting | .reconnecting _ _
  | .reconnectClosing _ _ => true
  | .receiveStarting | .receiving _ | .sleeping _ => !task.isCancelled
  | .stopping _ | .sending | .closingDeferred | .finished => false

def TaskStage.isStopping : TaskStage → Bool
  | .stopping _ => true
  | _ => false

/-- The task is a reconnect loop, other than a cancelled one in its sleep. -/
def ClientTask.isReconnect (task : ClientTask) : Bool :=
  match task.stage with
  | .reconnectStarting | .reconnecting _ _ | .reconnectClosing _ _ => true
  | .sleeping _ => !task.isCancelled
  | _ => false

def TaskStage.isClosing : TaskStage → Bool
  | .connectClosing _ | .reconnectClosing _ _ | .stopping _ => true
  | _ => false

/-- The stages that have taken the transport away, and have the next status still to publish. -/
def TaskStage.owesStatus : TaskStage → Bool
  | .connectClosing _ | .losing | .reconnectStarting | .reconnectClosing _ _ | .stopping _ => true
  | _ => false

def AttemptStage.transport : AttemptStage → Option Nat
  | .opening transport | .awaitingHello transport | .sendingHello transport
  | .awaitingReply transport => some transport
  | .starting | .finished _ => none

def Arrival.isThrown : Arrival → Bool
  | .thrown _ => true
  | .done | .frame _ => false

/-- The attempt does not begin, and what it waits for comes back with an error. -/
def AttemptStage.Fails (stage : AttemptStage) (arrival : Arrival) : Prop :=
  match stage with
  | .starting => False
  | .opening _ | .awaitingHello _ | .sendingHello _ | .awaitingReply _ => arrival.isThrown = true
  | .finished _ => True

/-- No attempt begins or goes on, and a sleep between attempts comes back with its cancellation. -/
def TaskStage.Fails (stage : TaskStage) (arrival : Arrival) : Prop :=
  match stage with
  | .connecting attempt | .reconnecting _ attempt => attempt.stage.Fails arrival
  | .sleeping _ => arrival = .thrown true
  | .connectClosing _ | .receiveStarting | .receiving _ | .losing | .reconnectStarting
  | .reconnectClosing _ _ | .stopping _ | .sending | .closingDeferred | .finished => True

/-- A cancelled receive loop comes back with a frame or with its cancellation, and a cancelled sleep
with its cancellation. -/
def ClientTask.LeavesQuietly (task : ClientTask) (arrival : Arrival) : Prop :=
  match task.stage with
  | .receiving _ =>
    task.isCancelled = true → arrival ≠ .frame .undecodable ∧ arrival ≠ .thrown false
  | .sleeping _ => task.isCancelled = true → arrival = .thrown true
  | .connecting _ | .connectClosing _ | .receiveStarting | .losing | .reconnectStarting
  | .reconnecting _ _ | .reconnectClosing _ _ | .stopping _ | .sending | .closingDeferred
  | .finished => True

instance (stage : AttemptStage) (arrival : Arrival) : Decidable (stage.Fails arrival) := by
  unfold AttemptStage.Fails
  split <;> infer_instance

instance (stage : TaskStage) (arrival : Arrival) : Decidable (stage.Fails arrival) := by
  unfold TaskStage.Fails
  split <;> infer_instance

instance (arrival : Arrival) (task : ClientTask) : Decidable (task.LeavesQuietly arrival) := by
  unfold ClientTask.LeavesQuietly
  split <;> infer_instance

/-- Some task is at such a stage. -/
def IpcClient.Has (client : IpcClient) (isStage : TaskStage → Bool) : Prop :=
  ∃ task ∈ client.tasks, isStage task.stage = true
  deriving Decidable

/-- `connect` is called where nothing is left of an earlier `connect` or `disconnect` but cancelled
receive loops and sleeps of a reconnect loop that it cancels, which then end quietly; and after a
disconnect has begun no attempt goes on. -/
def Calm (client : IpcClient) : IpcEvent → Prop
  | .connect => ∀ task ∈ (client.cancel client.reconnectTask).tasks,
      task.isDriver = false ∧ task.stage.isStopping = false
  | .advance index arrival => ∀ task ∈ client.tasks[index]?,
      if client.stopped then task.stage.Fails arrival else task.LeavesQuietly arrival
  | .disconnect | .send | .timeOut _ _ => True

instance (client : IpcClient) (event : IpcEvent) : Decidable (Calm client event) := by
  unfold Calm
  split <;> infer_instance

namespace IpcClient

/-- What a task relies on at its stage. -/
def Fits (client : IpcClient) (task : ClientTask) : Prop :=
  match task.stage with
  | .connecting attempt =>
    client.stopped = false → client.reconnectTask = none ∧
      ∀ transport ∈ attempt.stage.transport, client.transport = some transport
  | .connectClosing _ => client.stopped = false → client.reconnectTask = none
  | .receiveStarting =>
    task.isCancelled = false → client.stopped = false → client.reconnectTask = none
  | .receiving transport =>
    task.isCancelled = false → (client.transport = none ∨ client.transport = some transport) ∧
      (client.stopped = false → client.reconnectTask = none)
  | .reconnectStarting | .reconnectClosing _ _ =>
    client.stopped = false → task.isCancelled = false
  | .reconnecting _ attempt =>
    client.stopped = false → task.isCancelled = false ∧
      ∀ transport ∈ attempt.stage.transport, client.transport = some transport
  | .stopping _ => client.stopped = true
  | .losing | .sleeping _ | .sending | .closingDeferred | .finished => True

/-- What holds of the fields of the actor. -/
structure Kept (client : IpcClient) : Prop where
  made : ∀ transport ∈ client.transport, transport < client.transportsMade
  closedMade : ∀ transport ∈ client.closed, transport < client.transportsMade
  deferred : ∀ transport ∈ client.deferredCloseTransport,
    transport < client.transportsMade ∧ client.transport ≠ some transport
  /-- A current transport is acknowledged while the status says so. -/
  acknowledged : client.connectionState = .connected → ∀ transport ∈ client.transport,
    transport ∈ client.acknowledged
  /-- A current transport is closed only by a call that is about to let go of it. -/
  isOpen : ∀ transport ∈ client.transport, transport ∈ client.closed →
    client.Has TaskStage.isClosing
  owed : client.connectionState = .connected → client.transport = none →
    client.Has TaskStage.owesStatus
  stopped : client.stopped = true →
    client.connectionState = .disconnected ∨ client.Has TaskStage.isStopping
  disconnected : client.isDisconnected = true →
    client.stopped = true ∧ client.connectionState = .disconnected

/-- One task at most drives the connection. -/
structure Orderly (client : IpcClient) : Prop where
  oneDriver : (client.tasks.filter ClientTask.isDriver).length ≤ 1
  fits : ∀ task ∈ client.tasks, client.Fits task
  kept : client.Kept

variable {client next : IpcClient} {index : Nat} {task : ClientTask}

theorem advanceTask_of_sending (stage : task.stage = .sending) (arrival : Arrival) :
    client.advanceTask index task arrival = client.finishSend index := by
  simp only [advanceTask, stage]

theorem tasks_perm (isTask : client.tasks[index]? = some task) :
    client.tasks.Perm (task :: client.tasks.eraseIdx index) := by
  obtain ⟨inside, rfl⟩ := List.getElem?_eq_some_iff.mp isTask
  exact (getElem_cons_eraseIdx_perm inside).symm

theorem waitAt_tasks_perm (isTask : client.tasks[index]? = some task) (stage : TaskStage) :
    (client.waitAt index stage).tasks.Perm
      ({ task with stage := stage } :: client.tasks.eraseIdx index) := by
  obtain ⟨inside, rfl⟩ := List.getElem?_eq_some_iff.mp isTask
  have same : (client.waitAt index stage).tasks =
      client.tasks.set index { client.tasks[index] with stage := stage } :=
    modify_eq_set_get _ inside
  rw [same]
  exact set_perm_cons_eraseIdx inside _

theorem spawn_tasks_perm (client : IpcClient) (stage : TaskStage) :
    (client.spawn stage).tasks.Perm ({ stage := stage, isCancelled := false } :: client.tasks) :=
  perm_append_singleton _ _

/-- The task is as it was, or cancelled since. -/
structure Later (task later : ClientTask) : Prop where
  stage : later.stage = task.stage
  cancelled : task.isCancelled = true → later.isCancelled = true

theorem Later.refl (task : ClientTask) : Later task task :=
  ⟨rfl, fun cancelled => cancelled⟩

theorem Later.idle {later : ClientTask} (isLater : Later task later)
    (idle : task.isDriver = false) : later.isDriver = false := by
  obtain ⟨stage, cancelled⟩ := isLater
  cases before : task.stage with
  | receiveStarting | receiving _ | sleeping _ =>
    simp only [ClientTask.isDriver, stage, before, Bool.not_eq_eq_eq_not, Bool.not_false]
      at idle ⊢
    exact cancelled idle
  | stopping _ | sending | closingDeferred | finished =>
    simp only [ClientTask.isDriver, stage, before]
  | _ => simp only [ClientTask.isDriver, before, Bool.true_eq_false] at idle

/-- The next tasks are new ones, the others as they were or cancelled, and some that have ended. -/
def Carries (client next : IpcClient) (index : Nat) (news : List ClientTask) : Prop :=
  ∃ rest, next.tasks.Perm (news ++ rest) ∧
    (∀ later ∈ rest, later.stage = .finished ∨
      ∃ other ∈ client.tasks.eraseIdx index, Later other later) ∧
    ∀ other ∈ client.tasks.eraseIdx index, ∃ later ∈ rest, later.stage = other.stage

theorem carries_waitAt (isTask : client.tasks[index]? = some task) {stage : TaskStage}
    (tasks : next.tasks = (client.waitAt index stage).tasks) :
    client.Carries next index [{ task with stage := stage }] :=
  ⟨_, tasks ▸ waitAt_tasks_perm isTask stage,
    fun later isLater => .inr ⟨later, isLater, .refl later⟩,
    fun other isOther => ⟨other, isOther, rfl⟩⟩

theorem forall₂_modify {α : Type*} {relation : α → α → Prop} (change : α → α)
    (same : ∀ entry, relation entry entry) (changed : ∀ entry, relation entry (change entry))
    (entries : List α) (place : Nat) :
    List.Forall₂ relation entries (entries.modify place change) := by
  induction entries generalizing place with
  | nil =>
    rw [modify_nil]
    exact .nil
  | cons entry rest ih =>
    cases place with
    | zero => exact .cons (changed entry) (forall₂_same.mpr fun other _ => same other)
    | succ place => exact .cons (same entry) (ih place)

theorem exists_left_of_forall₂ {α : Type*} {relation : α → α → Prop} {first second : List α}
    (related : List.Forall₂ relation first second) {entry : α} (member : entry ∈ second) :
    ∃ before ∈ first, relation before entry := by
  induction related with
  | nil => cases member
  | cons head _ ih =>
    rcases mem_cons.mp member with rfl | inRest
    · exact ⟨_, mem_cons_self, head⟩
    · obtain ⟨before, isBefore, holds⟩ := ih inRest
      exact ⟨before, mem_cons_of_mem _ isBefore, holds⟩

theorem exists_right_of_forall₂ {α : Type*} {relation : α → α → Prop} {first second : List α}
    (related : List.Forall₂ relation first second) {entry : α} (member : entry ∈ first) :
    ∃ after ∈ second, relation entry after := by
  have flipped : List.Forall₂ (flip relation) second first := related.flip
  exact exists_left_of_forall₂ flipped member

theorem cancel_later (client : IpcClient) (handle : Option Nat) :
    List.Forall₂ Later client.tasks (client.cancel handle).tasks := by
  cases handle with
  | none => exact forall₂_same.mpr fun task _ => .refl task
  | some place =>
    exact forall₂_modify (fun task => { task with isCancelled := true }) Later.refl
      (fun task => ⟨rfl, fun _ => rfl⟩) _ _

theorem carries_spawn (isTask : client.tasks[index]? = some task) {stage : TaskStage}
    {handle : Option Nat} (tasks : next.tasks =
      (((client.waitAt index .finished).cancel handle).spawn stage).tasks) :
    client.Carries next index [{ stage := stage, isCancelled := false }] := by
  have related := cancel_later (client.waitAt index .finished) handle
  have perm := waitAt_tasks_perm isTask .finished
  refine ⟨((client.waitAt index .finished).cancel handle).tasks, ?_, ?_, ?_⟩
  · rw [tasks]
    exact spawn_tasks_perm _ stage
  · intro later isLater
    obtain ⟨before, isBefore, follows⟩ := exists_left_of_forall₂ related isLater
    rcases mem_cons.mp (perm.mem_iff.mp isBefore) with rfl | isOther
    · exact .inl follows.stage
    · exact .inr ⟨before, isOther, follows⟩
  · intro other isOther
    obtain ⟨later, isLater, follows⟩ := exists_right_of_forall₂ related
      (perm.mem_iff.mpr (mem_cons_of_mem _ isOther))
    exact ⟨later, isLater, follows.stage⟩

section Carrying

variable {news : List ClientTask} {isStage : TaskStage → Bool}

theorem Carries.has_of_new (carries : client.Carries next index news) {new : ClientTask}
    (isNew : new ∈ news) (atStage : isStage new.stage = true) : next.Has isStage := by
  obtain ⟨rest, perm, -, -⟩ := carries
  exact ⟨new, perm.mem_iff.mpr (mem_append_left _ isNew), atStage⟩

theorem Carries.has_of_other (carries : client.Carries next index news)
    (isTask : client.tasks[index]? = some task) (has : client.Has isStage)
    (notTask : isStage task.stage = false) : next.Has isStage := by
  obtain ⟨rest, perm, -, keeps⟩ := carries
  obtain ⟨other, member, atStage⟩ := has
  rcases mem_cons.mp ((tasks_perm isTask).mem_iff.mp member) with rfl | isOther
  · rw [notTask] at atStage
    cases atStage
  · obtain ⟨later, isLater, sameStage⟩ := keeps other isOther
    exact ⟨later, perm.mem_iff.mpr (mem_append_right _ isLater), sameStage ▸ atStage⟩

end Carrying

theorem fits_of_idle (idle : task.isDriver = false)
    (stopping : task.stage.isStopping = true → client.stopped = true) : client.Fits task := by
  cases stage : task.stage with
  | stopping overtaken =>
    rw [stage] at stopping
    simpa only [Fits, stage] using stopping rfl
  | sleeping _ | sending | closingDeferred | finished => simp only [Fits, stage]
  | receiveStarting | receiving transport =>
    simp only [ClientTask.isDriver, stage, Bool.not_eq_eq_eq_not, Bool.not_false] at idle
    simp only [Fits, stage, idle, Bool.true_eq_false, false_implies]
  | _ => simp only [ClientTask.isDriver, stage, Bool.true_eq_false] at idle

theorem Fits.stopping (fits : client.Fits task) (isStopping : task.stage.isStopping = true) :
    client.stopped = true := by
  cases stage : task.stage with
  | stopping overtaken => simpa only [Fits, stage] using fits
  | _ => simp only [stage, TaskStage.isStopping, Bool.false_eq_true] at isStopping

theorem Orderly.others_idle (orderly : client.Orderly)
    (isTask : client.tasks[index]? = some task) (isDriver : task.isDriver = true) :
    ∀ other ∈ client.tasks.eraseIdx index, other.isDriver = false := by
  intro other isOther
  by_contra drives
  rw [Bool.not_eq_false] at drives
  have one := orderly.oneDriver
  rw [((tasks_perm isTask).filter _).length_eq,
    filter_cons_of_pos (p := ClientTask.isDriver) isDriver,
    length_cons] at one
  have inFilter : other ∈ (client.tasks.eraseIdx index).filter ClientTask.isDriver :=
    mem_filter.mpr ⟨isOther, drives⟩
  have counted := length_pos_of_mem inFilter
  omega

variable {news : List ClientTask}

theorem Orderly.driven (orderly : client.Orderly)
    (isTask : client.tasks[index]? = some task) (isDriver : task.isDriver = true)
    (carries : client.Carries next index news)
    (oneNew : (news.filter ClientTask.isDriver).length ≤ 1)
    (stopped : next.stopped = client.stopped) (fits : ∀ new ∈ news, next.Fits new)
    (kept : next.Kept) : next.Orderly := by
  obtain ⟨rest, perm, comes, -⟩ := carries
  have idle : ∀ other ∈ rest, other.isDriver = false ∧
      (other.stage.isStopping = true → next.stopped = true) := by
    intro other isOther
    rcases comes other isOther with ended | ⟨before, isBefore, later⟩
    · simp only [ClientTask.isDriver, ended]
      exact ⟨trivial, fun stopping => by cases stopping⟩
    · rw [later.stage, stopped]
      exact ⟨later.idle (orderly.others_idle isTask isDriver before isBefore),
        (orderly.fits before (mem_of_mem_eraseIdx isBefore)).stopping⟩
  refine ⟨?_, ?_, kept⟩
  · have none : rest.filter ClientTask.isDriver = [] := by
      rw [filter_eq_nil_iff]
      intro other isOther
      rw [(idle other isOther).1]
      exact Bool.false_ne_true
    rw [(perm.filter _).length_eq, filter_append, none, append_nil]
    exact oneNew
  · intro other member
    rcases mem_append.mp (perm.mem_iff.mp member) with isNew | isOther
    · exact fits other isNew
    · exact fits_of_idle (idle other isOther).1 (idle other isOther).2

/-- The state of the connection is the same. -/
structure SameConnection (client next : IpcClient) : Prop where
  connectionState : next.connectionState = client.connectionState
  transport : next.transport = client.transport
  deferred : next.deferredCloseTransport = client.deferredCloseTransport
  stopped : next.stopped = client.stopped
  made : next.transportsMade = client.transportsMade
  acknowledged : next.acknowledged = client.acknowledged
  closed : next.closed = client.closed
  disconnected : next.isDisconnected = client.isDisconnected

theorem Kept.of_same (kept : client.Kept) (same : client.SameConnection next)
    (closing : client.transport ≠ none → client.Has TaskStage.isClosing →
      next.Has TaskStage.isClosing)
    (owes : client.connectionState = .connected → client.transport = none →
      client.Has TaskStage.owesStatus → next.Has TaskStage.owesStatus)
    (stopping : client.Has TaskStage.isStopping → next.Has TaskStage.isStopping) :
    next.Kept := by
  obtain ⟨status, transport, deferred, stopped, made, acknowledged, closed, disconnected⟩ := same
  refine ⟨?_, ?_, ?_, ?_, ?_, ?_, ?_, ?_⟩
  · rw [transport, made]
    exact kept.made
  · rw [closed, made]
    exact kept.closedMade
  · rw [deferred, made, transport]
    exact kept.deferred
  · rw [status, transport, acknowledged]
    exact kept.acknowledged
  · rw [transport, closed]
    intro current isCurrent isClosed
    refine closing ?_ (kept.isOpen current isCurrent isClosed)
    rw [isCurrent]
    exact Option.some_ne_none current
  · rw [status, transport]
    exact fun connected none => owes connected none (kept.owed connected none)
  · rw [status, stopped]
    exact fun isStopped => (kept.stopped isStopped).imp_right stopping
  · rw [disconnected, stopped, status]
    exact kept.disconnected

theorem not_stopping_of_driver (isDriver : task.isDriver = true) :
    task.stage.isStopping = false := by
  cases stage : task.stage <;> simp_all [ClientTask.isDriver, TaskStage.isStopping]

theorem Orderly.goesOn (orderly : client.Orderly)
    (isTask : client.tasks[index]? = some task) (isDriver : task.isDriver = true)
    (carries : client.Carries next index news)
    (oneNew : (news.filter ClientTask.isDriver).length ≤ 1) (same : client.SameConnection next)
    (fits : ∀ new ∈ news, next.Fits new)
    (closing : client.transport ≠ none → task.stage.isClosing = true → next.Has TaskStage.isClosing)
    (owes : client.connectionState = .connected → client.transport = none →
      task.stage.owesStatus = true → next.Has TaskStage.owesStatus) :
    next.Orderly := by
  have others : ∀ isStage : TaskStage → Bool,
      (isStage task.stage = true → next.Has isStage) → client.Has isStage → next.Has isStage := by
    intro isStage handsOn has
    by_cases atStage : isStage task.stage = true
    · exact handsOn atStage
    · exact carries.has_of_other isTask has (by simpa using atStage)
  refine orderly.driven isTask isDriver carries oneNew same.stopped fits
    (orderly.kept.of_same same (fun some => others _ (closing some))
      (fun connected none => others _ (owes connected none)) (others _ ?_))
  intro stopping
  rw [not_stopping_of_driver isDriver] at stopping
  cases stopping

theorem Orderly.owesStatus_of_stopped (orderly : client.Orderly)
    (isTask : client.tasks[index]? = some task) (isDriver : task.isDriver = true)
    (carries : client.Carries next index news) (stopped : client.stopped = true)
    (connected : client.connectionState = .connected) : next.Has TaskStage.owesStatus := by
  rcases orderly.kept.stopped stopped with disconnected | stopping
  · cases connected.symm.trans disconnected
  · obtain ⟨later, isLater, isStopping⟩ :=
      carries.has_of_other isTask stopping (not_stopping_of_driver isDriver)
    refine ⟨later, isLater, ?_⟩
    cases stage : later.stage <;>
      simp_all [TaskStage.isStopping, TaskStage.owesStatus]

section Attempts

/-- The task has the attempt, and relies on its transport while nothing has stopped it. -/
structure Owns (client : IpcClient) (index : Nat) (task : ClientTask) (attempt : Attempt)
    (waiting : Attempt → TaskStage) : Prop where
  isTask : client.tasks[index]? = some task
  stage : task.stage = waiting attempt
  isDriver : task.isDriver = true
  quiet : ∀ attempt, (waiting attempt).isClosing = false ∧ (waiting attempt).owesStatus = false
  held : client.stopped = false → ∀ transport ∈ attempt.stage.transport,
    client.transport = some transport
  fits : ∀ next : IpcClient, next.stopped = client.stopped →
    next.reconnectTask = client.reconnectTask → ∀ attempt : Attempt,
    (client.stopped = false → ∀ transport ∈ attempt.stage.transport,
      next.transport = some transport) →
    next.Fits { task with stage := waiting attempt }

theorem Orderly.owns_connecting (orderly : client.Orderly)
    (isTask : client.tasks[index]? = some task) {attempt : Attempt}
    (stage : task.stage = .connecting attempt) :
    client.Owns index task attempt .connecting := by
  have fits := orderly.fits task (mem_of_getElem? isTask)
  simp only [Fits, stage] at fits
  refine ⟨isTask, stage, ?_, fun _ => ⟨rfl, rfl⟩, fun running => (fits running).2, ?_⟩
  · simp only [ClientTask.isDriver, stage]
  intro next stopped reconnectTask attempt held
  simp only [Fits, stopped, reconnectTask]
  exact fun running => ⟨(fits running).1, held running⟩

theorem Orderly.owns_reconnecting (orderly : client.Orderly)
    (isTask : client.tasks[index]? = some task) {number : Nat} {attempt : Attempt}
    (stage : task.stage = .reconnecting number attempt) :
    client.Owns index task attempt (.reconnecting number) := by
  have fits := orderly.fits task (mem_of_getElem? isTask)
  simp only [Fits, stage] at fits
  refine ⟨isTask, stage, ?_, fun _ => ⟨rfl, rfl⟩, fun running => (fits running).2, ?_⟩
  · simp only [ClientTask.isDriver, stage]
  intro next stopped reconnectTask attempt held
  simp only [Fits, stopped]
  exact fun running => ⟨(fits running).1, held running⟩

variable {attempt : Attempt} {waiting : Attempt → TaskStage}

theorem Orderly.attemptGoesOn (orderly : client.Orderly)
    (owns : client.Owns index task attempt waiting) (later : Attempt)
    (held : client.stopped = false → ∀ transport ∈ later.stage.transport,
      client.transport = some transport) :
    (client.waitAt index (waiting later)).Orderly := by
  refine orderly.goesOn owns.isTask owns.isDriver (carries_waitAt owns.isTask rfl)
    (length_filter_le _ _) ⟨rfl, rfl, rfl, rfl, rfl, rfl, rfl, rfl⟩ ?_ ?_ ?_
  · intro new isNew
    rw [mem_singleton.mp isNew]
    exact owns.fits _ rfl rfl later held
  · rw [owns.stage, (owns.quiet attempt).1]
    intro _ closing
    cases closing
  · rw [owns.stage, (owns.quiet attempt).2]
    intro _ _ owes
    cases owes

theorem Orderly.attemptBegins (orderly : client.Orderly)
    (owns : client.Owns index task attempt waiting) (running : client.stopped = false)
    {later : Attempt} (opens : later.stage = .opening client.transportsMade) :
    ({ client.publish .connecting with
      transport := some client.transportsMade
      transportsMade := client.transportsMade + 1 }.waitAt index (waiting later)).Orderly := by
  have kept := orderly.kept
  refine orderly.driven owns.isTask owns.isDriver (carries_waitAt owns.isTask rfl)
    (length_filter_le _ _) rfl ?_ ⟨?_, ?_, ?_, ?_, ?_, ?_, ?_, ?_⟩
  · intro new isNew
    rw [mem_singleton.mp isNew]
    refine owns.fits _ ?_ ?_ later ?_
    · rfl
    · rfl
    · rw [opens]
      exact fun _ transport isOpening => isOpening
  · intro transport isCurrent
    obtain rfl := Option.some.inj isCurrent
    exact Nat.lt_succ_self _
  · exact fun transport isClosed => Nat.lt_succ_of_lt (kept.closedMade transport isClosed)
  · intro transport isDeferred
    have made := (kept.deferred transport isDeferred).1
    refine ⟨Nat.lt_succ_of_lt made, ?_⟩
    intro isCurrent
    obtain rfl := Option.some.inj isCurrent
    exact absurd made (Nat.lt_irrefl _)
  · intro connected
    cases connected
  · intro transport isCurrent isClosed
    obtain rfl := Option.some.inj isCurrent
    exact absurd (kept.closedMade _ isClosed) (Nat.lt_irrefl _)
  · intro connected
    cases connected
  · intro isStopped
    exact absurd (running.symm.trans isStopped) Bool.false_ne_true
  · intro disconnected
    exact absurd (running.symm.trans (kept.disconnected disconnected).1) Bool.false_ne_true

theorem Orderly.publishes (orderly : client.Orderly) (running : client.stopped = false)
    (status : ConnectionStatus) (acknowledged : List Nat)
    (connected : status = .connected → ∃ transport ∈ acknowledged,
      client.transport = some transport) :
    { client.publish status with acknowledged := acknowledged }.Orderly := by
  have kept := orderly.kept
  refine ⟨orderly.oneDriver, orderly.fits, ⟨kept.made, kept.closedMade, kept.deferred, ?_,
    kept.isOpen, ?_, ?_, ?_⟩⟩
  · intro isConnected transport isCurrent
    obtain ⟨acked, isAcked, current⟩ := connected isConnected
    obtain rfl := Option.some.inj (current.symm.trans isCurrent)
    exact isAcked
  · intro isConnected none
    obtain ⟨acked, -, current⟩ := connected isConnected
    cases current.symm.trans none
  · intro isStopped
    exact absurd (running.symm.trans isStopped) Bool.false_ne_true
  · intro disconnected
    exact absurd (running.symm.trans (kept.disconnected disconnected).1) Bool.false_ne_true

theorem Owns.published (owns : client.Owns index task attempt waiting) (status : ConnectionStatus)
    (acknowledged : List Nat) :
    { client.publish status with acknowledged := acknowledged }.Owns index task attempt waiting :=
  ⟨owns.isTask, owns.stage, owns.isDriver, owns.quiet, owns.held, owns.fits⟩

theorem Orderly.advanceAttempt (orderly : client.Orderly)
    (owns : client.Owns index task attempt waiting) {arrival : Arrival}
    (calm : client.stopped = true → attempt.stage.Fails arrival) :
    (client.advanceAttempt index attempt waiting arrival).Orderly := by
  have held := owns.held
  have ends : ∀ result, (client.waitAt index
      (waiting { attempt with stage := .finished result })).Orderly := by
    intro result
    refine orderly.attemptGoesOn owns _ ?_
    intro _ transport isTransport
    cases isTransport
  cases stage : attempt.stage with
  | starting =>
    have running : client.stopped = false := by
      by_contra isStopped
      have fails := calm (by simpa using isStopped)
      rw [stage] at fails
      exact fails
    simp only [IpcClient.advanceAttempt, stage]
    exact orderly.attemptBegins owns running rfl
  | opening transport =>
    cases arrival with
    | done =>
      have running : client.stopped = false := by
        by_contra isStopped
        have fails := calm (by simpa using isStopped)
        rw [stage] at fails
        cases fails
      have published := orderly.publishes running .handshaking client.acknowledged
        (fun isConnected => by cases isConnected)
      simp only [IpcClient.advanceAttempt, stage]
      refine published.attemptGoesOn (owns.published .handshaking client.acknowledged) _ ?_
      rw [stage] at held
      exact held
    | frame frame => simpa only [IpcClient.advanceAttempt, stage] using orderly
    | thrown isCancellation =>
      simp only [IpcClient.advanceAttempt, stage]
      exact ends _
  | awaitingHello transport =>
    cases arrival with
    | done => simpa only [IpcClient.advanceAttempt, stage] using orderly
    | frame frame =>
      cases frame with
      | serverHello =>
        simp only [IpcClient.advanceAttempt, stage]
        refine orderly.attemptGoesOn owns _ ?_
        rw [stage] at held
        exact held
      | _ =>
        simp only [IpcClient.advanceAttempt, stage]
        exact ends _
    | thrown isCancellation =>
      simp only [IpcClient.advanceAttempt, stage]
      exact ends _
  | sendingHello transport =>
    cases arrival with
    | done =>
      simp only [IpcClient.advanceAttempt, stage]
      refine orderly.attemptGoesOn owns _ ?_
      rw [stage] at held
      exact held
    | frame frame => simpa only [IpcClient.advanceAttempt, stage] using orderly
    | thrown isCancellation =>
      simp only [IpcClient.advanceAttempt, stage]
      exact ends _
  | awaitingReply transport =>
    cases arrival with
    | done => simpa only [IpcClient.advanceAttempt, stage] using orderly
    | frame frame =>
      cases frame with
      | acknowledged =>
        have running : client.stopped = false := by
          by_contra isStopped
          have fails := calm (by simpa using isStopped)
          rw [stage] at fails
          cases fails
        rw [stage] at held
        have current : client.transport = some transport := held running transport rfl
        have published := orderly.publishes running .connected
          (transport :: client.acknowledged) (fun _ => ⟨transport, mem_cons_self, current⟩)
        simp only [IpcClient.advanceAttempt, stage]
        refine published.attemptGoesOn (owns.published _ _) _ ?_
        intro _ other isTransport
        cases isTransport
      | _ =>
        simp only [IpcClient.advanceAttempt, stage]
        exact ends _
    | thrown isCancellation =>
      simp only [IpcClient.advanceAttempt, stage]
      exact ends _
  | finished result => simpa only [IpcClient.advanceAttempt, stage] using orderly

end Attempts

end IpcClient

end Velvt.Ipc
