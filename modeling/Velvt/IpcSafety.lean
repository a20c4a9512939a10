import Velvt.IpcDrivers

/-!
# The connection of the local service is safe

Under every calm run the client stays orderly, whatever its tasks and its callers do, and so the
published status says no more than the connection holds.
-/

namespace Velvt.Ipc

open StepMachine List

namespace IpcClient

variable {client next : IpcClient} {index : Nat} {task : ClientTask}

theorem Fits.of_same {other : ClientTask} (fits : client.Fits other)
    (stopped : next.stopped = client.stopped)
    (reconnectTask : next.reconnectTask = client.reconnectTask ∨ next.reconnectTask = none)
    (transport : next.transport = client.transport) : next.Fits other := by
  rcases reconnectTask with same | freed
  · unfold Fits at fits ⊢
    rw [stopped, same, transport]
    exact fits
  · cases stage : other.stage with
    | connecting attempt =>
      simp only [Fits, stage, stopped, transport] at fits ⊢
      exact fun running => ⟨freed, (fits running).2⟩
    | receiving own =>
      simp only [Fits, stage, stopped, transport] at fits ⊢
      exact fun uncancelled => ⟨(fits uncancelled).1, fun _ => freed⟩
    | connectClosing failure | receiveStarting => simp only [Fits, stage, freed, implies_true]
    | losing | sleeping _ | sending | closingDeferred | finished => simp only [Fits, stage]
    | _ => simpa only [Fits, stage, stopped, transport] using fits

theorem fits_of_stopped {before later : ClientTask} (stopped : next.stopped = true)
    (transport : next.transport = none ∨ next.transport = client.transport)
    (isLater : Later before later) (fits : client.Fits before) : next.Fits later := by
  obtain ⟨sameStage, cancelled⟩ := isLater
  cases stage : before.stage with
  | receiving own =>
    simp only [Fits, stage] at fits
    simp only [Fits, sameStage, stage, stopped, Bool.true_eq_false, false_implies, and_true]
    intro uncancelled
    have wasUncancelled : before.isCancelled = false := by
      by_contra isCancelled
      rw [cancelled (Bool.not_eq_false _ ▸ isCancelled)] at uncancelled
      cases uncancelled
    rcases transport with isNone | same
    · exact .inl isNone
    · rw [same]
      exact (fits wasUncancelled).1
  | _ => simp [Fits, sameStage, stage, stopped]

section

variable (orderly : client.Orderly) (isTask : client.tasks[index]? = some task)

include orderly isTask

theorem Orderly.idles (idle : task.isDriver = false) {stage : TaskStage}
    (tasks : next.tasks = (client.waitAt index stage).tasks)
    (idleStage : ∀ isCancelled, (ClientTask.mk stage isCancelled).isDriver = false)
    (notStopping : stage.isStopping = false)
    (fits : ∀ other, client.Fits other → next.Fits other) (kept : next.Kept) : next.Orderly := by
  have perm := waitAt_tasks_perm isTask stage
  rw [← tasks] at perm
  refine ⟨?_, ?_, kept⟩
  · have one := orderly.oneDriver
    rw [((tasks_perm isTask).filter _).length_eq, filter_cons_of_neg] at one
    · rw [(perm.filter _).length_eq, filter_cons_of_neg]
      · exact one
      · rw [idleStage]
        exact Bool.false_ne_true
    · rw [idle]
      exact Bool.false_ne_true
  · intro other member
    rcases mem_cons.mp (perm.mem_iff.mp member) with rfl | isOther
    · refine fits_of_idle (idleStage _) ?_
      rw [notStopping]
      intro stopping
      cases stopping
    · exact fits other (orderly.fits other (mem_of_mem_eraseIdx isOther))

theorem Orderly.idleEnds
    (idle : task.isDriver = false) (notStopping : task.stage.isStopping = false)
    (notClosing : task.stage.isClosing = false) (paid : task.stage.owesStatus = false)
    (tasks : next.tasks = (client.waitAt index .finished).tasks) (same : client.SameConnection next)
    (reconnectTask : next.reconnectTask = client.reconnectTask ∨ next.reconnectTask = none) :
    next.Orderly := by
  have carries := carries_waitAt isTask tasks
  refine orderly.idles isTask idle tasks (fun _ => rfl) rfl
    (fun other fits => fits.of_same same.stopped reconnectTask same.transport) ?_
  exact orderly.kept.of_same same (fun _ has => carries.has_of_other isTask has notClosing)
    (fun _ _ has => carries.has_of_other isTask has paid)
    (fun has => carries.has_of_other isTask has notStopping)

theorem Orderly.stopClosed {overtaken : Bool} (stage : task.stage = .stopping overtaken) :
    ((client.stopClosed overtaken).waitAt index .finished).Orderly := by
  have kept := orderly.kept
  have idle : task.isDriver = false := by simp only [ClientTask.isDriver, stage]
  have stopped := orderly.fits task (mem_of_getElem? isTask)
  simp only [Fits, stage] at stopped
  refine orderly.idles isTask idle rfl (fun _ => rfl) rfl ?_ ⟨?_, kept.closedMade, ?_, ?_, ?_, ?_,
    fun _ => .inl rfl, fun _ => ⟨stopped, rfl⟩⟩
  · exact fun other fits => fits_of_stopped stopped (.inl rfl) (.refl other) fits
  · intro transport isCurrent
    cases isCurrent
  · exact fun transport isDeferred =>
      ⟨(kept.deferred transport isDeferred).1, fun same => by cases same⟩
  · intro connected
    cases connected
  · intro transport isCurrent
    cases isCurrent
  · intro connected
    cases connected

theorem Orderly.closesDeferred (stage : task.stage = .sending)
    {transport : Nat} (deferred : client.deferredCloseTransport = some transport) (count : Nat) :
    { (({ client with inFlightSendCount := count }).close transport).waitAt index
      .closingDeferred with deferredCloseTransport := none }.Orderly := by
  have kept := orderly.kept
  have idle : task.isDriver = false := by simp only [ClientTask.isDriver, stage]
  obtain ⟨made, notCurrent⟩ := kept.deferred transport deferred
  have carries : client.Carries
      { (({ client with inFlightSendCount := count }).close transport).waitAt index
        .closingDeferred with deferredCloseTransport := none } index
      [{ task with stage := .closingDeferred }] := carries_waitAt isTask rfl
  have has : ∀ isStage : TaskStage → Bool, isStage .sending = false → client.Has isStage →
      IpcClient.Has _ isStage :=
    fun isStage notSending has => carries.has_of_other isTask has (by rw [stage]; exact notSending)
  refine orderly.idles isTask idle rfl (fun _ => rfl) rfl
    (fun other fits => fits.of_same rfl (.inl rfl) rfl) ⟨kept.made, ?_, ?_, kept.acknowledged, ?_,
      fun connected isNone => has _ rfl (kept.owed connected isNone),
      fun isStopped => (kept.stopped isStopped).imp_right (has _ rfl), kept.disconnected⟩
  · intro other isClosed
    rcases mem_cons.mp isClosed with rfl | before
    · exact made
    · exact kept.closedMade other before
  · intro other isDeferred
    cases isDeferred
  · intro current isCurrent isClosed
    rcases mem_cons.mp isClosed with rfl | before
    · exact absurd isCurrent notCurrent
    · exact has _ rfl (kept.isOpen current isCurrent before)

theorem Orderly.finishSend (stage : task.stage = .sending) : (client.finishSend index).Orderly := by
  have idle : task.isDriver = false := by simp only [ClientTask.isDriver, stage]
  have ends : (({ client with inFlightSendCount := client.inFlightSendCount - 1 }).waitAt index
      .finished).Orderly := by
    refine orderly.idleEnds isTask idle ?_ ?_ ?_ rfl ⟨rfl, rfl, rfl, rfl, rfl, rfl, rfl, rfl⟩ (.inl rfl)
    all_goals
      rw [stage]
      rfl
  unfold IpcClient.finishSend
  dsimp only
  split
  · next transport _ deferred =>
      exact orderly.closesDeferred isTask stage deferred (client.inFlightSendCount - 1)
  · exact ends

theorem Orderly.advanceConnecting {attempt : Attempt}
    (stage : task.stage = .connecting attempt) {arrival : Arrival}
    (calm : client.stopped = true → attempt.stage.Fails arrival) :
    (client.advanceTask index task arrival).Orderly := by
  have goesOn := orderly.advanceAttempt (orderly.owns_connecting isTask stage) calm
  cases attemptStage : attempt.stage with
  | finished ended =>
    simp only [IpcClient.advanceTask, stage, attemptStage]
    exact orderly.connectEnded isTask stage _
  | _ => simpa only [IpcClient.advanceTask, stage, attemptStage] using goesOn

theorem Orderly.advanceReconnecting {number : Nat} {attempt : Attempt}
    (stage : task.stage = .reconnecting number attempt) {arrival : Arrival}
    (calm : client.stopped = true → attempt.stage.Fails arrival) :
    (client.advanceTask index task arrival).Orderly := by
  have goesOn := orderly.advanceAttempt (orderly.owns_reconnecting isTask stage) calm
  have isDriver : task.isDriver = true := by simp only [ClientTask.isDriver, stage]
  have fits := orderly.fits task (mem_of_getElem? isTask)
  simp only [Fits, stage] at fits
  cases attemptStage : attempt.stage with
  | finished ended =>
    simp only [IpcClient.advanceTask, stage, attemptStage]
    refine orderly.reconnectEnded isTask isDriver number (fun running => (fits running).1) ?_ ?_ _
    all_goals
      rw [stage]
      rfl
  | _ => simpa only [IpcClient.advanceTask, stage, attemptStage] using goesOn

end

theorem advanceCancelled {own : Nat} (stage : task.stage = .receiving own)
    (cancelled : task.isCancelled = true) {arrival : Arrival}
    (quiet : client.stopped = true ∨ task.LeavesQuietly arrival) :
    client.advanceTask index task arrival = client.waitAt index .finished ∨
      client.advanceTask index task arrival = client := by
  have lost : client.stopped = true →
      client.handleConnectionLoss index = client.waitAt index .finished := by
    intro stopped
    simp only [IpcClient.handleConnectionLoss, stopped, Bool.true_eq_false, false_and, if_false]
  cases arrival with
  | done => exact .inr (by simp only [IpcClient.advanceTask, stage])
  | frame frame =>
    left
    cases frame with
    | undecodable =>
      rcases quiet with stopped | quiet
      · simpa only [IpcClient.advanceTask, stage] using lost stopped
      · simp only [ClientTask.LeavesQuietly, stage] at quiet
        exact absurd rfl (quiet cancelled).1
    | _ => simp only [IpcClient.advanceTask, stage, cancelled, IpcClient.receiveLoop]
  | thrown isCancellation =>
    left
    cases isCancellation with
    | true => simp only [IpcClient.advanceTask, stage]
    | false =>
      rcases quiet with stopped | quiet
      · simpa only [IpcClient.advanceTask, stage] using lost stopped
      · simp only [ClientTask.LeavesQuietly, stage] at quiet
        exact absurd rfl (quiet cancelled).2

section

variable (orderly : client.Orderly) (isTask : client.tasks[index]? = some task)

include orderly isTask

/-- The task that reads from the transport. -/
theorem Orderly.advanceReceiving {own : Nat} (stage : task.stage = .receiving own)
    {arrival : Arrival} (quiet : client.stopped = true ∨ task.LeavesQuietly arrival) :
    (client.advanceTask index task arrival).Orderly := by
  have notClosing : task.stage.isClosing = false := by
    rw [stage]
    rfl
  have paid : task.stage.owesStatus = false := by
    rw [stage]
    rfl
  by_cases cancelled : task.isCancelled = true
  · rcases advanceCancelled stage cancelled quiet with ended | same
    · rw [ended]
      refine orderly.idleEnds isTask ?_ ?_ notClosing paid rfl
        ⟨rfl, rfl, rfl, rfl, rfl, rfl, rfl, rfl⟩ (.inl rfl)
      · simp only [ClientTask.isDriver, stage, cancelled, Bool.not_true]
      · rw [stage]
        rfl
    · rw [same]
      exact orderly
  · rw [Bool.not_eq_true] at cancelled
    have isDriver : task.isDriver = true := by
      simp only [ClientTask.isDriver, stage, cancelled, Bool.not_false]
    have fits := orderly.fits task (mem_of_getElem? isTask)
    simp only [Fits, stage] at fits
    have reads := orderly.receiveLoop isTask isDriver (fits cancelled).2 notClosing paid
    have loses : (client.handleConnectionLoss index).Orderly := by
      refine orderly.handleConnectionLoss isTask isDriver (fun _ => notClosing) ?_
      rw [paid]
      intro _ owes
      cases owes
    cases arrival with
    | done => simpa only [IpcClient.advanceTask, stage] using orderly
    | frame frame =>
      cases frame with
      | undecodable => simpa only [IpcClient.advanceTask, stage] using loses
      | _ => simpa only [IpcClient.advanceTask, stage] using reads
    | thrown isCancellation =>
      cases isCancellation with
      | true =>
        simp only [IpcClient.advanceTask, stage]
        exact orderly.ends isTask isDriver client.reconnectTask (fun _ => notClosing)
          (fun _ => paid)
      | false => simpa only [IpcClient.advanceTask, stage] using loses

/-- A task whose wait for the next attempt is over. -/
theorem Orderly.advanceSleeping {number : Nat}
    (stage : task.stage = .sleeping number) {arrival : Arrival}
    (quiet : task.isCancelled = true → arrival = .thrown true) :
    (client.advanceTask index task arrival).Orderly := by
  have notClosing : task.stage.isClosing = false := by
    rw [stage]
    rfl
  have paid : task.stage.owesStatus = false := by
    rw [stage]
    rfl
  by_cases cancelled : task.isCancelled = true
  · obtain rfl := quiet cancelled
    simp only [IpcClient.advanceTask, stage]
    refine orderly.idleEnds isTask ?_ ?_ notClosing paid rfl
      ⟨rfl, rfl, rfl, rfl, rfl, rfl, rfl, rfl⟩ (.inr rfl)
    · simp only [ClientTask.isDriver, stage, cancelled, Bool.not_true]
    · rw [stage]
      rfl
  · rw [Bool.not_eq_true] at cancelled
    have isDriver : task.isDriver = true := by
      simp only [ClientTask.isDriver, stage, cancelled, Bool.not_false]
    have ended : ∀ result, (client.reconnectEnded index number task.isCancelled result).Orderly :=
      orderly.reconnectEnded isTask isDriver number (fun _ => cancelled) notClosing paid
    cases arrival with
    | done =>
      simp only [IpcClient.advanceTask, stage]
      refine orderly.goesOn isTask isDriver (carries_waitAt isTask rfl)
        (length_filter_le _ _) ⟨rfl, rfl, rfl, rfl, rfl, rfl, rfl, rfl⟩
        (forall_mem_singleton.mpr ?_) ?_ ?_
      · intro _
        refine ⟨cancelled, ?_⟩
        intro transport isTransport
        cases isTransport
      · rw [notClosing]
        intro _ closing
        cases closing
      · rw [paid]
        intro _ _ owes
        cases owes
    | frame frame => simpa only [IpcClient.advanceTask, stage] using orderly
    | thrown isCancellation =>
      cases isCancellation with
      | true => simpa only [IpcClient.advanceTask, stage] using ended (.error .cancelled)
      | false => simpa only [IpcClient.advanceTask, stage] using ended (.error .failed)

theorem Orderly.advanceTask {arrival : Arrival}
    (fails : client.stopped = true → task.stage.Fails arrival)
    (leaves : client.stopped = false → task.LeavesQuietly arrival) :
    (client.advanceTask index task arrival).Orderly := by
  have fits := orderly.fits task (mem_of_getElem? isTask)
  cases stage : task.stage with
  | connecting attempt =>
    rw [stage] at fails
    exact orderly.advanceConnecting isTask stage fails
  | connectClosing failure =>
    simp only [Fits, stage] at fits
    simp only [IpcClient.advanceTask, stage]
    refine orderly.connectClosed isTask ?_ failure ?_ fits
    · simp only [ClientTask.isDriver, stage]
    · intro _
      rw [stage]
      rfl
  | receiveStarting =>
    simp only [Fits, stage] at fits
    simp only [IpcClient.advanceTask, stage]
    by_cases cancelled : task.isCancelled = true
    · rw [cancelled]
      refine orderly.idleEnds isTask ?_ ?_ ?_ ?_ rfl
        ⟨rfl, rfl, rfl, rfl, rfl, rfl, rfl, rfl⟩ (.inl rfl)
      · simp only [ClientTask.isDriver, stage, cancelled, Bool.not_true]
      all_goals
        rw [stage]
        rfl
    · rw [Bool.not_eq_true] at cancelled
      refine orderly.receiveLoop isTask ?_ (fits cancelled) ?_ ?_
      · simp only [ClientTask.isDriver, stage, cancelled, Bool.not_false]
      all_goals
        rw [stage]
        rfl
  | receiving own =>
    refine orderly.advanceReceiving isTask stage ?_
    by_cases stopped : client.stopped = true
    · exact .inl stopped
    · exact .inr (leaves (Bool.not_eq_true _ ▸ stopped))
  | losing =>
    simp only [IpcClient.advanceTask, stage]
    refine orderly.startReconnect isTask ?_ ?_
    · simp only [ClientTask.isDriver, stage]
    · intro _
      rw [stage]
      rfl
  | reconnectStarting =>
    simp only [Fits, stage] at fits
    simp only [IpcClient.advanceTask, stage]
    refine orderly.reconnectLoop isTask ?_ 1 fits ?_
    · simp only [ClientTask.isDriver, stage]
    · intro _
      rw [stage]
      rfl
  | sleeping number =>
    refine orderly.advanceSleeping isTask stage ?_
    intro cancelled
    by_cases stopped : client.stopped = true
    · have failed := fails stopped
      rw [stage] at failed
      exact failed
    · have left := leaves (Bool.not_eq_true _ ▸ stopped)
      simp only [ClientTask.LeavesQuietly, stage] at left
      exact left cancelled
  | reconnecting number attempt =>
    rw [stage] at fails
    exact orderly.advanceReconnecting isTask stage fails
  | reconnectClosing number failure =>
    simp only [Fits, stage] at fits
    simp only [IpcClient.advanceTask, stage]
    refine orderly.reconnectClosed isTask ?_ number failure ?_ fits
    · simp only [ClientTask.isDriver, stage]
    · intro _
      rw [stage]
      rfl
  | stopping overtaken =>
    simp only [IpcClient.advanceTask, stage]
    exact orderly.stopClosed isTask stage
  | sending =>
    rw [advanceTask_of_sending stage]
    exact orderly.finishSend isTask stage
  | closingDeferred =>
    simp only [IpcClient.advanceTask, stage]
    refine orderly.idleEnds isTask ?_ ?_ ?_ ?_ rfl ⟨rfl, rfl, rfl, rfl, rfl, rfl, rfl, rfl⟩ (.inl rfl)
    · simp only [ClientTask.isDriver, stage]
    all_goals
      rw [stage]
      rfl
  | finished => simpa only [IpcClient.advanceTask, stage] using orderly

theorem Orderly.timeOut
    (isCancellation : Bool) : (client.timeOut index task isCancellation).Orderly := by
  have timesOut : ∀ attempt waiting, client.Owns index task attempt waiting → ∀ timeout,
      (client.waitAt index (waiting { attempt with timeout := timeout })).Orderly :=
    fun attempt waiting owns timeout => orderly.attemptGoesOn owns _ owns.held
  cases stage : task.stage with
  | connecting attempt =>
    have owns := orderly.owns_connecting isTask stage
    simp only [IpcClient.timeOut, stage]
    split
    · exact timesOut attempt .connecting owns attempt.timeout
    · exact timesOut attempt .connecting owns _
  | reconnecting number attempt =>
    have owns := orderly.owns_reconnecting isTask stage
    simp only [IpcClient.timeOut, stage]
    split
    · exact timesOut attempt (.reconnecting number) owns attempt.timeout
    · exact timesOut attempt (.reconnecting number) owns _
  | _ => simpa only [IpcClient.timeOut, stage] using orderly

end

theorem has_of_spawn {isStage : TaskStage → Bool} {stage : TaskStage}
    (tasks : next.tasks = (client.spawn stage).tasks) (has : client.Has isStage) :
    next.Has isStage := by
  obtain ⟨task, member, atStage⟩ := has
  refine ⟨task, ?_, atStage⟩
  rw [tasks]
  exact mem_append_left _ member

theorem Orderly.send (orderly : client.Orderly) : client.send.Orderly := by
  unfold IpcClient.send
  split
  · refine ⟨?_, ?_, ?_⟩
    · change ((client.spawn .sending).tasks.filter ClientTask.isDriver).length ≤ 1
      rw [((spawn_tasks_perm client .sending).filter _).length_eq, filter_cons_of_neg]
      · exact orderly.oneDriver
      · exact Bool.false_ne_true
    · intro other member
      rcases mem_append.mp member with before | new
      · exact (orderly.fits other before).of_same rfl (.inl rfl) rfl
      · rw [mem_singleton.mp new]
        trivial
    · exact orderly.kept.of_same ⟨rfl, rfl, rfl, rfl, rfl, rfl, rfl, rfl⟩
        (fun _ => has_of_spawn rfl) (fun _ _ => has_of_spawn rfl) (has_of_spawn rfl)
  · exact orderly

/-- A new connection begins where no task drives the client. -/
theorem Orderly.connect (orderly : client.Orderly)
    (quiet : ∀ task ∈ (client.cancel client.reconnectTask).tasks,
      task.isDriver = false ∧ task.stage.isStopping = false) :
    client.connect.Orderly := by
  have kept := orderly.kept
  have related := cancel_later client client.reconnectTask
  have overtakes : (client.cancel client.reconnectTask).tasks.map overtake =
      (client.cancel client.reconnectTask).tasks := by
    have same : ∀ task ∈ (client.cancel client.reconnectTask).tasks, overtake task = id task := by
      intro task member
      have notStopping := (quiet task member).2
      cases stage : task.stage with
      | stopping overtaken =>
        rw [stage] at notStopping
        cases notStopping
      | _ => simp only [overtake, stage, id]
    rw [map_congr_left same, map_id]
  have tasks : client.connect.tasks.Perm
      (⟨.connecting .new, false⟩ :: (client.cancel client.reconnectTask).tasks) := by
    rw [← overtakes]
    exact perm_append_singleton _ _
  have nothing : ∀ isStage : TaskStage → Bool, (∀ task : ClientTask, isStage task.stage = true →
      task.isDriver = true ∨ task.stage.isStopping = true) → ¬ client.Has isStage := by
    rintro isStage busy ⟨task, member, atStage⟩
    obtain ⟨later, isLater, follows⟩ := exists_right_of_forall₂ related member
    obtain ⟨idle, notStopping⟩ := quiet later isLater
    rcases busy later (follows.stage ▸ atStage) with drives | stopping
    · cases drives.symm.trans idle
    · cases stopping.symm.trans notStopping
  have noClosing : ¬ client.Has TaskStage.isClosing := by
    refine nothing _ ?_
    intro task closing
    cases stage : task.stage <;>
      simp_all [TaskStage.isClosing, ClientTask.isDriver, TaskStage.isStopping]
  have noDebt : ¬ client.Has TaskStage.owesStatus := by
    refine nothing _ ?_
    intro task owes
    cases stage : task.stage <;>
      simp_all [TaskStage.owesStatus, ClientTask.isDriver, TaskStage.isStopping]
  refine ⟨?_, ?_, ⟨kept.made, kept.closedMade, kept.deferred, kept.acknowledged, ?_, ?_, ?_, ?_⟩⟩
  · have none : (client.cancel client.reconnectTask).tasks.filter ClientTask.isDriver = [] := by
      rw [filter_eq_nil_iff]
      intro task member
      rw [(quiet task member).1]
      exact Bool.false_ne_true
    rw [(tasks.filter _).length_eq, filter_cons_of_pos rfl, none]
    exact Nat.le_refl 1
  · intro task member
    rcases mem_cons.mp (tasks.mem_iff.mp member) with rfl | before
    · intro _
      refine ⟨rfl, ?_⟩
      intro transport isTransport
      cases isTransport
    · refine fits_of_idle (quiet task before).1 ?_
      rw [(quiet task before).2]
      intro stopping
      cases stopping
  · exact fun transport isCurrent isClosed =>
      absurd (kept.isOpen transport isCurrent isClosed) noClosing
  · exact fun connected isNone => absurd (kept.owed connected isNone) noDebt
  · intro isStopped
    cases isStopped
  · intro disconnected
    cases disconnected

theorem drivers_le {first second : List ClientTask} (related : List.Forall₂ Later first second) :
    (second.filter ClientTask.isDriver).length ≤ (first.filter ClientTask.isDriver).length := by
  induction related with
  | nil => exact Nat.le_refl 0
  | @cons before later _ _ head _ ih =>
    by_cases drives : later.isDriver = true
    · have drove : before.isDriver = true := by
        by_contra idle
        rw [head.idle (Bool.not_eq_true _ ▸ idle)] at drives
        cases drives
      rw [filter_cons_of_pos drives, filter_cons_of_pos drove]
      exact Nat.succ_le_succ ih
    · rw [filter_cons_of_neg drives]
      exact Nat.le_trans ih ((sublist_cons_self before _).filter _).length_le

theorem forall₂_later_trans {first second third : List ClientTask}
    (earlier : List.Forall₂ Later first second) (related : List.Forall₂ Later second third) :
    List.Forall₂ Later first third := by
  induction earlier generalizing third with
  | nil => exact related
  | cons head _ ih =>
    cases related with
    | cons later rest =>
      exact .cons ⟨later.stage.trans head.stage, fun cancelled =>
        later.cancelled (head.cancelled cancelled)⟩ (ih rest)

/-- A client that is stopped has no task that goes on. -/
theorem Orderly.disconnect (orderly : client.Orderly) : client.disconnect.Orderly := by
  have kept := orderly.kept
  have related : List.Forall₂ Later client.tasks
      ((client.cancel client.receiveTask).cancel client.reconnectTask).tasks :=
    forall₂_later_trans (cancel_later client client.receiveTask) (cancel_later _ _)
  have oneDriver := Nat.le_trans (drivers_le related) orderly.oneDriver
  have fits : ∀ next : IpcClient, next.stopped = true → next.transport = client.transport →
      ∀ task ∈ ((client.cancel client.receiveTask).cancel client.reconnectTask).tasks,
        next.Fits task := by
    intro next stopped transport task member
    obtain ⟨before, isBefore, later⟩ := exists_left_of_forall₂ related member
    exact fits_of_stopped stopped (.inr transport) later (orderly.fits before isBefore)
  unfold IpcClient.disconnect
  dsimp only
  split
  · next isNone =>
      refine ⟨oneDriver, fits _ rfl isNone.symm, ⟨?_, kept.closedMade, ?_, ?_, ?_, ?_,
        fun _ => .inl rfl, fun _ => ⟨rfl, rfl⟩⟩⟩
      · intro transport isCurrent
        cases isCurrent
      · exact fun transport isDeferred =>
          ⟨(kept.deferred transport isDeferred).1, fun same => by cases same⟩
      · intro connected
        cases connected
      · intro transport isCurrent
        cases isCurrent
      · intro connected
        cases connected
  · next transport current =>
      have isCurrent : client.transport = some transport := current
      refine ⟨?_, ?_, ⟨kept.made, ?_, kept.deferred, kept.acknowledged, ?_, ?_, ?_, ?_⟩⟩
      · rw [((spawn_tasks_perm _ _).filter _).length_eq, filter_cons_of_neg]
        · exact oneDriver
        · exact Bool.false_ne_true
      · intro task member
        rcases mem_append.mp member with before | new
        · refine fits _ ?_ ?_ task before
          · rfl
          · rfl
        · rw [mem_singleton.mp new]
          exact rfl
      · intro other isClosed
        rcases mem_cons.mp isClosed with rfl | before
        · exact kept.made _ isCurrent
        · exact kept.closedMade other before
      · exact fun _ _ _ => ⟨_, mem_append_right _ (mem_singleton_self _), rfl⟩
      · intro _ isNone
        cases isCurrent.symm.trans isNone
      · exact fun _ => .inr ⟨_, mem_append_right _ (mem_singleton_self _), rfl⟩
      · exact fun disconnected => ⟨rfl, (kept.disconnected disconnected).2⟩

theorem orderly_initial : initial.Orderly := by
  refine ⟨Nat.zero_le 1, ?_, ⟨?_, ?_, ?_, ?_, ?_, ?_, fun _ => .inl rfl, ?_⟩⟩
  · intro task member
    cases member
  · intro transport isCurrent
    cases isCurrent
  · intro transport isClosed
    cases isClosed
  · intro transport isDeferred
    cases isDeferred
  · intro connected
    cases connected
  · intro transport isCurrent
    cases isCurrent
  · intro connected
    cases connected
  · intro disconnected
    cases disconnected

/-- A calm event leaves the client orderly. -/
theorem Orderly.step (orderly : client.Orderly) {event : IpcEvent} (calm : Calm client event) :
    (ipcMachine.next client event).Orderly := by
  cases event with
  | connect => exact orderly.connect calm
  | disconnect => exact orderly.disconnect
  | send => exact orderly.send
  | advance index arrival =>
    cases isTask : client.tasks[index]? with
    | none => simpa only [Machine.next, ipcMachine, isTask] using orderly
    | some task =>
      have keeps := calm task isTask
      simp only [Machine.next, ipcMachine, isTask]
      refine orderly.advanceTask isTask ?_ ?_
      · intro stopped
        rwa [stopped, if_pos rfl] at keeps
      · intro running
        rwa [running, if_neg Bool.false_ne_true] at keeps
  | timeOut index isCancellation =>
    cases isTask : client.tasks[index]? with
    | none => simpa only [Machine.next, ipcMachine, isTask] using orderly
    | some task =>
      simp only [Machine.next, ipcMachine, isTask]
      exact orderly.timeOut isTask isCancellation

theorem orderly_run {events : List IpcEvent} (calm : ipcMachine.Meets Calm initial events) :
    (ipcMachine.run initial events).Orderly := by
  have keeps : ∀ client event, client.Orderly → Calm client event →
      (ipcMachine.next client event).Orderly := fun _ _ orderly calm => orderly.step calm
  exact ipcMachine.invariant_run keeps orderly_initial calm

theorem handleConnectionLoss_isDisconnected (client : IpcClient) (index : Nat) :
    (client.handleConnectionLoss index).isDisconnected = client.isDisconnected := by
  unfold IpcClient.handleConnectionLoss
  split
  · split
    · rfl
    · dsimp only
      split
      · rfl
      · rfl
  · rfl

theorem reconnectLoop_isDisconnected (client : IpcClient) (index number : Nat)
    (isCancelled : Bool) :
    (client.reconnectLoop index number isCancelled).isDisconnected = client.isDisconnected := by
  unfold IpcClient.reconnectLoop
  split
  · rfl
  · rfl

theorem receiveLoop_isDisconnected (client : IpcClient) (index : Nat) (isCancelled : Bool) :
    (client.receiveLoop index isCancelled).isDisconnected = client.isDisconnected := by
  unfold IpcClient.receiveLoop
  split
  · rfl
  · rfl

theorem closeTransport_isDisconnected (client : IpcClient) (index : Nat) (waiting : TaskStage)
    {closedTransport : IpcClient → IpcClient}
    (closed : (closedTransport client).isDisconnected = client.isDisconnected) :
    (client.closeTransport index waiting closedTransport).isDisconnected =
      client.isDisconnected := by
  unfold IpcClient.closeTransport
  split
  · exact closed
  · rfl

theorem connectClosed_isDisconnected (client : IpcClient) (index : Nat) (failure : IpcFailure) :
    (client.connectClosed index failure).isDisconnected = client.isDisconnected := by
  unfold IpcClient.connectClosed
  dsimp only
  split
  · rfl
  · exact handleConnectionLoss_isDisconnected _ index

theorem reconnectClosed_isDisconnected (client : IpcClient) (index number : Nat)
    (failure : IpcFailure) (isCancelled : Bool) :
    (client.reconnectClosed index number failure isCancelled).isDisconnected =
      client.isDisconnected := by
  unfold IpcClient.reconnectClosed
  dsimp only
  split
  · rfl
  · exact reconnectLoop_isDisconnected _ index (number + 1) isCancelled

theorem connectEnded_isDisconnected (client : IpcClient) (index : Nat)
    (result : Except IpcFailure Unit) :
    (client.connectEnded index result).isDisconnected = client.isDisconnected := by
  cases result with
  | ok done => rfl
  | error failure =>
    exact closeTransport_isDisconnected _ _ _ (connectClosed_isDisconnected client index failure)

theorem reconnectEnded_isDisconnected (client : IpcClient) (index number : Nat)
    (isCancelled : Bool) (result : Except IpcFailure Unit) :
    (client.reconnectEnded index number isCancelled result).isDisconnected =
      client.isDisconnected := by
  have closes : ∀ failure, (client.closeTransport index (.reconnectClosing number failure)
      (·.reconnectClosed index number failure isCancelled)).isDisconnected =
        client.isDisconnected := fun failure =>
    closeTransport_isDisconnected _ _ _
      (reconnectClosed_isDisconnected client index number failure isCancelled)
  cases result with
  | ok done => rfl
  | error failure =>
    cases failure with
    | cancelled => rfl
    | versionMismatch => exact closes .versionMismatch
    | failed => exact closes .failed

theorem advanceAttempt_isDisconnected (client : IpcClient) (index : Nat) (attempt : Attempt)
    (waiting : Attempt → TaskStage) (arrival : Arrival) :
    (client.advanceAttempt index attempt waiting arrival).isDisconnected =
      client.isDisconnected := by
  unfold IpcClient.advanceAttempt
  dsimp only
  split <;> rfl

theorem finishSend_isDisconnected (client : IpcClient) (index : Nat) :
    (client.finishSend index).isDisconnected = client.isDisconnected := by
  unfold IpcClient.finishSend
  dsimp only
  split
  · rfl
  · rfl

theorem advanceTask_isDisconnected (task : ClientTask) (arrival : Arrival)
    (disconnected : client.isDisconnected = true) :
    (client.advanceTask index task arrival).isDisconnected = true := by
  unfold IpcClient.advanceTask
  split
  · split
    · rw [connectEnded_isDisconnected, disconnected]
    · rw [advanceAttempt_isDisconnected, disconnected]
  · rw [connectClosed_isDisconnected, disconnected]
  · rw [receiveLoop_isDisconnected, disconnected]
  · rw [handleConnectionLoss_isDisconnected, disconnected]
  · rw [receiveLoop_isDisconnected, disconnected]
  · exact disconnected
  · rw [handleConnectionLoss_isDisconnected, disconnected]
  · exact disconnected
  · rw [reconnectLoop_isDisconnected, disconnected]
  · exact disconnected
  · rw [reconnectEnded_isDisconnected, disconnected]
  · rw [reconnectEnded_isDisconnected, disconnected]
  · split
    · rw [reconnectEnded_isDisconnected, disconnected]
    · rw [advanceAttempt_isDisconnected, disconnected]
  · rw [reconnectClosed_isDisconnected, disconnected]
  · change (client.isDisconnected || _) = true
    rw [disconnected, Bool.true_or]
  · rw [finishSend_isDisconnected, disconnected]
  · exact disconnected
  · exact disconnected

theorem isDisconnected_step {event : IpcEvent} (notConnect : event ≠ .connect)
    (disconnected : client.isDisconnected = true) :
    (ipcMachine.next client event).isDisconnected = true := by
  cases event with
  | connect => exact absurd rfl notConnect
  | disconnect =>
    change client.disconnect.isDisconnected = true
    unfold IpcClient.disconnect
    dsimp only
    split
    · exact Bool.or_true _
    · exact disconnected
  | send =>
    change client.send.isDisconnected = true
    unfold IpcClient.send
    split
    · exact disconnected
    · exact disconnected
  | advance index arrival =>
    cases isTask : client.tasks[index]? with
    | none => simpa only [Machine.next, ipcMachine, isTask] using disconnected
    | some task =>
      simp only [Machine.next, ipcMachine, isTask]
      exact advanceTask_isDisconnected task arrival disconnected
  | timeOut index isCancellation =>
    cases isTask : client.tasks[index]? with
    | none => simpa only [Machine.next, ipcMachine, isTask] using disconnected
    | some task =>
      simp only [Machine.next, ipcMachine, isTask]
      unfold IpcClient.timeOut
      dsimp only
      split
      · exact disconnected
      · exact disconnected
      · exact disconnected

theorem isDisconnected_run {events : List IpcEvent} (noConnect : .connect ∉ events)
    (disconnected : client.isDisconnected = true) :
    (ipcMachine.run client events).isDisconnected = true := by
  have keeps : ∀ client event, client.isDisconnected = true → event ≠ .connect →
      (ipcMachine.next client event).isDisconnected = true :=
    fun _ _ disconnected notConnect => isDisconnected_step notConnect disconnected
  refine ipcMachine.invariant_run keeps disconnected (ipcMachine.meets_of_mem ?_ client)
  intro event member _ isConnect
  exact noConnect (isConnect ▸ member)

theorem Orderly.receive_keeps_newer (orderly : client.Orderly)
    (isTask : client.tasks[index]? = some task) {own : Nat} (stage : task.stage = .receiving own)
    {arrival : Arrival} (calm : Calm client (.advance index arrival)) {transport : Nat}
    (current : client.transport = some transport) (newer : transport ≠ own) :
    (ipcMachine.next client (.advance index arrival)).transport = some transport ∧
      (ipcMachine.next client (.advance index arrival)).closed = client.closed := by
  have fits := orderly.fits task (mem_of_getElem? isTask)
  simp only [Fits, stage] at fits
  have cancelled : task.isCancelled = true := by
    by_contra uncancelled
    rcases (fits (Bool.not_eq_true _ ▸ uncancelled)).1 with isNone | isOwn
    · cases current.symm.trans isNone
    · exact newer (Option.some.inj (current.symm.trans isOwn))
  have quiet : client.stopped = true ∨ task.LeavesQuietly arrival := by
    have keeps := calm task isTask
    by_cases stopped : client.stopped = true
    · exact .inl stopped
    · rw [if_neg stopped] at keeps
      exact .inr keeps
  simp only [Machine.next, ipcMachine, isTask]
  rcases advanceCancelled stage cancelled quiet with ended | same
  · rw [ended]
    exact ⟨current, rfl⟩
  · rw [same]
    exact ⟨current, rfl⟩

theorem Orderly.oneReconnect (orderly : client.Orderly) :
    (client.tasks.filter ClientTask.isReconnect).length ≤ 1 := by
  have drives : ∀ task : ClientTask, task.isReconnect = true → task.isDriver = true := by
    intro task reconnects
    cases stage : task.stage <;> simp_all [ClientTask.isReconnect, ClientTask.isDriver]
  exact Nat.le_trans (monotone_filter_right client.tasks drives).length_le orderly.oneDriver

end IpcClient

open IpcClient

/-- Over every calm run the published status says no more than the connection holds, receive loops
leave newer transports alone, one reconnect loop runs at most, and a disconnect lasts. -/
theorem connection_is_safe {events : List IpcEvent} (calm : ipcMachine.Meets Calm initial events) :
    let client := ipcMachine.run initial events
    (client.connectionState = .connected →
      (∀ transport ∈ client.transport, transport ∈ client.acknowledged ∧
        (transport ∈ client.closed → client.Has TaskStage.isClosing)) ∧
      (client.transport = none → client.Has TaskStage.owesStatus)) ∧
    (∀ index task own arrival, client.tasks[index]? = some task → task.stage = .receiving own →
      Calm client (.advance index arrival) →
        ∀ transport, client.transport = some transport → transport ≠ own →
          (ipcMachine.next client (.advance index arrival)).transport = some transport ∧
          (ipcMachine.next client (.advance index arrival)).closed = client.closed) ∧
    (client.tasks.filter ClientTask.isReconnect).length ≤ 1 ∧
    (client.isDisconnected = true → ∀ later, .connect ∉ later →
      ipcMachine.Meets Calm client later →
        (ipcMachine.run client later).connectionState = .disconnected) := by
  intro client
  have orderly : client.Orderly := orderly_run calm
  refine ⟨?_, ?_, orderly.oneReconnect, ?_⟩
  · intro connected
    refine ⟨?_, orderly.kept.owed connected⟩
    exact fun transport isCurrent => ⟨orderly.kept.acknowledged connected transport isCurrent,
      orderly.kept.isOpen transport isCurrent⟩
  · exact fun index task own arrival isTask stage calm transport current newer =>
      orderly.receive_keeps_newer isTask stage calm current newer
  · intro disconnected later noConnect calmLater
    have reached : ipcMachine.run initial (events ++ later) = ipcMachine.run client later :=
      ipcMachine.run_append initial events later
    have orderlyLater : (ipcMachine.run client later).Orderly := by
      rw [← reached]
      exact orderly_run ((ipcMachine.meets_append Calm initial events later).mpr
        ⟨calm, calmLater⟩)
    exact (orderlyLater.kept.disconnected (isDisconnected_run noConnect disconnected)).2

/-- The events of a `connect` whose handshake is acknowledged, as the task `index`. -/
def acknowledgedConnect (index : Nat) : List IpcEvent :=
  [.connect, .advance index .done, .advance index .done, .advance index (.frame .serverHello),
    .advance index .done, .advance index (.frame .acknowledged), .advance index .done]

/-- The client connects, disconnects and connects again, and the first receive loop still waits. -/
def connectedAgain : List IpcEvent :=
  acknowledgedConnect 0 ++ [.advance 1 .done, .disconnect, .advance 2 .done] ++
    acknowledgedConnect 3 ++ [.advance 4 .done]

/-- After a disconnect and a second connect the first receive loop ends with its cancellation, and
the second transport stays. -/
theorem connection_is_safe_again :
    let events := connectedAgain
    let client := ipcMachine.run initial events
    client.connectionState = .connected ∧
      (∀ transport ∈ client.transport, transport ∈ client.acknowledged ∧
        (transport ∈ client.closed → client.Has TaskStage.isClosing)) ∧
      (ipcMachine.next client (.advance 1 (.thrown true))).transport = some 1 := by
  have calm : ipcMachine.Meets Calm initial connectedAgain := by decide
  have safe := connection_is_safe calm
  refine ⟨by decide, (safe.1 (by decide)).1, ?_⟩
  exact (safe.2.1 1 ⟨.receiving 0, true⟩ 0 (.thrown true) (by decide) rfl (by decide) 1 (by decide)
    (by decide)).1

/-- While a disconnect closes the transport the status is connected still, a cancelled receive loop
that fails closes the next transport, and an attempt that begins after a disconnect has finished
publishes its status. -/
theorem connection_is_not_safe :
    (∃ transport, (ipcMachine.run initial (acknowledgedConnect 0 ++ [.disconnect])).transport =
        some transport ∧
      (ipcMachine.run initial (acknowledgedConnect 0 ++ [.disconnect])).connectionState =
        .connected ∧
      transport ∈ (ipcMachine.run initial (acknowledgedConnect 0 ++ [.disconnect])).closed) ∧
    ((ipcMachine.run initial connectedAgain).transport = some 1 ∧
      1 ∉ (ipcMachine.run initial connectedAgain).closed ∧
      (ipcMachine.run initial connectedAgain).tasks[1]? = some ⟨.receiving 0, true⟩ ∧
      1 ∈ (ipcMachine.run initial (connectedAgain ++ [.advance 1 (.thrown false)])).closed) ∧
    ((ipcMachine.run initial [.connect, .advance 0 .done, .disconnect,
        .advance 1 .done]).isDisconnected = true ∧
      (ipcMachine.run initial [.connect, .advance 0 .done, .disconnect,
        .advance 1 .done, .advance 0 .done]).connectionState = .handshaking) := by
  refine ⟨⟨0, ?_, ?_, ?_⟩, ⟨?_, ?_, ?_, ?_⟩, ?_, ?_⟩
  all_goals decide

end Velvt.Ipc
