import Velvt.IpcConduct

/-!
# The driver of the connection

Whatever the driving task does between two of its waits, the client stays orderly.
-/

namespace Velvt.Ipc.IpcClient

open StepMachine List

variable {client next : IpcClient} {index : Nat} {task : ClientTask}

section Driven

variable (orderly : client.Orderly) (isTask : client.tasks[index]? = some task)
  (isDriver : task.isDriver = true)

include orderly isTask isDriver

theorem Orderly.ends (reconnectTask : Option Nat)
    (notClosing : client.transport ≠ none → task.stage.isClosing = false)
    (paid : client.stopped = false → task.stage.owesStatus = false) :
    { client.waitAt index .finished with reconnectTask := reconnectTask }.Orderly := by
  have carries : client.Carries
      { client.waitAt index .finished with reconnectTask := reconnectTask } index
      [{ task with stage := .finished }] := carries_waitAt isTask rfl
  refine orderly.goesOn isTask isDriver carries (length_filter_le _ _)
    ⟨rfl, rfl, rfl, rfl, rfl, rfl, rfl, rfl⟩ ?_ ?_ ?_
  · intro new isNew
    rw [mem_singleton.mp isNew]
    exact fits_of_idle rfl (fun stopping => by cases stopping)
  · intro some closing
    rw [notClosing some] at closing
    cases closing
  · intro connected none owes
    by_cases stopped : client.stopped = true
    · exact orderly.owesStatus_of_stopped isTask isDriver carries stopped connected
    · rw [paid (Bool.not_eq_true _ ▸ stopped)] at owes
      cases owes

theorem Orderly.startReceiveLoop {reconnectTask : Option Nat}
    (free : client.stopped = false → reconnectTask = none)
    (notClosing : task.stage.isClosing = false) (paid : task.stage.owesStatus = false) :
    { client.waitAt index .finished with reconnectTask := reconnectTask
      }.startReceiveLoop.Orderly := by
  have tasks : { client.waitAt index .finished with reconnectTask := reconnectTask
      }.startReceiveLoop.tasks =
      (((client.waitAt index .finished).cancel client.receiveTask).spawn .receiveStarting).tasks :=
    rfl
  refine orderly.goesOn isTask isDriver (carries_spawn isTask tasks) (length_filter_le _ _)
    ⟨rfl, rfl, rfl, rfl, rfl, rfl, rfl, rfl⟩ ?_ ?_ ?_
  · intro new isNew
    rw [mem_singleton.mp isNew]
    exact fun _ => free
  · intro _ closing
    rw [notClosing] at closing
    cases closing
  · intro _ _ owes
    rw [paid] at owes
    cases owes

theorem Orderly.startReconnect (notClosing : client.transport ≠ none → task.stage.isClosing = false) :
    (client.waitAt index .finished).startReconnect.Orderly := by
  have tasks : (client.waitAt index .finished).startReconnect.tasks =
      (((client.waitAt index .finished).cancel none).spawn .reconnectStarting).tasks := rfl
  have carries := carries_spawn isTask tasks
  refine orderly.goesOn isTask isDriver carries (length_filter_le _ _)
    ⟨rfl, rfl, rfl, rfl, rfl, rfl, rfl, rfl⟩ ?_ ?_ ?_
  · intro new isNew
    rw [mem_singleton.mp isNew]
    exact fun _ => rfl
  · intro some closing
    rw [notClosing some] at closing
    cases closing
  · intro _ _ _
    exact carries.has_of_new (mem_singleton_self _) rfl

theorem Orderly.detaches {new : ClientTask} (carries : client.Carries next index [new])
    (status : next.connectionState = client.connectionState)
    (stopped : next.stopped = client.stopped) (transport : next.transport = none)
    (closed : ∀ transport ∈ next.closed, transport < next.transportsMade)
    (deferred : ∀ transport ∈ next.deferredCloseTransport, transport < next.transportsMade)
    (disconnected : next.isDisconnected = client.isDisconnected)
    (fits : next.Fits new) (owes : new.stage.owesStatus = true) : next.Orderly := by
  refine orderly.driven isTask isDriver carries (length_filter_le _ _) stopped
    (forall_mem_singleton.mpr fits) ⟨?_, closed, ?_, ?_, ?_, ?_, ?_, ?_⟩
  · rw [transport]
    intro current isCurrent
    cases isCurrent
  · rw [transport]
    exact fun current isDeferred => ⟨deferred current isDeferred, fun same => by cases same⟩
  · rw [transport]
    intro _ current isCurrent
    cases isCurrent
  · rw [transport]
    intro current isCurrent
    cases isCurrent
  · exact fun _ _ => carries.has_of_new (mem_singleton_self _) owes
  · rw [stopped, status]
    intro isStopped
    exact (orderly.kept.stopped isStopped).imp_right fun stopping =>
      carries.has_of_other isTask stopping (not_stopping_of_driver isDriver)
  · rw [disconnected, stopped, status]
    exact orderly.kept.disconnected

theorem Orderly.handleConnectionLoss
    (notClosing : client.transport ≠ none → task.stage.isClosing = false)
    (paid : client.stopped = false → task.stage.owesStatus = true → client.reconnectTask = none) :
    (client.handleConnectionLoss index).Orderly := by
  have kept := orderly.kept
  unfold IpcClient.handleConnectionLoss
  by_cases lost : client.stopped = false ∧ client.reconnectTask = none
  · rw [if_pos lost]
    cases current : client.transport with
    | none => exact orderly.startReconnect isTask isDriver notClosing
    | some activeTransport =>
      have made := kept.made activeTransport current
      by_cases sending : 0 < client.inFlightSendCount
      · let detached : IpcClient :=
          { client with transport := none, deferredCloseTransport := some activeTransport }
        have tasks : (detached.waitAt index .finished).startReconnect.tasks =
            (((client.waitAt index .finished).cancel none).spawn .reconnectStarting).tasks := rfl
        simp only [sending, if_true]
        refine orderly.detaches isTask isDriver (carries_spawn isTask tasks) rfl rfl rfl
          kept.closedMade ?_ rfl (fun _ => rfl) rfl
        intro transport isDeferred
        obtain rfl := Option.some.inj isDeferred
        exact made
      · simp only [sending, if_false]
        refine orderly.detaches isTask isDriver (carries_waitAt isTask rfl) rfl rfl rfl ?_
          (fun transport isDeferred => (kept.deferred transport isDeferred).1) rfl trivial rfl
        intro transport isClosed
        rcases mem_cons.mp isClosed with rfl | before
        · exact made
        · exact kept.closedMade transport before
  · rw [if_neg lost]
    refine orderly.ends isTask isDriver client.reconnectTask notClosing ?_
    intro running
    by_contra owes
    exact lost ⟨running, paid running (Bool.not_eq_false _ ▸ owes)⟩

theorem Orderly.release (closing : client.transport ≠ none → task.stage.isClosing = true) :
    { client with transport := none }.Orderly := by
  by_cases isNone : client.transport = none
  · have same : { client with transport := none } = client := by rw [← isNone]
    rw [same]
    exact orderly
  · have isClosing := closing isNone
    have carries : client.Carries { client with transport := none } index [task] :=
      ⟨client.tasks.eraseIdx index, tasks_perm isTask,
        fun later isLater => .inr ⟨later, isLater, .refl later⟩,
        fun other isOther => ⟨other, isOther, rfl⟩⟩
    refine orderly.detaches isTask isDriver carries rfl rfl rfl orderly.kept.closedMade
      (fun transport isDeferred => (orderly.kept.deferred transport isDeferred).1) rfl ?_ ?_
    · have fits := orderly.fits task (mem_of_getElem? isTask)
      cases stage : task.stage with
      | connectClosing failure | reconnectClosing number failure | stopping overtaken =>
        simpa only [Fits, stage] using fits
      | _ => simp only [stage, TaskStage.isClosing, Bool.false_eq_true] at isClosing
    · cases stage : task.stage <;> simp_all [TaskStage.isClosing, TaskStage.owesStatus]

theorem Orderly.givesUp (transport : client.transport = none) (reconnectTask : Option Nat) :
    { (client.publish .disconnected).waitAt index .finished with
      reconnectTask := reconnectTask }.Orderly := by
  have kept := orderly.kept
  refine orderly.driven isTask isDriver (carries_waitAt isTask rfl) (length_filter_le _ _)
    rfl (forall_mem_singleton.mpr trivial) ⟨kept.made, kept.closedMade, kept.deferred, ?_,
      ?_, ?_, fun _ => .inl rfl, fun disconnected => ⟨(kept.disconnected disconnected).1, rfl⟩⟩
  · intro connected
    cases connected
  · intro current isCurrent
    cases transport.symm.trans isCurrent
  · intro connected
    cases connected

theorem Orderly.connectClosed (failure : IpcFailure)
    (closing : client.transport ≠ none → task.stage.isClosing = true)
    (free : client.stopped = false → client.reconnectTask = none) :
    (client.connectClosed index failure).Orderly := by
  have released := orderly.release isTask isDriver closing
  unfold IpcClient.connectClosed
  by_cases mismatch : failure = .versionMismatch
  · simp only [mismatch, if_true]
    exact released.givesUp isTask isDriver rfl client.reconnectTask
  · simp only [mismatch, if_false]
    exact released.handleConnectionLoss isTask isDriver (absurd rfl) (fun running _ => free running)

theorem Orderly.reconnectLoop (number : Nat)
    (uncancelled : client.stopped = false → task.isCancelled = false)
    (notClosing : client.transport ≠ none → task.stage.isClosing = false) :
    (client.reconnectLoop index number task.isCancelled).Orderly := by
  have kept := orderly.kept
  unfold IpcClient.reconnectLoop
  by_cases goesOn : client.stopped = false ∧ task.isCancelled = false
  · rw [if_pos goesOn]
    obtain ⟨running, -⟩ := goesOn
    have carries : client.Carries
        ((client.publish (.reconnecting number)).waitAt index (.sleeping number)) index
        [{ task with stage := .sleeping number }] := carries_waitAt isTask rfl
    refine orderly.driven isTask isDriver carries (length_filter_le _ _) rfl
      (forall_mem_singleton.mpr trivial) ⟨kept.made, kept.closedMade, kept.deferred, ?_,
        ?_, ?_, ?_, ?_⟩
    · intro connected
      cases connected
    · intro transport isCurrent isClosed
      have current : client.transport = some transport := isCurrent
      refine carries.has_of_other isTask (kept.isOpen transport isCurrent isClosed) (notClosing ?_)
      rw [current]
      exact Option.some_ne_none transport
    · intro connected
      cases connected
    · intro isStopped
      exact absurd (running.symm.trans isStopped) Bool.false_ne_true
    · intro disconnected
      exact absurd (running.symm.trans (kept.disconnected disconnected).1) Bool.false_ne_true
  · rw [if_neg goesOn]
    refine orderly.ends isTask isDriver none notClosing ?_
    intro running
    exact absurd ⟨running, uncancelled running⟩ goesOn

theorem Orderly.reconnectClosed (number : Nat) (failure : IpcFailure)
    (closing : client.transport ≠ none → task.stage.isClosing = true)
    (uncancelled : client.stopped = false → task.isCancelled = false) :
    (client.reconnectClosed index number failure task.isCancelled).Orderly := by
  have released := orderly.release isTask isDriver closing
  unfold IpcClient.reconnectClosed
  by_cases mismatch : failure = .versionMismatch
  · simp only [mismatch, if_true]
    exact released.givesUp isTask isDriver rfl none
  · simp only [mismatch, if_false]
    exact released.reconnectLoop isTask isDriver (number + 1) uncancelled (absurd rfl)

theorem Orderly.closeTransport {waiting : TaskStage} {closedTransport : IpcClient → IpcClient}
    (closing : waiting.isClosing = true)
    (fits : ∀ transport, ((client.close transport).waitAt index waiting).Fits
      { task with stage := waiting })
    (ended : client.transport = none → (closedTransport client).Orderly) :
    (client.closeTransport index waiting closedTransport).Orderly := by
  have kept := orderly.kept
  unfold IpcClient.closeTransport
  cases current : client.transport with
  | none => exact ended current
  | some transport =>
    have carries : client.Carries ((client.close transport).waitAt index waiting) index
        [{ task with stage := waiting }] := carries_waitAt isTask rfl
    refine orderly.driven isTask isDriver carries (length_filter_le _ _) rfl
      (forall_mem_singleton.mpr (fits transport)) ⟨kept.made, ?_, kept.deferred,
        kept.acknowledged, ?_, ?_, ?_, kept.disconnected⟩
    · intro other isClosed
      rcases mem_cons.mp isClosed with rfl | before
      · exact kept.made _ current
      · exact kept.closedMade other before
    · exact fun _ _ _ => carries.has_of_new (mem_singleton_self _) closing
    · intro _ isNone
      cases current.symm.trans isNone
    · intro isStopped
      exact (kept.stopped isStopped).imp_right fun stopping =>
        carries.has_of_other isTask stopping (not_stopping_of_driver isDriver)

omit isDriver in
theorem Orderly.connectEnded {attempt : Attempt} (stage : task.stage = .connecting attempt)
    (result : Except IpcFailure Unit) :
    (client.connectEnded index result).Orderly := by
  have isDriver : task.isDriver = true := by simp only [ClientTask.isDriver, stage]
  have fits := orderly.fits task (mem_of_getElem? isTask)
  simp only [Fits, stage] at fits
  have free : client.stopped = false → client.reconnectTask = none :=
    fun running => (fits running).1
  cases result with
  | ok done =>
    refine orderly.startReceiveLoop isTask isDriver free ?_ ?_
    · rw [stage]
      rfl
    · rw [stage]
      rfl
  | error failure =>
    change (client.closeTransport index (.connectClosing failure)
      (·.connectClosed index failure)).Orderly
    refine orderly.closeTransport isTask isDriver rfl (fun _ => free) ?_
    intro isNone
    exact orderly.connectClosed isTask isDriver failure (absurd isNone) free

theorem Orderly.reconnectEnded (number : Nat)
    (uncancelled : client.stopped = false → task.isCancelled = false)
    (notClosing : task.stage.isClosing = false) (paid : task.stage.owesStatus = false)
    (result : Except IpcFailure Unit) :
    (client.reconnectEnded index number task.isCancelled result).Orderly := by
  have closes : ∀ failure, (client.closeTransport index (.reconnectClosing number failure)
      (·.reconnectClosed index number failure task.isCancelled)).Orderly := by
    intro failure
    refine orderly.closeTransport isTask isDriver rfl (fun _ => uncancelled) ?_
    intro isNone
    exact orderly.reconnectClosed isTask isDriver number failure (absurd isNone) uncancelled
  cases result with
  | ok done => exact orderly.startReceiveLoop isTask isDriver (fun _ => rfl) notClosing paid
  | error failure =>
    cases failure with
    | cancelled =>
      exact orderly.ends isTask isDriver none (fun _ => notClosing) (fun _ => paid)
    | versionMismatch => exact closes .versionMismatch
    | failed => exact closes .failed

theorem Orderly.receiveLoop (free : client.stopped = false → client.reconnectTask = none)
    (notClosing : task.stage.isClosing = false) (paid : task.stage.owesStatus = false) :
    (client.receiveLoop index task.isCancelled).Orderly := by
  have ends : (client.waitAt index .finished).Orderly :=
    orderly.ends isTask isDriver client.reconnectTask (fun _ => notClosing) (fun _ => paid)
  unfold IpcClient.receiveLoop
  cases task.isCancelled with
  | true => exact ends
  | false =>
    cases current : client.transport with
    | none => exact ends
    | some transport =>
      refine orderly.goesOn isTask isDriver (carries_waitAt isTask rfl)
        (length_filter_le _ _) ⟨rfl, rfl, rfl, rfl, rfl, rfl, rfl, rfl⟩
        (forall_mem_singleton.mpr fun _ => ⟨.inr current, free⟩) ?_ ?_
      · intro _ closing
        rw [notClosing] at closing
        cases closing
      · intro _ _ owes
        rw [paid] at owes
        cases owes

end Driven

end Velvt.Ipc.IpcClient
