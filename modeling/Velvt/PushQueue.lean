import Mathlib.Data.List.Nodup
import Mathlib.Data.List.Perm.Subperm
import Velvt.StepMachine

/-!
# The push queue and the connections that drain it

The queue outlives the connections.  A connection takes a message out of it and then waits for the
write, and in between every other connection and every producer may run.  Messages are numbered in
the order they are given to the queue, so that equal ones are told apart.
-/

namespace Velvt.Push

open StepMachine List

section Model

structure QueuedMessage (Message : Type*) where
  message : Message
  urgent : Bool
  /-- How many messages were given to the queue before this one. -/
  number : Nat
  deriving DecidableEq

/-- `PushQueue`. -/
structure PushQueue (Message : Type*) where
  inner : List (QueuedMessage Message)
  capacity : Nat

variable {Message : Type*}

namespace PushQueue

def evictable (queue : PushQueue Message) : Option Nat :=
  queue.inner.findIdx? fun entry => !entry.urgent

def enqueue (queue : PushQueue Message) (entry : QueuedMessage Message) : PushQueue Message :=
  if queue.capacity ≤ queue.inner.length then
    match queue.evictable with
    | some index => { queue with inner := queue.inner.eraseIdx index ++ [entry] }
    | none => queue
  else
    { queue with inner := queue.inner ++ [entry] }

def enqueueUrgent (queue : PushQueue Message) (entry : QueuedMessage Message) :
    PushQueue Message :=
  { queue with inner := entry :: queue.inner }

def tryPop (queue : PushQueue Message) :
    Option (QueuedMessage Message) × PushQueue Message :=
  (queue.inner.head?, { queue with inner := queue.inner.tail })

end PushQueue

/-- Where `serve_connection_inner` waits. -/
inductive ConnectionStage (Message : Type*)
  /-- The hello, its answer and the first status. -/
  | greeting
  /-- At the head of the loop, before `try_pop`. -/
  | draining
  /-- In `write_with_timeout`. -/
  | writing (entry : QueuedMessage Message)
  /-- In the `select!`, or with a frame of the client. -/
  | selecting
  /-- In the arm of the shutdown, before `try_pop`. -/
  | shuttingDown
  | shutdownWriting (entry : QueuedMessage Message)
  | closed

/-- What a connection waits for comes about, or fails, or takes too long, or a shutdown fires. -/
inductive Outcome
  | done
  | failed
  | timedOut
  | shutdown

/-- The queue with the connections that were opened, and what was completely written. -/
structure PushService (Message : Type*) where
  queue : PushQueue Message
  connections : List (ConnectionStage Message)
  written : List (QueuedMessage Message)
  /-- How many messages were given to the queue. -/
  given : Nat
  /-- The messages that were given to `enqueue_urgent`. -/
  urgentMessages : List (QueuedMessage Message)

def PushService.initial (capacity : Nat) : PushService Message where
  queue := { inner := [], capacity := capacity }
  connections := []
  written := []
  given := 0
  urgentMessages := []

namespace PushService

variable (service : PushService Message)

def enqueue (message : Message) : PushService Message :=
  let entry : QueuedMessage Message :=
    { message := message, urgent := false, number := service.given }
  { service with queue := service.queue.enqueue entry, given := service.given + 1 }

def enqueueUrgent (message : Message) : PushService Message :=
  let entry : QueuedMessage Message :=
    { message := message, urgent := true, number := service.given }
  { service with
    queue := service.queue.enqueueUrgent entry
    given := service.given + 1
    urgentMessages := entry :: service.urgentMessages }

def waitAt (index : Nat) (stage : ConnectionStage Message) : PushService Message :=
  { service with connections := service.connections.set index stage }

/-- `try_pop`, and then the write of what it has taken. -/
def drain (index : Nat) (writing : QueuedMessage Message → ConnectionStage Message)
    (drained : ConnectionStage Message) : PushService Message :=
  match service.queue.tryPop with
  | (some entry, queue) => { service with queue := queue }.waitAt index (writing entry)
  | (none, _) => service.waitAt index drained

def wrote (index : Nat) (entry : QueuedMessage Message) (stage : ConnectionStage Message) :
    PushService Message :=
  { service with written := entry :: service.written }.waitAt index stage

def advance (index : Nat) (stage : ConnectionStage Message) (outcome : Outcome) :
    PushService Message :=
  match stage, outcome with
  | .greeting, .done => service.waitAt index .draining
  | .greeting, .failed => service.waitAt index .closed
  | .draining, _ => service.drain index .writing .selecting
  | .writing entry, .done => service.wrote index entry .draining
  | .writing _, .failed | .writing _, .timedOut => service.waitAt index .closed
  | .selecting, .done => service.waitAt index .draining
  | .selecting, .failed => service.waitAt index .closed
  | .selecting, .shutdown => service.waitAt index .shuttingDown
  | .shuttingDown, _ => service.drain index .shutdownWriting .closed
  | .shutdownWriting entry, .done => service.wrote index entry .shuttingDown
  -- The shutdown drain goes on with the next message.
  | .shutdownWriting _, .failed => service.waitAt index .shuttingDown
  | _, _ => service

end PushService

inductive PushEvent (Message : Type*)
  | enqueue (message : Message)
  | enqueueUrgent (message : Message)
  /-- A client connects. -/
  | accept
  | advance (index : Nat) (outcome : Outcome)

def pushMachine : Machine (PushService Message) (PushEvent Message) Unit where
  step service
    | .enqueue message => ((), service.enqueue message)
    | .enqueueUrgent message => ((), service.enqueueUrgent message)
    | .accept => ((), { service with connections := service.connections ++ [.greeting] })
    | .advance index outcome =>
      ((), match service.connections[index]? with
        | none => service
        | some stage => service.advance index stage outcome)

end Model

section Places

variable {Message : Type*}

def ConnectionStage.holds : ConnectionStage Message → List (QueuedMessage Message)
  | .writing entry | .shutdownWriting entry => [entry]
  | .greeting | .draining | .selecting | .shuttingDown | .closed => []

def ConnectionStage.loses : ConnectionStage Message → Outcome → Option (QueuedMessage Message)
  | .writing entry, .failed | .writing entry, .timedOut | .shutdownWriting entry, .failed =>
    some entry
  | _, _ => none

namespace PushService

/-- The messages in the queue, those being written, and those written. -/
def places (service : PushService Message) : List (QueuedMessage Message) :=
  service.queue.inner ++ service.connections.flatMap ConnectionStage.holds ++ service.written

/-- Every urgent message is in the queue, or being written, or written. -/
def UrgentKept (service : PushService Message) : Prop :=
  ∀ entry ∈ service.urgentMessages, entry ∈ service.queue.inner ∨
    (∃ stage ∈ service.connections, stage.holds = [entry]) ∨ entry ∈ service.written

end PushService

def PushService.lostWrite (service : PushService Message) : PushEvent Message →
    Option (QueuedMessage Message)
  | .advance index outcome => service.connections[index]?.bind fun stage => stage.loses outcome
  | .enqueue _ | .enqueueUrgent _ | .accept => none

/-- No write of an urgent message fails or times out. -/
def UrgentWritten (service : PushService Message) (event : PushEvent Message) : Prop :=
  ∀ entry ∈ service.lostWrite event, entry.urgent = false

end Places

section Moves

variable {Message : Type*} {service next : PushService Message}

/-- A step takes in new messages and lets go of lost ones, and every other message stays or moves
on. -/
structure Moves (service next : PushService Message) (news lost : List (QueuedMessage Message)) :
    Prop where
  places : (news ++ service.places).Perm (lost ++ next.places)
  given : next.given = service.given + news.length
  single : news.length ≤ 1
  numbered : ∀ entry ∈ news, entry.number = service.given
  urgentMessages : next.urgentMessages = news.filter (·.urgent) ++ service.urgentMessages

namespace PushQueue

theorem enqueue_perm (queue : PushQueue Message) {entry : QueuedMessage Message}
    (routine : entry.urgent = false) : ∃ lost, (entry :: queue.inner).Perm
      (lost ++ (queue.enqueue entry).inner) ∧ ∀ gone ∈ lost, gone.urgent = false := by
  unfold enqueue
  split
  · split
    · next index isEvictable =>
        obtain ⟨inside, evicted, -⟩ := List.findIdx?_eq_some_iff_getElem.mp isEvictable
        refine ⟨[queue.inner[index]], ?_, ?_⟩
        · have removed := (getElem_cons_eraseIdx_perm inside).symm
          have moved : (entry :: queue.inner.eraseIdx index).Perm
              (queue.inner.eraseIdx index ++ [entry]) := (perm_append_singleton _ _).symm
          exact (removed.cons entry).trans ((List.Perm.swap _ _ _).trans (moved.cons _))
        · intro gone isGone
          rw [mem_singleton.mp isGone]
          simpa using evicted
    · exact ⟨[entry], .refl _, fun gone isGone => mem_singleton.mp isGone ▸ routine⟩
  · exact ⟨[], (perm_append_singleton _ _).symm, fun gone isGone => by cases isGone⟩

end PushQueue

theorem moves_enqueue (service : PushService Message) (message : Message) :
    ∃ news lost, Moves service (service.enqueue message) news lost ∧
      ∀ entry ∈ lost, entry.urgent = false := by
  have isRoutine : (QueuedMessage.mk message false service.given).urgent = false := rfl
  obtain ⟨lost, perm, routine⟩ := service.queue.enqueue_perm isRoutine
  refine ⟨[⟨message, false, service.given⟩], lost, ⟨?_, rfl, Nat.le_refl 1, ?_, rfl⟩, routine⟩
  · have whole := perm.append_right
      (service.connections.flatMap ConnectionStage.holds ++ service.written)
    simpa only [PushService.places, PushService.enqueue, cons_append, nil_append,
      append_assoc] using whole
  · intro entry isNew
    rw [mem_singleton.mp isNew]

theorem moves_enqueueUrgent (service : PushService Message) (message : Message) :
    Moves service (service.enqueueUrgent message) [⟨message, true, service.given⟩] [] := by
  refine ⟨.refl _, rfl, Nat.le_refl 1, ?_, rfl⟩
  intro entry isNew
  rw [mem_singleton.mp isNew]

theorem Moves.of_perm {lost : List (QueuedMessage Message)}
    (places : service.places.Perm (lost ++ next.places)) (given : next.given = service.given)
    (urgentMessages : next.urgentMessages = service.urgentMessages) :
    Moves service next [] lost :=
  ⟨places, given, Nat.zero_le 1, fun _ isNew => absurd isNew not_mem_nil, urgentMessages⟩

variable {index : Nat} {stage : ConnectionStage Message}

section

variable (isStage : service.connections[index]? = some stage)

include isStage

theorem places_perm :
    service.places.Perm ((service.connections.eraseIdx index).flatMap ConnectionStage.holds ++
      (service.queue.inner ++ (stage.holds ++ service.written))) := by
  classical
  obtain ⟨inside, rfl⟩ := List.getElem?_eq_some_iff.mp isStage
  have apart := (getElem_cons_eraseIdx_perm inside).flatMap_right ConnectionStage.holds
  rw [perm_iff_count]
  intro entry
  have counted := apart.count_eq entry
  simp only [flatMap_cons, count_append] at counted
  simp only [PushService.places, count_append]
  omega

theorem moves_of_stage {later : ConnectionStage Message} {lost : List (QueuedMessage Message)}
    (connections : next.connections = service.connections.set index later)
    (moved : (service.queue.inner ++ (stage.holds ++ service.written)).Perm
      (lost ++ (next.queue.inner ++ (later.holds ++ next.written))))
    (given : next.given = service.given)
    (urgentMessages : next.urgentMessages = service.urgentMessages) :
    Moves service next [] lost := by
  classical
  have isLater : next.connections[index]? = some later := by
    rw [connections]
    exact List.getElem?_set_self (List.getElem?_eq_some_iff.mp isStage).1
  have others : next.connections.eraseIdx index = service.connections.eraseIdx index := by
    rw [connections, eraseIdx_set_eq]
  refine .of_perm ?_ given urgentMessages
  have before := places_perm isStage
  have after := places_perm isLater
  rw [others] at after
  rw [perm_iff_count] at before after moved ⊢
  intro entry
  have countedBefore := before entry
  have countedAfter := after entry
  have countedMoved := moved entry
  simp only [count_append] at *
  omega

theorem moves_drain
    (empty : stage.holds = []) {writing : QueuedMessage Message → ConnectionStage Message}
    {drained : ConnectionStage Message} (holds : ∀ entry, (writing entry).holds = [entry])
    (emptyDrained : drained.holds = []) :
    Moves service (service.drain index writing drained) [] [] := by
  unfold PushService.drain PushQueue.tryPop
  cases popped : service.queue.inner with
  | nil =>
    refine moves_of_stage isStage rfl ?_ rfl rfl
    rw [empty, emptyDrained]
    exact .refl _
  | cons entry rest =>
    refine moves_of_stage isStage rfl ?_ rfl rfl
    rw [popped, empty, holds]
    exact perm_middle.symm

theorem moves_advance (outcome : Outcome) :
    Moves service (service.advance index stage outcome) [] (stage.loses outcome).toList := by
  have stays : ∀ later : ConnectionStage Message, later.holds = stage.holds →
      Moves service (service.waitAt index later) [] [] := by
    intro later same
    refine moves_of_stage isStage rfl ?_ rfl rfl
    rw [same]
    exact .refl _
  have same : Moves service service [] [] := .of_perm (.refl _) rfl rfl
  cases stage with
  | greeting | selecting =>
    cases outcome with
    | done | failed | shutdown =>
      first
        | exact same
        | exact stays _ rfl
    | timedOut => exact same
  | draining => exact moves_drain isStage rfl (fun _ => rfl) rfl
  | shuttingDown => exact moves_drain isStage rfl (fun _ => rfl) rfl
  | closed => exact same
  | writing entry =>
    cases outcome with
    | done => exact moves_of_stage isStage rfl (.refl _) rfl rfl
    | failed | timedOut => exact moves_of_stage isStage rfl perm_middle rfl rfl
    | shutdown => exact same
  | shutdownWriting entry =>
    cases outcome with
    | done => exact moves_of_stage isStage rfl (.refl _) rfl rfl
    | failed => exact moves_of_stage isStage rfl perm_middle rfl rfl
    | timedOut | shutdown => exact same

end

end Moves

section Runs

variable {Message : Type*} {service : PushService Message}

/-- Each event moves entries along, and loses an urgent one only by a write that fails. -/
theorem moves_next (service : PushService Message) (event : PushEvent Message) :
    ∃ news lost, Moves service (pushMachine.next service event) news lost ∧
      (∀ entry ∈ lost, entry.urgent = true → entry ∈ service.lostWrite event) ∧
      ∀ entry ∈ service.lostWrite event, entry ∈ lost := by
  cases event with
  | enqueue message =>
    obtain ⟨news, lost, moves, routine⟩ := moves_enqueue service message
    refine ⟨news, lost, moves, ?_, ?_⟩
    · intro entry isLost urgent
      cases (routine entry isLost).symm.trans urgent
    · intro entry isLost
      cases isLost
  | enqueueUrgent message =>
    refine ⟨_, _, moves_enqueueUrgent service message, ?_, ?_⟩
    · intro entry isLost
      cases isLost
    · intro entry isLost
      cases isLost
  | accept =>
    refine ⟨[], [], .of_perm ?_ rfl rfl, ?_, ?_⟩
    · have same : (service.connections ++ [ConnectionStage.greeting]).flatMap ConnectionStage.holds =
          service.connections.flatMap ConnectionStage.holds := by
        rw [flatMap_append]
        exact append_nil _
      change service.places.Perm (service.queue.inner ++
        (service.connections ++ [ConnectionStage.greeting]).flatMap ConnectionStage.holds ++ service.written)
      rw [same]
      exact .refl _
    · intro entry isLost
      cases isLost
    · intro entry isLost
      cases isLost
  | advance index outcome =>
    cases isStage : service.connections[index]? with
    | none =>
      refine ⟨[], [], ?_, ?_, ?_⟩
      · simp only [Machine.next, pushMachine, isStage]
        exact .of_perm (.refl _) rfl rfl
      · intro entry isLost
        cases isLost
      · intro entry isLost
        simp only [PushService.lostWrite, isStage, Option.bind_none] at isLost
        cases isLost
    | some stage =>
      refine ⟨[], (stage.loses outcome).toList, ?_, ?_, ?_⟩
      · simp only [Machine.next, pushMachine, isStage]
        exact moves_advance isStage outcome
      · intro entry isLost _
        simpa only [PushService.lostWrite, isStage, Option.bind_some, Option.mem_toList,
          Option.mem_def]
          using isLost
      · intro entry isLost
        simpa only [PushService.lostWrite, isStage, Option.bind_some, Option.mem_toList,
          Option.mem_def]
          using isLost

/-- The messages in the places of the service are told apart by their numbers. -/
structure Numbered (service : PushService Message) : Prop where
  once : (service.places.map (·.number)).Nodup
  earlier : ∀ entry ∈ service.places, entry.number < service.given
  listed : ∀ entry ∈ service.places, entry.urgent = true → entry ∈ service.urgentMessages
  urgent : ∀ entry ∈ service.urgentMessages, entry.urgent = true

theorem Numbered.once_news (numbered : Numbered service) {next : PushService Message}
    {news lost : List (QueuedMessage Message)} (moves : Moves service next news lost) :
    ((lost ++ next.places).map (·.number)).Nodup := by
  have whole : ((news ++ service.places).map (·.number)).Nodup := by
    rw [map_append, nodup_append]
    refine ⟨?_, numbered.once, ?_⟩
    · match news, moves.single with
      | [], _ => exact .nil
      | [entry], _ => exact nodup_singleton _
    · intro number isNew other isOld same
      obtain ⟨entry, isEntry, rfl⟩ := mem_map.mp isNew
      obtain ⟨old, isPlaced, rfl⟩ := mem_map.mp isOld
      have earlier := numbered.earlier old isPlaced
      rw [← same, moves.numbered entry isEntry] at earlier
      exact Nat.lt_irrefl _ earlier
  exact (moves.places.map _).nodup_iff.mp whole

theorem numbered_next (service : PushService Message) (event : PushEvent Message)
    (numbered : Numbered service) : Numbered (pushMachine.next service event) := by
  obtain ⟨news, lost, moves, -, -⟩ := moves_next service event
  have origin : ∀ entry ∈ (pushMachine.next service event).places,
      entry ∈ news ∨ entry ∈ service.places := by
    intro entry member
    exact mem_append.mp (moves.places.mem_iff.mpr (mem_append_right _ member))
  refine ⟨?_, ?_, ?_, ?_⟩
  · have whole := numbered.once_news moves
    rw [map_append] at whole
    exact whole.of_append_right
  · intro entry member
    rw [moves.given]
    rcases origin entry member with isNew | isOld
    · rw [moves.numbered entry isNew]
      exact Nat.lt_add_of_pos_right (length_pos_of_mem isNew)
    · exact Nat.lt_add_right _ (numbered.earlier entry isOld)
  · intro entry member urgent
    rw [moves.urgentMessages]
    rcases origin entry member with isNew | isOld
    · exact mem_append_left _ (mem_filter.mpr ⟨isNew, urgent⟩)
    · exact mem_append_right _ (numbered.listed entry isOld urgent)
  · intro entry member
    rw [moves.urgentMessages] at member
    rcases mem_append.mp member with isNew | isOld
    · exact (mem_filter.mp isNew).2
    · exact numbered.urgent entry isOld

theorem mem_places {entry : QueuedMessage Message} :
    entry ∈ service.places ↔ entry ∈ service.queue.inner ∨
      (∃ stage ∈ service.connections, stage.holds = [entry]) ∨ entry ∈ service.written := by
  have held : ∀ stage : ConnectionStage Message, entry ∈ stage.holds ↔ stage.holds = [entry] := by
    intro stage
    cases stage with
    | writing other | shutdownWriting other =>
      simp only [ConnectionStage.holds, mem_singleton, List.cons.injEq, and_true]
      exact eq_comm
    | _ => simp only [ConnectionStage.holds, not_mem_nil, nil_eq, reduceCtorEq]
  simp only [PushService.places, mem_append, mem_flatMap, held, or_assoc]

theorem urgentKept_iff : service.UrgentKept ↔
    ∀ entry ∈ service.urgentMessages, entry ∈ service.places := by
  simp only [PushService.UrgentKept, mem_places]

theorem urgentKept_next (numbered : Numbered service) (kept : service.UrgentKept)
    (event : PushEvent Message) :
    (pushMachine.next service event).UrgentKept ↔ UrgentWritten service event := by
  obtain ⟨news, lost, moves, lostUrgent, isLost⟩ := moves_next service event
  rw [urgentKept_iff] at kept ⊢
  have told := numbered.once_news moves
  constructor
  · intro keptNext entry isLostWrite
    by_contra urgent
    have gone := isLost entry isLostWrite
    have isUrgent : entry.urgent = true := Bool.not_eq_false _ ▸ urgent
    have listed : entry ∈ (pushMachine.next service event).urgentMessages := by
      rw [moves.urgentMessages]
      rcases mem_append.mp (moves.places.mem_iff.mpr (mem_append_left _ gone)) with
        isNew | isOld
      · exact mem_append_left _ (mem_filter.mpr ⟨isNew, isUrgent⟩)
      · exact mem_append_right _ (numbered.listed entry isOld isUrgent)
    rw [map_append] at told
    exact (nodup_append.mp told).2.2 _ (mem_map_of_mem gone) _
      (mem_map_of_mem (keptNext entry listed)) rfl
  · intro written entry listed
    have urgent := (numbered_next service event numbered).urgent entry listed
    rw [moves.urgentMessages] at listed
    have before : entry ∈ news ++ service.places := by
      rcases mem_append.mp listed with isNew | isOld
      · exact mem_append_left _ (mem_filter.mp isNew).1
      · exact mem_append_right _ (kept entry isOld)
    rcases mem_append.mp (moves.places.mem_iff.mp before) with gone | stays
    · have routine := written entry (lostUrgent entry gone urgent)
      cases routine.symm.trans urgent
    · exact stays

end Runs

/-- Throughout a run every urgent message is in the queue, being written or written, exactly when
no write of an urgent message fails or times out. -/
theorem urgent_kept_iff_written {Message : Type*} (capacity : Nat)
    (events : List (PushEvent Message)) :
    (∀ earlier, earlier <+: events →
      (pushMachine.run (.initial capacity) earlier).UrgentKept) ↔
    pushMachine.Meets UrgentWritten (.initial capacity) events := by
  have numbered : Numbered (PushService.initial capacity : PushService Message) := by
    refine ⟨.nil, ?_, ?_, ?_⟩
    · intro entry member
      cases member
    · intro entry member
      cases member
    · intro entry member
      cases member
  have kept : (PushService.initial capacity : PushService Message).UrgentKept := by
    intro entry member
    cases member
  have keeps : ∀ (service : PushService Message) event, Numbered service →
      Numbered (pushMachine.next service event) := numbered_next
  have steps : ∀ (service : PushService Message) event, Numbered service → service.UrgentKept →
      ((pushMachine.next service event).UrgentKept ↔ UrgentWritten service event) :=
    fun _ event numbered kept => urgentKept_next numbered kept event
  exact pushMachine.forall_prefix_iff_meets keeps steps numbered kept events

/-- An alert that is popped, and whose write times out, is gone. -/
theorem urgent_lost_on_timeout :
    ¬ (pushMachine.run (PushService.initial 50) [.accept, .advance 0 .done,
      .enqueueUrgent "privacy alert", .advance 0 .done, .advance 0 .timedOut]).UrgentKept := by
  intro kept
  have gone := kept ⟨"privacy alert", true, 0⟩ (by decide)
  revert gone
  decide

end Velvt.Push
