import Mathlib.Data.List.Pairwise
import Velvt.PushQueue

/-!
# The order of pushed messages

One deque holds the urgent messages in front of the others.
-/

namespace Velvt.Push

open StepMachine List

/-- The messages that the adapter pushes about the session, and every other one. -/
inductive ServerMessage (Session Other : Type*)
  | shuttingDown (reason : String)
  | deviceRevoked (message : String)
  | needsReauth (reason : String)
  | authSessionUpdated (session : Session)
  | other (payload : Other)
  deriving DecidableEq

def ServerMessage.decidesLogin {Session Other : Type*} : ServerMessage Session Other → Bool
  | .deviceRevoked _ | .needsReauth _ | .authSessionUpdated _ => true
  | .shuttingDown _ | .other _ => false

section Model

variable {Message : Type*}

inductive QueueCall (Message : Type*)
  | enqueue (message : Message)
  | enqueueUrgent (message : Message)
  | tryPop

/-- A queue with the messages that were popped and those that were given to `enqueue`, both in
the order of the calls. -/
structure QueueHistory (Message : Type*) where
  queue : PushQueue Message
  given : Nat
  popped : List (QueuedMessage Message)
  enqueued : List (QueuedMessage Message)

namespace QueueHistory

def initial (capacity : Nat) : QueueHistory Message where
  queue := { inner := [], capacity := capacity }
  given := 0
  popped := []
  enqueued := []

variable (history : QueueHistory Message)

def entry (message : Message) (urgent : Bool) : QueuedMessage Message where
  message := message
  urgent := urgent
  number := history.given

def enqueue (message : Message) : QueueHistory Message :=
  { history with
    queue := history.queue.enqueue (history.entry message false)
    given := history.given + 1
    enqueued := history.enqueued ++ [history.entry message false] }

def enqueueUrgent (message : Message) : QueueHistory Message :=
  { history with
    queue := history.queue.enqueueUrgent (history.entry message true)
    given := history.given + 1 }

def tryPop : QueueHistory Message :=
  { history with
    queue := history.queue.tryPop.2
    popped := history.popped ++ history.queue.tryPop.1.toList }

/-- The messages that were popped, and those in the queue, in the order in which they leave. -/
def leaving : List (QueuedMessage Message) := history.popped ++ history.queue.inner

def leavingOf (urgent : Bool) : List (QueuedMessage Message) :=
  history.leaving.filter fun entry => entry.urgent == urgent

/-- The messages given to `enqueue` that were not popped. -/
def notPopped : List (QueuedMessage Message) :=
  history.enqueued.filter fun entry => decide (entry.number ∉ history.popped.map (·.number))

def routine : List (QueuedMessage Message) :=
  history.queue.inner.filter fun entry => entry.urgent == false

end QueueHistory

def queueMachine : Machine (QueueHistory Message) (QueueCall Message) (Option Message) where
  step history
    | .enqueue message => (none, history.enqueue message)
    | .enqueueUrgent message => (none, history.enqueueUrgent message)
    | .tryPop => (history.queue.tryPop.1.map (·.message), history.tryPop)

end Model

section Adapter

variable {Session Other : Type*}

def pushShuttingDown (reason : String) : QueueCall (ServerMessage Session Other) :=
  .enqueueUrgent (.shuttingDown reason)

def pushDeviceRevoked (message : String) : QueueCall (ServerMessage Session Other) :=
  .enqueueUrgent (.deviceRevoked message)

def pushNeedsReauth (reason : String) : QueueCall (ServerMessage Session Other) :=
  .enqueueUrgent (.needsReauth reason)

def pushAuthSessionUpdated (session : Session) : QueueCall (ServerMessage Session Other) :=
  .enqueueUrgent (.authSessionUpdated session)

/-- The urgent messages about the login state, in the order in which they leave. -/
def QueueHistory.loginMessages (history : QueueHistory (ServerMessage Session Other)) :
    List (QueuedMessage (ServerMessage Session Other)) :=
  history.leaving.filter fun entry => entry.urgent && entry.message.decidesLogin

/-- What the order of a queue promises after some calls. -/
structure Ordered (history : QueueHistory (ServerMessage Session Other)) : Prop where
  /-- A message that is not urgent is popped only when no urgent one is there. -/
  urgentFirst : ∀ entry ∈ history.queue.tryPop.1, entry.urgent = false →
    ∀ other ∈ history.queue.inner, other.urgent = false
  /-- Messages of one urgency leave in the order in which they were given. -/
  inOrder : ∀ urgent, (history.leavingOf urgent).Pairwise fun first second =>
    first.number < second.number
  /-- An urgent message stays until it is popped. -/
  urgentStays : ∀ call, ∀ entry ∈ history.queue.inner, entry.urgent = true →
    entry ∈ (queueMachine.next history call).queue.inner ∨
      call = .tryPop ∧ history.queue.tryPop.1 = some entry
  bounded : ∀ message, (queueMachine.next history (.enqueue message)).queue.inner.length ≤
    max history.queue.capacity history.queue.inner.length
  /-- The messages in the queue that are not urgent are the last ones given. -/
  recent : history.routine <:+ history.notPopped
  /-- The last of the messages about the login state leaves last. -/
  lastLogin : ∀ entry ∈ history.loginMessages,
    (∀ other ∈ history.loginMessages, other.number ≤ entry.number) →
      history.loginMessages.getLast? = some entry

/-- No urgent message is given while another one waits. -/
def UrgentAlone {Message : Type*} (history : QueueHistory Message) : QueueCall Message → Prop
  | .enqueueUrgent _ => ∀ entry ∈ history.queue.inner, entry.urgent = false
  | .enqueue _ | .tryPop => True

end Adapter

section Steps

variable {Message : Type*}

/-- The urgent messages stand in front of the others. -/
structure Parted (inner urgents routines : List (QueuedMessage Message)) : Prop where
  inner : inner = urgents ++ routines
  urgents : ∀ entry ∈ urgents, entry.urgent = true
  routines : ∀ entry ∈ routines, entry.urgent = false

namespace Parted

variable {inner urgents routines : List (QueuedMessage Message)}

theorem filter_routine (parted : Parted inner urgents routines) :
    (inner.filter fun entry => entry.urgent == false) = routines := by
  rw [parted.inner, filter_append, filter_eq_nil_iff.mpr, filter_eq_self.mpr, nil_append]
  · intro entry member
    rw [parted.routines entry member]
    rfl
  · intro entry member
    rw [parted.urgents entry member]
    decide

theorem filter_urgent (parted : Parted inner urgents routines) :
    (inner.filter fun entry => entry.urgent == true) = urgents := by
  rw [parted.inner, filter_append, filter_eq_self.mpr, filter_eq_nil_iff.mpr, append_nil]
  · intro entry member
    rw [parted.routines entry member]
    decide
  · intro entry member
    rw [parted.urgents entry member]
    rfl

theorem evictable {queue : PushQueue Message} (parted : Parted queue.inner urgents routines) :
    queue.evictable = if routines = [] then none else some urgents.length := by
  have none : urgents.findIdx? (fun entry => !entry.urgent) = none := by
    rw [List.findIdx?_eq_none_iff]
    intro entry member
    rw [parted.urgents entry member]
    rfl
  rw [PushQueue.evictable, parted.inner, List.findIdx?_append, none]
  cases isRoutines : routines with
  | nil => rfl
  | cons oldest later =>
    have isRoutine : oldest.urgent = false :=
      parted.routines oldest (isRoutines ▸ mem_cons_self)
    simp [List.findIdx?_cons, isRoutine]

theorem enqueue {queue : PushQueue Message} (parted : Parted queue.inner urgents routines)
    {entry : QueuedMessage Message} (routine : entry.urgent = false) :
    ∃ later, Parted (queue.enqueue entry).inner urgents later ∧
      (later = [] ∨ ∃ kept, kept <:+ routines ∧ later = kept ++ [entry]) ∧
      (queue.enqueue entry).inner.length ≤ max queue.capacity queue.inner.length := by
  have behind {kept : List (QueuedMessage Message)} (suffix : kept <:+ routines) :
      ∀ other ∈ kept ++ [entry], other.urgent = false := by
    intro other member
    rcases mem_append.mp member with old | new
    · exact parted.routines other (suffix.subset old)
    · rw [mem_singleton.mp new]
      exact routine
  unfold PushQueue.enqueue
  split
  next full =>
    rw [parted.evictable]
    cases isRoutines : routines with
    | nil =>
      refine ⟨[], ?_, Or.inl rfl, ?_⟩
      · rw [if_pos rfl]
        exact isRoutines ▸ parted
      · rw [if_pos rfl]
        exact Nat.le_max_right _ _
    | cons oldest kept =>
      have suffix : kept <:+ routines := isRoutines ▸ suffix_cons oldest kept
      refine ⟨kept ++ [entry], ⟨?_, parted.urgents, behind suffix⟩,
        Or.inr ⟨kept, isRoutines ▸ suffix, rfl⟩, ?_⟩
      · rw [if_neg (cons_ne_nil _ _)]
        simp [parted.inner, isRoutines, eraseIdx_append_of_length_le]
      · rw [if_neg (cons_ne_nil _ _)]
        refine Nat.le_trans (Nat.le_of_eq ?_) (Nat.le_max_right _ _)
        simp [parted.inner, isRoutines, eraseIdx_append_of_length_le]
  next roomy =>
    refine ⟨routines ++ [entry], ⟨?_, parted.urgents, behind (suffix_refl _)⟩,
      Or.inr ⟨routines, suffix_refl _, rfl⟩, ?_⟩
    · rw [← append_assoc, ← parted.inner]
    · rw [length_append, length_singleton]
      exact Nat.le_trans (by omega) (Nat.le_max_left _ _)

end Parted

variable {history : QueueHistory Message}

/-- What holds of the queue after any calls. -/
structure Sound (history : QueueHistory Message) : Prop where
  parted : ∃ urgents routines, Parted history.queue.inner urgents routines
  earlier : ∀ entry ∈ history.leaving, entry.number < history.given
  enqueued : ∀ entry ∈ history.enqueued, entry.number < history.given
  /-- No number is both of an urgent message and of another one. -/
  apart : ∀ entry ∈ history.leaving, entry.urgent = true →
    ∀ other ∈ history.enqueued, other.number ≠ entry.number
  routineInOrder : (history.leavingOf false).Pairwise fun first second =>
    first.number < second.number
  recent : history.routine <:+ history.notPopped

theorem sound_initial (capacity : Nat) : Sound (.initial capacity : QueueHistory Message) where
  parted := ⟨[], [], rfl, by simp, by simp⟩
  earlier := by simp [QueueHistory.leaving, QueueHistory.initial]
  enqueued := by simp [QueueHistory.initial]
  apart := by simp [QueueHistory.leaving, QueueHistory.initial]
  routineInOrder := .nil
  recent := suffix_refl _

theorem leavingOf_eq (urgent : Bool) :
    history.leavingOf urgent = (history.popped.filter fun entry => entry.urgent == urgent) ++
      history.queue.inner.filter fun entry => entry.urgent == urgent :=
  filter_append ..

theorem leaving_tryPop (history : QueueHistory Message) :
    history.tryPop.leaving = history.leaving := by
  unfold QueueHistory.tryPop QueueHistory.leaving PushQueue.tryPop
  cases history.queue.inner with
  | nil => simp
  | cons first rest => simp

theorem mem_leaving {entry : QueuedMessage Message} :
    entry ∈ history.leaving ↔ entry ∈ history.popped ∨ entry ∈ history.queue.inner :=
  mem_append

theorem notPopped_enqueue (sound : Sound history) (message : Message) :
    (history.enqueue message).notPopped =
      history.notPopped ++ [history.entry message false] := by
  have fresh : history.given ∉ history.popped.map (·.number) := by
    intro member
    obtain ⟨entry, popped, same⟩ := mem_map.mp member
    exact Nat.ne_of_lt (sound.earlier entry (mem_leaving.mpr (Or.inl popped))) same
  unfold QueueHistory.notPopped QueueHistory.enqueue
  rw [filter_append, filter_singleton]
  simp [QueueHistory.entry, fresh]

/-- A call that enqueues keeps what holds of the queue. -/
theorem Sound.enqueue (sound : Sound history) (message : Message) :
    Sound (history.enqueue message) := by
  obtain ⟨urgents, routines, parted⟩ := sound.parted
  have isRoutine : (history.entry message false).urgent = false := rfl
  obtain ⟨later, partedNext, isLater, -⟩ := parted.enqueue isRoutine
  have partedNext : Parted (history.enqueue message).queue.inner urgents later := partedNext
  have laterSublist : later.Sublist (routines ++ [history.entry message false]) := by
    rcases isLater with rfl | ⟨kept, suffix, rfl⟩
    · exact nil_sublist _
    · exact suffix.sublist.append (List.Sublist.refl _)
  have old : ∀ entry ∈ (history.enqueue message).leaving,
      entry ∈ history.leaving ∨ entry = history.entry message false := by
    intro entry member
    rcases mem_leaving.mp member with popped | inside
    · exact Or.inl (mem_leaving.mpr (Or.inl popped))
    · rw [partedNext.inner] at inside
      rcases mem_append.mp inside with isUrgent | isLate
      · left
        rw [mem_leaving, parted.inner]
        exact Or.inr (mem_append_left _ isUrgent)
      · rcases mem_append.mp (laterSublist.subset isLate) with isOld | isNew
        · left
          rw [mem_leaving, parted.inner]
          exact Or.inr (mem_append_right _ isOld)
        · exact Or.inr (mem_singleton.mp isNew)
  refine ⟨⟨urgents, later, partedNext⟩, ?_, ?_, ?_, ?_, ?_⟩
  · intro entry member
    rcases old entry member with isOld | rfl
    · exact Nat.lt_succ_of_lt (sound.earlier entry isOld)
    · exact Nat.lt_succ_self _
  · intro entry member
    rcases mem_append.mp member with isOld | isNew
    · exact Nat.lt_succ_of_lt (sound.enqueued entry isOld)
    · rw [mem_singleton.mp isNew]
      exact Nat.lt_succ_self _
  · intro entry member urgent other isOther
    rcases old entry member with isOld | rfl
    · rcases mem_append.mp isOther with before | new
      · exact sound.apart entry isOld urgent other before
      · rw [mem_singleton.mp new]
        exact Nat.ne_of_gt (sound.earlier entry isOld)
    · cases isRoutine.symm.trans urgent
  · rw [leavingOf_eq, partedNext.filter_routine]
    have before := sound.routineInOrder
    rw [leavingOf_eq, parted.filter_routine] at before
    have all : ((history.popped.filter fun entry => entry.urgent == false) ++
        (routines ++ [history.entry message false])).Pairwise fun first second =>
          first.number < second.number := by
      rw [← append_assoc, pairwise_append]
      refine ⟨before, pairwise_singleton _ _, ?_⟩
      intro entry member other isNew
      rw [mem_singleton.mp isNew]
      apply sound.earlier
      rw [mem_leaving, parted.inner]
      rcases mem_append.mp member with popped | inside
      · exact Or.inl (mem_filter.mp popped).1
      · exact Or.inr (mem_append_right _ inside)
    exact all.sublist (List.Sublist.append (List.Sublist.refl _) laterSublist)
  · have routine : (history.enqueue message).routine = later := partedNext.filter_routine
    have before := sound.recent
    rw [QueueHistory.routine, parted.filter_routine] at before
    rw [routine, notPopped_enqueue sound]
    rcases isLater with rfl | ⟨kept, suffix, rfl⟩
    · exact nil_suffix
    · exact suffix_append_inj_of_length_eq rfl |>.mpr ⟨suffix.trans before, rfl⟩

theorem Parted.enqueueUrgent {urgents routines : List (QueuedMessage Message)}
    (parted : Parted history.queue.inner urgents routines) (message : Message) :
    Parted (history.enqueueUrgent message).queue.inner
      (history.entry message true :: urgents) routines where
  inner := congrArg (history.entry message true :: ·) parted.inner
  urgents := forall_mem_cons.mpr ⟨rfl, parted.urgents⟩
  routines := parted.routines

theorem Sound.enqueueUrgent (sound : Sound history) (message : Message) :
    Sound (history.enqueueUrgent message) := by
  obtain ⟨urgents, routines, parted⟩ := sound.parted
  have partedNext := parted.enqueueUrgent message
  have old : ∀ entry ∈ (history.enqueueUrgent message).leaving,
      entry ∈ history.leaving ∨ entry = history.entry message true := by
    intro entry member
    rcases mem_leaving.mp member with popped | inside
    · exact Or.inl (mem_leaving.mpr (Or.inl popped))
    · rcases mem_cons.mp inside with rfl | before
      · exact Or.inr rfl
      · exact Or.inl (mem_leaving.mpr (Or.inr before))
  refine ⟨⟨_, routines, partedNext⟩, ?_, ?_, ?_, ?_, ?_⟩
  · intro entry member
    rcases old entry member with isOld | rfl
    · exact Nat.lt_succ_of_lt (sound.earlier entry isOld)
    · exact Nat.lt_succ_self _
  · exact fun entry member => Nat.lt_succ_of_lt (sound.enqueued entry member)
  · intro entry member urgent other isOther
    rcases old entry member with isOld | rfl
    · exact sound.apart entry isOld urgent other isOther
    · exact Nat.ne_of_lt (sound.enqueued other isOther)
  · have before := sound.routineInOrder
    rw [leavingOf_eq, parted.filter_routine] at before
    rw [leavingOf_eq, partedNext.filter_routine]
    exact before
  · have before := sound.recent
    rw [QueueHistory.routine, parted.filter_routine] at before
    rw [QueueHistory.routine, partedNext.filter_routine]
    exact before

theorem notPopped_of_urgent (sound : Sound history) {first : QueuedMessage Message}
    {rest : List (QueuedMessage Message)} (isInner : history.queue.inner = first :: rest)
    (urgent : first.urgent = true) : history.tryPop.notPopped = history.notPopped := by
  have isFirst : first ∈ history.leaving :=
    mem_leaving.mpr (Or.inr (isInner ▸ mem_cons_self))
  simp only [QueueHistory.notPopped, QueueHistory.tryPop, PushQueue.tryPop, isInner]
  apply filter_congr
  intro entry member
  have apart := sound.apart first isFirst urgent entry member
  simp [apart]

theorem notPopped_tryPop {first : QueuedMessage Message} {rest : List (QueuedMessage Message)}
    (isInner : history.queue.inner = first :: rest) :
    history.tryPop.notPopped =
      history.notPopped.filter fun entry => decide (entry.number ≠ first.number) := by
  have popped : history.tryPop.popped = history.popped ++ [first] := by
    rw [QueueHistory.tryPop, PushQueue.tryPop, isInner]
    rfl
  have enqueued : history.tryPop.enqueued = history.enqueued := rfl
  rw [QueueHistory.notPopped, QueueHistory.notPopped, popped, enqueued, filter_filter, map_append]
  apply filter_congr
  intro entry _
  rw [Bool.eq_iff_iff]
  simp [or_comm]

theorem Parted.tryPop {urgents routines : List (QueuedMessage Message)}
    (parted : Parted history.queue.inner urgents routines) :
    ∃ urgents routines, Parted history.tryPop.queue.inner urgents routines := by
  have inner : history.tryPop.queue.inner = history.queue.inner.tail := rfl
  cases urgents with
  | nil =>
    refine ⟨[], routines.tail, ?_, by simp, ?_⟩
    · rw [inner, parted.inner]
      rfl
    · exact fun entry member => parted.routines entry (mem_of_mem_tail member)
  | cons first urgents =>
    refine ⟨urgents, routines, ?_, ?_, parted.routines⟩
    · rw [inner, parted.inner]
      rfl
    · exact fun entry member => parted.urgents entry (mem_cons_of_mem _ member)

theorem recent_tryPop (sound : Sound history) :
    history.tryPop.routine <:+ history.tryPop.notPopped := by
  have recent := sound.recent
  cases isInner : history.queue.inner with
  | nil =>
    have none : history.tryPop.routine = [] := by
      simp [QueueHistory.routine, QueueHistory.tryPop, PushQueue.tryPop, isInner]
    rw [none]
    exact nil_suffix
  | cons first rest =>
    have routineNext : history.tryPop.routine =
        rest.filter fun entry => entry.urgent == false := by
      simp [QueueHistory.routine, QueueHistory.tryPop, PushQueue.tryPop, isInner]
    rw [QueueHistory.routine, isInner] at recent
    cases urgent : first.urgent with
    | true =>
      rw [notPopped_of_urgent sound isInner urgent, routineNext]
      simpa [urgent] using recent
    | false =>
      have ordered := sound.routineInOrder
      rw [leavingOf_eq, isInner] at ordered
      have later := (pairwise_append.mp ordered).2.1
      rw [filter_cons, urgent] at recent later
      obtain ⟨after, -⟩ := pairwise_cons.mp later
      -- The popped message goes from both lists.
      have without := recent.filter fun entry => decide (entry.number ≠ first.number)
      have stays : ((first :: rest.filter fun entry => entry.urgent == false).filter
          fun entry => decide (entry.number ≠ first.number)) =
            rest.filter fun entry => entry.urgent == false := by
        rw [filter_cons, if_neg (by simp)]
        apply filter_eq_self.mpr
        intro entry member
        exact decide_eq_true (Nat.ne_of_gt (after entry member))
      rw [notPopped_tryPop isInner, routineNext, ← stays]
      exact without

theorem Sound.tryPop (sound : Sound history) : Sound history.tryPop := by
  obtain ⟨urgents, routines, parted⟩ := sound.parted
  refine ⟨parted.tryPop, ?_, sound.enqueued, ?_, ?_, recent_tryPop sound⟩
  · rw [leaving_tryPop]
    exact sound.earlier
  · rw [leaving_tryPop]
    exact sound.apart
  · rw [QueueHistory.leavingOf, leaving_tryPop]
    exact sound.routineInOrder

theorem sound_next (history : QueueHistory Message) (call : QueueCall Message)
    (sound : Sound history) : Sound (queueMachine.next history call) := by
  cases call with
  | enqueue message => exact sound.enqueue message
  | enqueueUrgent message => exact sound.enqueueUrgent message
  | tryPop => exact sound.tryPop

/-- The urgent messages leave in the order in which they were given. -/
def UrgentInOrder (history : QueueHistory Message) : Prop :=
  (history.leavingOf true).Pairwise fun first second => first.number < second.number

/-- An urgent message keeps the order only where no other one is waiting. -/
theorem urgentInOrder_next (sound : Sound history) (ordered : UrgentInOrder history)
    (call : QueueCall Message) :
    UrgentInOrder (queueMachine.next history call) ↔ UrgentAlone history call := by
  obtain ⟨urgents, routines, parted⟩ := sound.parted
  unfold UrgentInOrder at ordered ⊢
  rw [leavingOf_eq, parted.filter_urgent] at ordered
  cases call with
  | enqueue message =>
    have isRoutine : (history.entry message false).urgent = false := rfl
    obtain ⟨later, partedNext, -, -⟩ := parted.enqueue isRoutine
    have partedNext : Parted (history.enqueue message).queue.inner urgents later := partedNext
    show ((history.enqueue message).leavingOf true).Pairwise _ ↔ True
    rw [leavingOf_eq, partedNext.filter_urgent]
    exact iff_true_intro ordered
  | tryPop =>
    show (history.tryPop.leavingOf true).Pairwise _ ↔ True
    rw [QueueHistory.leavingOf, leaving_tryPop]
    rw [← parted.filter_urgent, ← leavingOf_eq] at ordered
    exact iff_true_intro ordered
  | enqueueUrgent message =>
    have partedNext := parted.enqueueUrgent message
    show ((history.enqueueUrgent message).leavingOf true).Pairwise _ ↔
      ∀ entry ∈ history.queue.inner, entry.urgent = false
    rw [leavingOf_eq, partedNext.filter_urgent]
    have alone : (∀ entry ∈ history.queue.inner, entry.urgent = false) ↔ urgents = [] := by
      rw [parted.inner]
      constructor
      · intro none
        apply eq_nil_iff_forall_not_mem.mpr
        intro entry member
        cases (none entry (mem_append_left _ member)).symm.trans (parted.urgents entry member)
      · rintro rfl
        exact parted.routines
    rw [alone]
    constructor
    · intro inOrder
      apply eq_nil_iff_forall_not_mem.mpr
      intro waiting member
      -- The new message would leave before one with a smaller number.
      have front := (pairwise_append.mp inOrder).2.1
      have behind := (pairwise_cons.mp front).1 waiting member
      have before : waiting.number < history.given := by
        apply sound.earlier
        rw [mem_leaving, parted.inner]
        exact Or.inr (mem_append_left _ member)
      exact Nat.lt_asymm before behind
    · rintro rfl
      rw [append_nil] at ordered
      refine pairwise_append.mpr ⟨ordered, pairwise_singleton _ _, ?_⟩
      intro entry member other isNew
      rw [mem_singleton.mp isNew]
      apply sound.earlier
      exact mem_leaving.mpr (Or.inl (mem_filter.mp member).1)

theorem Sound.urgentStays (sound : Sound history) (call : QueueCall Message) :
    ∀ entry ∈ history.queue.inner, entry.urgent = true →
      entry ∈ (queueMachine.next history call).queue.inner ∨
        call = .tryPop ∧ history.queue.tryPop.1 = some entry := by
  obtain ⟨urgents, routines, parted⟩ := sound.parted
  intro entry member urgent
  cases call with
  | enqueue message =>
    have isRoutine : (history.entry message false).urgent = false := rfl
    obtain ⟨later, partedNext, -, -⟩ := parted.enqueue isRoutine
    have isUrgent : entry ∈ urgents := by
      rw [← parted.filter_urgent]
      exact mem_filter.mpr ⟨member, beq_iff_eq.mpr urgent⟩
    left
    show entry ∈ (history.queue.enqueue (history.entry message false)).inner
    rw [partedNext.inner]
    exact mem_append_left _ isUrgent
  | enqueueUrgent message => exact Or.inl (mem_cons_of_mem _ member)
  | tryPop =>
    show entry ∈ history.queue.inner.tail ∨ _ ∧ history.queue.inner.head? = some entry
    cases isInner : history.queue.inner with
    | nil =>
      rw [isInner] at member
      cases member
    | cons first rest =>
      rw [isInner] at member
      rcases mem_cons.mp member with rfl | later
      · exact Or.inr ⟨rfl, rfl⟩
      · exact Or.inl later

theorem Sound.urgentFirst (sound : Sound history) :
    ∀ entry ∈ history.queue.tryPop.1, entry.urgent = false →
      ∀ other ∈ history.queue.inner, other.urgent = false := by
  obtain ⟨urgents, routines, parted⟩ := sound.parted
  intro entry isFirst routine
  have isFirst : history.queue.inner.head? = some entry := isFirst
  cases urgents with
  | nil =>
    rw [parted.inner]
    exact parted.routines
  | cons first urgents =>
    rw [parted.inner] at isFirst
    obtain rfl := Option.some.inj isFirst
    cases routine.symm.trans (parted.urgents first mem_cons_self)

theorem Sound.bounded (sound : Sound history) (message : Message) :
    (queueMachine.next history (.enqueue message)).queue.inner.length ≤
      max history.queue.capacity history.queue.inner.length := by
  obtain ⟨urgents, routines, parted⟩ := sound.parted
  have isRoutine : (history.entry message false).urgent = false := rfl
  obtain ⟨later, -, -, bounded⟩ := parted.enqueue isRoutine
  exact bounded

theorem getLast?_of_greatest {entries : List (QueuedMessage Message)}
    (inOrder : entries.Pairwise fun first second => first.number < second.number)
    {entry : QueuedMessage Message} (member : entry ∈ entries)
    (greatest : ∀ other ∈ entries, other.number ≤ entry.number) :
    entries.getLast? = some entry := by
  obtain ⟨before, after, rfl⟩ := append_of_mem member
  cases after with
  | nil => simp
  | cons next after =>
    have behind := (pairwise_cons.mp (pairwise_append.mp inOrder).2.1).1 next mem_cons_self
    have bounded := greatest next (by simp)
    exact absurd behind (Nat.not_lt_of_le bounded)

end Steps

section Runs

variable {Session Other : Type*}

theorem ordered_iff {history : QueueHistory (ServerMessage Session Other)}
    (sound : Sound history) : Ordered history ↔ UrgentInOrder history := by
  constructor
  · exact fun ordered => ordered.inOrder true
  · intro urgentInOrder
    refine ⟨sound.urgentFirst, ?_, sound.urgentStays, sound.bounded, sound.recent, ?_⟩
    · intro urgent
      cases urgent with
      | false => exact sound.routineInOrder
      | true => exact urgentInOrder
    · intro entry member greatest
      have ofUrgent : history.loginMessages =
          (history.leavingOf true).filter fun entry => entry.message.decidesLogin := by
        rw [QueueHistory.leavingOf, filter_filter]
        apply filter_congr
        intro other _
        rw [beq_true, Bool.and_comm]
      have inOrder : history.loginMessages.Pairwise fun first second =>
          first.number < second.number := by
        rw [ofUrgent]
        exact urgentInOrder.filter _
      exact getLast?_of_greatest inOrder member greatest

/-- Throughout a run the queue is in order exactly when no urgent message is given to it while
another one waits. -/
theorem ordered_iff_urgent_alone (capacity : Nat)
    (calls : List (QueueCall (ServerMessage Session Other))) :
    (∀ earlier, earlier <+: calls → Ordered (queueMachine.run (.initial capacity) earlier)) ↔
      queueMachine.Meets UrgentAlone (.initial capacity) calls := by
  have sound := @sound_initial (ServerMessage Session Other) capacity
  have steps (history : QueueHistory (ServerMessage Session Other))
      (call : QueueCall (ServerMessage Session Other)) (sound : Sound history)
      (ordered : Ordered history) :
      Ordered (queueMachine.next history call) ↔ UrgentAlone history call := by
    rw [ordered_iff (sound_next history call sound)]
    exact urgentInOrder_next sound ((ordered_iff sound).mp ordered) call
  have orderedInitial : Ordered (.initial capacity : QueueHistory (ServerMessage Session Other)) :=
    (ordered_iff sound).mpr List.Pairwise.nil
  exact queueMachine.forall_prefix_iff_meets sound_next steps sound orderedInitial calls

/-- The session expires while an updated session waits to be delivered: the client is told to
log in again first, and gets the old session afterwards. -/
theorem expiry_overtakes_session :
    ¬ Ordered (queueMachine.run (.initial 50 : QueueHistory (ServerMessage String Unit))
      [pushAuthSessionUpdated "session", pushNeedsReauth "expired", .tryPop, .tryPop]) := by
  intro ordered
  have last := ordered.lastLogin ⟨.needsReauth "expired", true, 1⟩ (by decide) (by decide)
  revert last
  decide

end Runs

end Velvt.Push
