import Mathlib.Data.List.Rotate
import Mathlib.Data.Nat.ModEq
import Velvt.EventRelay

/-!
# The ring of the relay

`CircularBuffer` keeps its elements in a row of slots that closes to a ring.
-/

namespace Velvt.Relay

open StepMachine List

section Ring

/-- `CircularBuffer`. -/
structure CircularBuffer (Element : Type*) where
  storage : List (Option Element)
  head : Nat
  tail : Nat
  count : Nat
  capacity : Nat

namespace CircularBuffer

variable {Element : Type*}

/-- `init(capacity:)`. -/
def new (capacity : Nat) : CircularBuffer Element where
  storage := List.replicate capacity none
  head := 0
  tail := 0
  count := 0
  capacity := capacity

variable (buffer : CircularBuffer Element)

def isEmpty : Bool := buffer.count == 0

def isFull : Bool := buffer.count == buffer.capacity

def slot (index : Nat) : Option Element := (buffer.storage[index]?).join

def setSlot (index : Nat) (value : Option Element) : CircularBuffer Element :=
  { buffer with storage := buffer.storage.set index value }

def enqueue (element : Element) : CircularBuffer Element :=
  let buffer := buffer.setSlot buffer.tail (some element)
  { buffer with
    tail := (buffer.tail + 1) % buffer.capacity
    count := buffer.count + 1 }

def dequeue : Option Element × CircularBuffer Element :=
  if buffer.isEmpty then
    (none, buffer)
  else
    let element := buffer.slot buffer.head
    let buffer := buffer.setSlot buffer.head none
    (element, { buffer with
      head := (buffer.head + 1) % buffer.capacity
      count := buffer.count - 1 })

def dropOldest : CircularBuffer Element :=
  if buffer.isEmpty then
    buffer
  else
    let buffer := buffer.setSlot buffer.head none
    { buffer with
      head := (buffer.head + 1) % buffer.capacity
      count := buffer.count - 1 }

/-- A full ring evicts its newest element, at the slot before the tail. -/
def evictNewest : Option Element × CircularBuffer Element :=
  if buffer.isFull then
    let tail := (buffer.tail + buffer.capacity - 1) % buffer.capacity
    let evicted := buffer.slot tail
    let buffer := buffer.setSlot tail none
    (evicted, { buffer with tail := tail, count := buffer.count - 1 })
  else
    (none, buffer)

def requeueFront (element : Element) : Option Element × CircularBuffer Element :=
  let (evicted, buffer) := buffer.evictNewest
  let head := (buffer.head + buffer.capacity - 1) % buffer.capacity
  let buffer := buffer.setSlot head (some element)
  (evicted, { buffer with head := head, count := buffer.count + 1 })

def contents : List (Option Element) :=
  (List.range buffer.count).map fun offset =>
    buffer.slot ((buffer.head + offset) % buffer.capacity)

end CircularBuffer

inductive BufferOp (Element : Type*)
  | enqueue (element : Element)
  | dequeue
  | dropOldest
  | requeueFront (element : Element)

variable {Element : Type*}

def bufferMachine : Machine (CircularBuffer Element) (BufferOp Element) (Option Element) where
  step buffer
    | .enqueue element => (none, buffer.enqueue element)
    | .dequeue => buffer.dequeue
    | .dropOldest => (none, buffer.dropOldest)
    | .requeueFront element => buffer.requeueFront element

/-- The caller of `enqueue` ensures `!isFull`. -/
def Callable (buffer : CircularBuffer Element) (op : BufferOp Element) : Prop :=
  ∀ element, op = .enqueue element → buffer.isFull = false

end Ring

section Queue

/-- A queue that holds at most so many elements. -/
structure BoundedQueue (Element : Type*) where
  elements : List Element
  capacity : Nat

variable {Element : Type*}

def queueMachine : Machine (BoundedQueue Element) (BufferOp Element) (Option Element) where
  step queue
    | .enqueue element => (none, { queue with elements := queue.elements ++ [element] })
    | .dequeue => (queue.elements.head?, { queue with elements := queue.elements.tail })
    | .dropOldest => (none, { queue with elements := queue.elements.tail })
    | .requeueFront element =>
      if queue.elements.length = queue.capacity then
        (queue.elements.getLast?, { queue with elements := element :: queue.elements.dropLast })
      else
        (none, { queue with elements := element :: queue.elements })

end Queue

section Rotation

variable {α : Type*} {slots : List α}

theorem rotate_set (head offset : Nat) (value : α) (inside : offset < slots.length) :
    (slots.set ((head + offset) % slots.length) value).rotate head =
      (slots.rotate head).set offset value := by
  ext1 index
  by_cases here : index < slots.length
  · have same : (head + offset) % slots.length = (index + head) % slots.length ↔
        offset = index := by
      rw [Nat.add_comm index head]
      constructor
      · intro modEq
        have modEq := Nat.ModEq.add_left_cancel' head modEq
        rwa [Nat.ModEq, Nat.mod_eq_of_lt inside, Nat.mod_eq_of_lt here] at modEq
      · rintro rfl
        rfl
    have positive : 0 < slots.length := by omega
    rw [List.getElem?_rotate (by rwa [length_set]), length_set, List.getElem?_set,
      List.getElem?_set, List.getElem?_rotate here, length_rotate]
    simp only [same, Nat.mod_lt _ positive, inside, if_true]
  · have short : slots.length ≤ index := by omega
    rw [List.getElem?_eq_none (by rwa [length_rotate, length_set]),
      List.getElem?_eq_none (by rwa [length_set, length_rotate])]

theorem rotate_next (head : Nat) :
    slots.rotate ((head + 1) % slots.length) = (slots.rotate head).rotate 1 := by
  rw [rotate_mod, rotate_rotate]

theorem rotate_before (head : Nat) (positive : 0 < slots.length) :
    slots.rotate ((head + slots.length - 1) % slots.length) =
      (slots.rotate head).rotate (slots.length - 1) := by
  rw [rotate_mod, rotate_rotate, Nat.add_sub_assoc positive]

theorem rotate_concat (slots : List α) (last : α) :
    (slots ++ [last]).rotate slots.length = last :: slots :=
  rotate_append_length_eq slots [last]

end Rotation

section Simulation

variable {Element : Type*} {buffer : CircularBuffer Element} {queue : BoundedQueue Element}

/-- The ring holds the elements of the queue: read from the head on they come first, and the
other slots are empty. -/
structure Holds (buffer : CircularBuffer Element) (queue : BoundedQueue Element) : Prop where
  positive : 0 < queue.capacity
  capacity : buffer.capacity = queue.capacity
  fits : queue.elements.length ≤ queue.capacity
  count : buffer.count = queue.elements.length
  head : buffer.head < queue.capacity
  tail : buffer.tail = (buffer.head + queue.elements.length) % queue.capacity
  slots : buffer.storage.rotate buffer.head =
    queue.elements.map some ++ List.replicate (queue.capacity - queue.elements.length) none

namespace Holds

theorem length (holds : Holds buffer queue) : buffer.storage.length = queue.capacity := by
  have fits := holds.fits
  have same := congrArg List.length holds.slots
  rw [length_rotate, length_append, length_map, length_replicate] at same
  omega

theorem new {capacity : Nat} (positive : 1 ≤ capacity) :
    Holds (CircularBuffer.new capacity : CircularBuffer Element) ⟨[], capacity⟩ where
  positive := positive
  capacity := rfl
  fits := Nat.zero_le _
  count := rfl
  head := positive
  tail := (Nat.zero_mod capacity).symm
  slots := rotate_zero _

section

variable (holds : Holds buffer queue)

include holds

theorem slot_eq {offset : Nat} (inside : offset < queue.capacity) :
    buffer.slot ((buffer.head + offset) % buffer.capacity) = queue.elements[offset]? := by
  have rotated := List.getElem?_rotate (n := buffer.head) (holds.length.symm ▸ inside)
  rw [CircularBuffer.slot, holds.capacity, ← holds.length, Nat.add_comm, ← rotated, holds.slots,
    List.getElem?_append, length_map]
  split
  · rename_i isElement
    rw [List.getElem?_map, List.getElem?_eq_getElem isElement]
    rfl
  · rename_i past
    rw [List.getElem?_eq_none (l := queue.elements) (Nat.le_of_not_lt past),
      List.getElem?_replicate_of_lt (by omega)]
    rfl

theorem isFull_iff : buffer.isFull = true ↔ queue.elements.length = queue.capacity := by
  rw [CircularBuffer.isFull, beq_iff_eq, holds.count, holds.capacity]

theorem isEmpty_iff : buffer.isEmpty = true ↔ queue.elements = [] := by
  rw [CircularBuffer.isEmpty, beq_iff_eq, holds.count, length_eq_zero_iff]

theorem setSlot_rotate {offset : Nat} (value : Option Element)
    (inside : offset < queue.capacity) :
    (buffer.storage.set ((buffer.head + offset) % queue.capacity) value).rotate buffer.head =
      (queue.elements.map some ++
        List.replicate (queue.capacity - queue.elements.length) none).set offset value := by
  rw [← holds.slots, ← holds.length, rotate_set _ _ _ (holds.length.symm ▸ inside)]

theorem enqueue (notFull : buffer.isFull = false) (element : Element) :
    Holds (buffer.enqueue element) { queue with elements := queue.elements ++ [element] } := by
  have room : queue.elements.length < queue.capacity := by
    refine lt_of_le_of_ne holds.fits fun full => ?_
    rw [holds.isFull_iff.mpr full] at notFull
    cases notFull
  refine ⟨holds.positive, holds.capacity, ?_, ?_, holds.head, ?_, ?_⟩
  · rw [length_append, length_singleton]
    exact room
  · rw [length_append, length_singleton, ← holds.count]
    rfl
  · change (buffer.tail + 1) % buffer.capacity = _
    rw [holds.tail, holds.capacity, Nat.mod_add_mod, length_append, length_singleton, Nat.add_assoc]
    rfl
  · change (buffer.storage.set buffer.tail (some element)).rotate buffer.head = _
    obtain ⟨left, isLeft⟩ : ∃ left, queue.capacity - queue.elements.length = left + 1 :=
      ⟨queue.capacity - queue.elements.length - 1, by omega⟩
    have rest : queue.capacity - (queue.elements ++ [element]).length = left := by
      rw [length_append, length_singleton]
      omega
    rw [holds.tail, holds.setSlot_rotate _ room, isLeft, rest, replicate_succ,
      set_append_right _ _ (by rw [length_map]), length_map, Nat.sub_self,
      set_cons_zero, map_append, append_assoc]
    rfl

theorem dropFront {first : Element} {others : List Element}
    (elements : queue.elements = first :: others) {next : CircularBuffer Element}
    (isNext : next = { buffer.setSlot buffer.head none with
      head := (buffer.head + 1) % buffer.capacity
      count := buffer.count - 1 }) :
    Holds next { queue with elements := others } := by
  subst isNext
  have length : queue.elements.length = others.length + 1 := by rw [elements, length_cons]
  have fits := holds.fits
  refine ⟨holds.positive, holds.capacity, by change others.length ≤ queue.capacity; omega, ?_,
    ?_, ?_, ?_⟩
  · change buffer.count - 1 = others.length
    rw [holds.count, length, Nat.add_sub_cancel]
  · change (buffer.head + 1) % buffer.capacity < queue.capacity
    rw [holds.capacity]
    exact Nat.mod_lt _ holds.positive
  · change buffer.tail = ((buffer.head + 1) % buffer.capacity + others.length) % queue.capacity
    rw [holds.tail, holds.capacity, Nat.mod_add_mod, length, Nat.add_assoc,
      Nat.add_comm 1 others.length]
  · change (buffer.storage.set buffer.head none).rotate ((buffer.head + 1) % buffer.capacity) = _
    have atHead : buffer.head = (buffer.head + 0) % queue.capacity := by
      rw [Nat.add_zero, Nat.mod_eq_of_lt holds.head]
    have written := holds.setSlot_rotate none holds.positive
    rw [← atHead] at written
    have size : (buffer.storage.set buffer.head none).length = buffer.capacity := by
      rw [length_set, holds.length, holds.capacity]
    obtain ⟨left, isLeft⟩ : ∃ left, queue.capacity - others.length = left + 1 :=
      ⟨queue.capacity - others.length - 1, by omega⟩
    have rest : queue.capacity - (others.length + 1) = left := by omega
    rw [← size, rotate_next, written, elements, length_cons, rest, isLeft, map_cons,
      cons_append, set_cons_zero, rotate_cons_succ, rotate_zero,
      append_assoc, ← replicate_succ']

theorem dequeue : buffer.dequeue.1 = queue.elements.head? ∧
      Holds buffer.dequeue.2 { queue with elements := queue.elements.tail } := by
  rw [CircularBuffer.dequeue]
  cases elements : queue.elements with
  | nil =>
    rw [if_pos (holds.isEmpty_iff.mpr elements)]
    rw [tail_nil, ← elements]
    exact ⟨by rw [elements]; rfl, holds⟩
  | cons first others =>
    have notEmpty : ¬buffer.isEmpty = true := by
      rw [holds.isEmpty_iff, elements]
      exact cons_ne_nil first others
    rw [if_neg notEmpty]
    have front := holds.slot_eq holds.positive
    rw [Nat.add_zero, holds.capacity, Nat.mod_eq_of_lt holds.head, elements] at front
    exact ⟨front, holds.dropFront elements rfl⟩

theorem dropOldest : Holds buffer.dropOldest { queue with elements := queue.elements.tail } := by
  have same : buffer.dropOldest = buffer.dequeue.2 := by
    rw [CircularBuffer.dropOldest, CircularBuffer.dequeue]
    split <;> rfl
  rw [same]
  exact holds.dequeue.2

theorem evictNewest_of_full (full : queue.elements.length = queue.capacity) :
    buffer.evictNewest.1 = queue.elements.getLast? ∧
      Holds buffer.evictNewest.2 { queue with elements := queue.elements.dropLast } := by
  have positive := holds.positive
  obtain ⟨front, newest, elements⟩ : ∃ front newest, queue.elements = front ++ [newest] := by
    refine (eq_nil_or_concat' queue.elements).resolve_left fun empty => ?_
    rw [empty, length_nil] at full
    omega
  have length : front.length + 1 = queue.capacity := by
    rw [← full, elements, length_append, length_singleton]
  have back : (buffer.tail + buffer.capacity - 1) % buffer.capacity =
      (buffer.head + front.length) % queue.capacity := by
    rw [holds.tail, full, holds.capacity, Nat.add_mod_right, Nat.mod_eq_of_lt holds.head,
      ← length, Nat.add_succ_sub_one]
  have inside : front.length < queue.capacity := by omega
  have shorter : queue.elements.dropLast = front := by rw [elements, dropLast_concat]
  rw [CircularBuffer.evictNewest, if_pos (holds.isFull_iff.mpr full), shorter]
  refine ⟨?_, positive, holds.capacity, inside.le, ?_, holds.head, ?_, ?_⟩
  · change buffer.slot ((buffer.tail + buffer.capacity - 1) % buffer.capacity) = _
    have newestSlot := holds.slot_eq inside
    rw [holds.capacity] at newestSlot
    rw [back, newestSlot, elements, List.getElem?_concat_length, List.getLast?_concat]
  · change buffer.count - 1 = front.length
    rw [holds.count, full, ← length, Nat.add_sub_cancel]
  · exact back
  · change (buffer.storage.set ((buffer.tail + buffer.capacity - 1) % buffer.capacity)
      none).rotate buffer.head =
        front.map some ++ List.replicate (queue.capacity - front.length) none
    have left : queue.capacity - front.length = 1 := by omega
    rw [back, holds.setSlot_rotate none inside, full, Nat.sub_self, left, elements,
      replicate_zero, append_nil, map_append,
      set_append_right _ _ (by rw [length_map]), length_map, Nat.sub_self]
    rfl

/-- The new element stands before the head. -/
theorem pushFront (room : queue.elements.length < queue.capacity) (element : Element)
    {next : CircularBuffer Element} (isNext : next =
      { buffer.setSlot ((buffer.head + buffer.capacity - 1) % buffer.capacity) (some element) with
        head := (buffer.head + buffer.capacity - 1) % buffer.capacity
        count := buffer.count + 1 }) :
    Holds next { queue with elements := element :: queue.elements } := by
  subst isNext
  have positive := holds.positive
  obtain ⟨before, isBefore⟩ :
      ∃ before, before = (buffer.head + queue.capacity - 1) % queue.capacity := ⟨_, rfl⟩
  have inside : before < queue.capacity := isBefore ▸ Nat.mod_lt _ positive
  rw [holds.capacity, ← isBefore]
  refine ⟨positive, holds.capacity, room, ?_, inside, ?_, ?_⟩
  · change buffer.count + 1 = queue.elements.length + 1
    rw [holds.count]
  · change buffer.tail = (before + (queue.elements.length + 1)) % queue.capacity
    have around : buffer.head + queue.capacity - 1 + (queue.elements.length + 1) =
        buffer.head + queue.elements.length + queue.capacity := by omega
    rw [holds.tail, isBefore, Nat.mod_add_mod, around, Nat.add_mod_right]
  · change (buffer.storage.set before (some element)).rotate before =
      (element :: queue.elements).map some ++
        List.replicate (queue.capacity - (queue.elements.length + 1)) none
    obtain ⟨left, isLeft⟩ : ∃ left, queue.capacity - queue.elements.length = left + 1 :=
      ⟨queue.capacity - queue.elements.length - 1, by omega⟩
    have rest : queue.capacity - (queue.elements.length + 1) = left := by omega
    have size : (queue.elements.map some ++ List.replicate left (none : Option Element)).length =
        queue.capacity - 1 := by
      rw [length_append, length_map, length_replicate]
      omega
    have rotated : buffer.storage.rotate before =
        none :: (queue.elements.map some ++ List.replicate left none) := by
      rw [isBefore, ← holds.length, rotate_before _ (holds.length.symm ▸ positive), holds.slots,
        isLeft, replicate_succ', ← append_assoc, holds.length, ← size, rotate_concat]
    have atBefore : (before + 0) % buffer.storage.length = before := by
      rw [holds.length, Nat.add_zero, Nat.mod_eq_of_lt inside]
    have written := rotate_set before 0 (some element)
      (show 0 < buffer.storage.length from holds.length.symm ▸ positive)
    rw [atBefore, rotated, set_cons_zero] at written
    rw [written, rest, map_cons, cons_append]

theorem requeueFront (element : Element) :
    (buffer.requeueFront element).1 = queueMachine.answer queue (.requeueFront element) ∧
      Holds (buffer.requeueFront element).2 (queueMachine.next queue (.requeueFront element)) := by
  rw [Machine.answer, Machine.next]
  by_cases full : queue.elements.length = queue.capacity
  · obtain ⟨evicted, shorter⟩ := holds.evictNewest_of_full full
    have room : queue.elements.dropLast.length < queue.capacity := by
      have positive := holds.positive
      rw [length_dropLast]
      omega
    simp only [queueMachine, if_pos full]
    exact ⟨evicted, shorter.pushFront room element rfl⟩
  · have kept : buffer.evictNewest = (none, buffer) := by
      rw [CircularBuffer.evictNewest, if_neg (holds.isFull_iff.not.mpr full)]
    have room := lt_of_le_of_ne holds.fits full
    simp only [queueMachine, if_neg full, CircularBuffer.requeueFront, kept]
    exact ⟨trivial, holds.pushFront room element rfl⟩

theorem step (op : BufferOp Element) (callable : Callable buffer op) :
    bufferMachine.answer buffer op = queueMachine.answer queue op ∧
      Holds (bufferMachine.next buffer op) (queueMachine.next queue op) := by
  cases op with
  | enqueue element => exact ⟨rfl, holds.enqueue (callable element rfl) element⟩
  | dequeue => exact holds.dequeue
  | dropOldest => exact ⟨rfl, holds.dropOldest⟩
  | requeueFront element => exact holds.requeueFront element

end

theorem queueMachine_capacity (queue : BoundedQueue Element) (op : BufferOp Element) :
    (queueMachine.next queue op).capacity = queue.capacity := by
  cases op with
  | requeueFront element =>
    simp only [queueMachine, Machine.next]
    split <;> rfl
  | _ => rfl

theorem contents_eq (holds : Holds buffer queue) :
    buffer.contents = queue.elements.map some := by
  ext1 offset
  rw [CircularBuffer.contents, holds.count, List.getElem?_map, List.getElem?_map]
  by_cases inside : offset < queue.elements.length
  · rw [List.getElem?_range inside, List.getElem?_eq_getElem inside, Option.map_some,
      holds.slot_eq (inside.trans_le holds.fits), List.getElem?_eq_getElem inside]
    rfl
  · have past := Nat.le_of_not_lt inside
    rw [List.getElem?_eq_none (by rwa [length_range]), List.getElem?_eq_none past]
    rfl

theorem slot_eq_none (holds : Holds buffer queue) {index : Nat} (isSlot : index < buffer.capacity)
    (outside : ∀ offset < buffer.count, (buffer.head + offset) % buffer.capacity ≠ index) :
    buffer.slot index = none := by
  have head := holds.head
  rw [holds.capacity] at isSlot
  obtain ⟨offset, inside, isIndex⟩ : ∃ offset < queue.capacity,
      (buffer.head + offset) % buffer.capacity = index := by
    rw [holds.capacity]
    by_cases ahead : buffer.head ≤ index
    · exact ⟨index - buffer.head, by omega, by
        rw [Nat.add_sub_cancel' ahead, Nat.mod_eq_of_lt isSlot]⟩
    · refine ⟨index + queue.capacity - buffer.head, by omega, ?_⟩
      rw [Nat.add_sub_cancel' (by omega), Nat.add_mod_right, Nat.mod_eq_of_lt isSlot]
  have past : queue.elements.length ≤ offset := by
    by_contra before
    exact outside offset (by rw [holds.count]; omega) isIndex
  rw [← isIndex, holds.slot_eq inside, List.getElem?_eq_none past]

end Holds

/-- Whatever is called on a ring, it answers what a plain list would and holds what the list
holds, from the head on; it never holds more than fits, and its other slots are empty. -/
theorem ring_is_bounded_queue (capacity : Nat) (positive : 1 ≤ capacity)
    (ops : List (BufferOp Element))
    (callable : bufferMachine.Meets Callable (CircularBuffer.new capacity) ops) :
    bufferMachine.answers (CircularBuffer.new capacity) ops =
        queueMachine.answers ⟨[], capacity⟩ ops ∧
      (bufferMachine.run (CircularBuffer.new capacity) ops).contents =
        (queueMachine.run ⟨[], capacity⟩ ops).elements.map some ∧
      (bufferMachine.run (CircularBuffer.new capacity) ops).count ≤ capacity ∧
      ∀ index < capacity,
        (∀ offset < (bufferMachine.run (CircularBuffer.new capacity) ops).count,
          ((bufferMachine.run (CircularBuffer.new capacity) ops).head + offset) % capacity ≠
            index) →
          (bufferMachine.run (CircularBuffer.new capacity) ops).slot index = none := by
  obtain ⟨answers, holds, sameCapacity⟩ := bufferMachine.simulation_run
    (fun buffer queue op (simulates : Holds buffer queue ∧ queue.capacity = capacity) callable =>
      (⟨(simulates.1.step op callable).1, (simulates.1.step op callable).2,
        (Holds.queueMachine_capacity queue op).trans simulates.2⟩ :
          bufferMachine.answer buffer op = queueMachine.answer queue op ∧ _))
    ⟨Holds.new positive, rfl⟩ callable
  generalize bufferMachine.run (CircularBuffer.new capacity) ops = buffer at holds ⊢
  generalize queueMachine.run ⟨[], capacity⟩ ops = queue at holds sameCapacity ⊢
  obtain rfl : buffer.capacity = capacity := holds.capacity.trans sameCapacity
  refine ⟨answers, holds.contents_eq, ?_, fun index => holds.slot_eq_none⟩
  rw [holds.count, holds.capacity]
  exact holds.fits

/-- A full ring of one slot takes an element back. -/
theorem one_slot_is_bounded_queue :
    (bufferMachine.run (CircularBuffer.new 1)
      [.enqueue 'a', .requeueFront 'b', .dequeue, .enqueue 'c']).contents = [some 'c'] := by
  have callable : bufferMachine.Meets Callable (CircularBuffer.new 1)
      [.enqueue 'a', .requeueFront 'b', .dequeue, .enqueue 'c'] := by
    simp [bufferMachine, Callable, Machine.next, CircularBuffer.new, CircularBuffer.isFull,
      CircularBuffer.dequeue, CircularBuffer.requeueFront, CircularBuffer.evictNewest,
      CircularBuffer.enqueue, CircularBuffer.setSlot, CircularBuffer.isEmpty]
  exact (ring_is_bounded_queue 1 le_rfl _ callable).2.1

end Simulation

section Relay

variable {relay : EventRelay}

def EventRelay.ring (relay : EventRelay) : BoundedQueue Nat := ⟨relay.ringBuffer, relay.capacity⟩

theorem ring_requeueFront (fits : relay.ringBuffer.length ≤ relay.capacity) (event : Nat) :
    (relay.requeueFront event).ring = queueMachine.next relay.ring (.requeueFront event) := by
  rw [EventRelay.requeueFront]
  by_cases full : relay.ringBuffer.length = relay.capacity
  · rw [if_pos full.ge]
    simp only [EventRelay.ring, queueMachine, Machine.next, if_pos full]
  · rw [if_neg (by omega)]
    simp only [EventRelay.ring, queueMachine, Machine.next, if_neg full]

theorem ring_bufferEvent (fits : relay.ringBuffer.length ≤ relay.capacity) (event : Nat) :
    (relay.bufferEvent event).ring = queueMachine.run relay.ring
      (if relay.ringBuffer.length = relay.capacity then [.dropOldest, .enqueue event]
        else [.enqueue event]) := by
  rw [EventRelay.bufferEvent]
  by_cases full : relay.ringBuffer.length = relay.capacity
  · rw [if_pos full.ge, if_pos full]
    rfl
  · rw [if_neg (by omega), if_neg full]
    rfl

end Relay

end Velvt.Relay
