import Velvt.FrameCodec

/-!
# Frames across the socket

Both sides end a message with a newline.  The app's transport buffers what comes in and cuts frames
off the front, so the app reads the messages of the service, waiting for no more than a newline.
-/

namespace Velvt.FrameTransport

open StepMachine List FrameCodec

/-- What `send(frame:)` and `write_server_message` write, one message after the other. -/
def wire (messages : List (List UInt8)) : List UInt8 :=
  messages.flatMap (· ++ [newline])

inductive IPCError
  | socket (code : Int)
  | connectionClosed

/-- The transport of one connection; `waiting` while a call of `receiveFrame` awaits a chunk. -/
structure UnixSocketTransport where
  connection : Bool
  bufferedData : List UInt8
  waiting : Bool
  /-- Everything that has come in. -/
  received : List UInt8
  returned : List (Except IPCError (List UInt8))

namespace UnixSocketTransport

def connected : UnixSocketTransport where
  connection := true
  bufferedData := []
  waiting := false
  received := []
  returned := []

variable (transport : UnixSocketTransport)

def throws (error : IPCError) : UnixSocketTransport :=
  { transport with waiting := false, returned := transport.returned ++ [.error error] }

/-- Up to where it awaits a chunk. -/
def receiveFrame : UnixSocketTransport :=
  match transport.bufferedData.idxOf? newline with
  | some index =>
    { transport with
      waiting := false
      bufferedData := transport.bufferedData.drop (index + 1)
      returned := transport.returned ++ [.ok (transport.bufferedData.take index)] }
  | none =>
    if transport.connection then { transport with waiting := true }
    else transport.throws .connectionClosed

/-- The completion handler, and `receiveFrame` from there on. -/
def receives (data : List UInt8) (complete : Bool) (error : Option Int) : UnixSocketTransport :=
  let transport := { transport with received := transport.received ++ data }
  match error with
  | some code => transport.throws (.socket code)
  | none =>
    if complete && data.isEmpty then transport.throws .connectionClosed
    else { transport with bufferedData := transport.bufferedData ++ data }.receiveFrame

def close : UnixSocketTransport :=
  { transport with connection := false, bufferedData := [] }

/-- The transport is connected, and no call has thrown. -/
def reading : Bool :=
  transport.connection && transport.returned.all Except.isOk

end UnixSocketTransport

inductive TransportStep
  | receiveFrame
  | receives (data : List UInt8) (complete : Bool) (error : Option Int)
  | close

/-- The client calls `receiveFrame` from one task at a time. -/
def transportMachine : Machine UnixSocketTransport TransportStep Unit where
  step transport
    | .receiveFrame => ((), if transport.waiting then transport else transport.receiveFrame)
    | .receives data complete error =>
      ((), if transport.waiting then transport.receives data complete error else transport)
    | .close => ((), transport.close)

variable {messages frames : List (List UInt8)} {rest data : List UInt8}

theorem pieces_wire (unended : ∀ frame ∈ frames, newline ∉ frame) :
    pieces (wire frames ++ rest) = frames ++ pieces rest := by
  induction frames with
  | nil => rfl
  | cons frame frames ih =>
    obtain ⟨first, later⟩ := forall_mem_cons.mp unended
    rw [wire, flatMap_cons, append_assoc, append_assoc, singleton_append, pieces,
      splitOn_append_cons_self_of_not_mem first]
    exact congrArg (frame :: ·) (ih later)

/-- What was cut off a beginning of the messages is a beginning of them. -/
theorem frames_begin (cut : ∀ frame ∈ frames, newline ∉ frame)
    (unended : ∀ message ∈ messages, newline ∉ message) (sent : wire frames ++ rest = wire messages) :
    frames <+: messages := by
  have both : frames ++ pieces rest = messages ++ pieces [] := by
    rw [← pieces_wire cut, ← pieces_wire unended, sent, append_nil]
  have some_rest := length_pos_iff.mpr (splitOn_ne_nil newline rest)
  have lengths := congrArg length both
  simp only [length_append, pieces, splitOn_nil, length_singleton] at lengths
  exact prefix_of_prefix_length_le ⟨pieces rest, both⟩ (prefix_append ..) (by omega)

theorem cut_of_idxOf {index : Nat} (found : data.idxOf? newline = some index) :
    newline ∉ data.take index ∧ data.take index ++ newline :: data.drop (index + 1) = data := by
  obtain ⟨short, isNewline, first⟩ := findIdx?_eq_some_iff_getElem.mp found
  refine ⟨?_, ?_⟩
  · intro member
    obtain ⟨earlier, before, isEarlier⟩ := getElem_of_mem member
    rw [length_take] at before
    rw [getElem_take] at isEarlier
    exact first earlier (by omega) (by simp [isEarlier])
  · rw [← eq_of_beq isNewline, ← drop_eq_getElem_cons short, take_append_drop]

/-- The frames that were returned and what is buffered are all that came in. -/
def Kept (transport : UnixSocketTransport) : Prop :=
  ∃ frames, (∀ frame ∈ frames, newline ∉ frame) ∧ transport.returned = frames.map .ok ∧
    wire frames ++ transport.bufferedData = transport.received

/-- While the transport reads, it keeps everything, and a call waits for a newline only. -/
structure Read (transport : UnixSocketTransport) : Prop where
  kept : transport.reading = true → Kept transport
  waits : transport.waiting = true → newline ∉ transport.bufferedData

namespace Read

variable {transport : UnixSocketTransport}

theorem throws (error : IPCError) : Read (transport.throws error) := by
  constructor <;>
    simp [UnixSocketTransport.throws, UnixSocketTransport.reading, Except.isOk, Except.toBool]

theorem receiveFrame (kept : transport.reading = true → Kept transport) :
    Read transport.receiveFrame := by
  rw [UnixSocketTransport.receiveFrame]
  split
  next index found =>
    obtain ⟨unended, whole⟩ := cut_of_idxOf found
    refine ⟨?_, nofun⟩
    intro reading
    obtain ⟨frames, cut, returned, isReceived⟩ := kept (by simp_all [UnixSocketTransport.reading])
    refine ⟨frames ++ [transport.bufferedData.take index], ?_, ?_, ?_⟩
    · simpa [or_imp, forall_and] using ⟨cut, unended⟩
    · simp [returned]
    · rw [← isReceived, wire, flatMap_append]
      simpa [wire] using whole
  next missing =>
    split
    · exact ⟨kept, fun _ => idxOf?_eq_none_iff.mp missing⟩
    · exact throws ..

theorem next (transport : UnixSocketTransport) (step : TransportStep) (read : Read transport) :
    Read (transportMachine.next transport step) := by
  cases step with
  | receiveFrame =>
    show Read (if transport.waiting then transport else transport.receiveFrame)
    split
    · exact read
    · exact receiveFrame read.kept
  | receives data complete error =>
    show Read (if transport.waiting then transport.receives data complete error else transport)
    split
    · unfold UnixSocketTransport.receives
      dsimp only
      split
      · exact throws ..
      · split
        · exact throws ..
        · refine receiveFrame fun reading => ?_
          obtain ⟨frames, cut, returned, isReceived⟩ := read.kept reading
          exact ⟨frames, cut, returned, by rw [← isReceived, append_assoc]⟩
    · exact read
  | close => exact ⟨nofun, fun _ => not_mem_nil⟩

end Read

/-- However the bytes come in, the app reads the messages the service wrote, in order and none
twice, and no message that is there as a whole keeps a call waiting. -/
theorem app_reads_what_was_written (steps : List TransportStep)
    (unended : ∀ message ∈ messages, newline ∉ message)
    (sent : (transportMachine.run .connected steps).received ++ rest = wire messages)
    (reading : (transportMachine.run .connected steps).reading = true) :
    let transport := transportMachine.run .connected steps
    transport.returned <+: messages.map .ok ∧
      (transport.waiting = true → ∀ arrived ≤ messages.length,
        wire (messages.take arrived) <+: transport.received →
          arrived ≤ transport.returned.length) := by
  have read : Read (transportMachine.run .connected steps) :=
    transportMachine.invariant_run_of_forall Read.next steps ⟨fun _ => ⟨[], nofun, rfl, rfl⟩, nofun⟩
  intro transport
  obtain ⟨frames, cut, returned, isReceived⟩ := read.kept reading
  rw [returned]
  refine ⟨(frames_begin cut unended (by rw [← sent, ← isReceived, append_assoc])).map _, ?_⟩
  · rintro waiting arrived within ⟨later, isLater⟩
    have both : frames ++ [transport.bufferedData] = messages.take arrived ++ pieces later := by
      rw [← pieces_wire fun message member => unended message (mem_of_mem_take member), isLater,
        ← isReceived, pieces_wire cut, pieces, splitOn_eq_singleton (read.waits waiting)]
    have some_later := length_pos_iff.mpr (splitOn_ne_nil newline later)
    have lengths := congrArg length both
    simp only [length_append, length_take, length_singleton, pieces] at lengths
    rw [length_map]
    omega

/-- The second message is on its way while the app waits for it. -/
def awaitingSteps : List TransportStep :=
  [.receiveFrame, .receives [97, newline, 98] false none, .receiveFrame]

/-- The messages come back whole and in their order. -/
theorem awaited_message_is_kept :
    (transportMachine.run .connected awaitingSteps).returned <+: [.ok [97], .ok [98]] := by
  have unended : ∀ message ∈ [[97], [98]], newline ∉ message := by decide
  exact (@app_reads_what_was_written [[97], [98]] [newline] awaitingSteps unended rfl rfl).1

end Velvt.FrameTransport
