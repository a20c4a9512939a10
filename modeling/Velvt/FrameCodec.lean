import Mathlib.Data.List.Infix
import Velvt.StepMachine

/-!
# Reading frames

A frame is what a client sends before a newline.  The connection loop races the read of a frame
against its pushes and drops it when another branch wins; what was read so far stays in a buffer,
and the next read goes on with it.  However the bytes arrive and wherever a read is dropped, the
frames are the pieces of the stream between its newlines.
-/

namespace Velvt.FrameCodec

open StepMachine List Option

def maxFrameBytes : Nat := 64 * 1024

def newline : UInt8 := 10

inductive IpcError
  | transport
  | malformedMessage
  | frameTooLarge

/-- What `read_frame` returns. -/
abbrev FrameAnswer := Except IpcError (Option (List UInt8))

/-- How the bytes of a client come to an end. -/
inductive Ending
  | closed
  | broken

/-- A call of `read_frame` that waits for its next byte. -/
structure ReadFrame where
  byte : UInt8

/-- A call of `read_frame` after a poll.  There is no answer while it waits. -/
structure Polled where
  answer : Option FrameAnswer
  call : ReadFrame
  arrived : List UInt8
  pending : List UInt8

/-- One poll of `read_frame`, which reads what has arrived. -/
def pollFrame (ending : Option Ending) : ReadFrame → List UInt8 → List UInt8 → Polled
  | call, [], pending =>
    match ending with
    | none => { answer := none, call, arrived := [], pending }
    | some .broken => { answer := some (.error .transport), call, arrived := [], pending }
    | some .closed =>
      if pending.isEmpty then { answer := some (.ok none), call, arrived := [], pending }
      else
        { answer := some (.error .malformedMessage), call, arrived := [], pending := [] }
  | _, byte :: arrived, pending =>
    if byte = newline then
      { answer := some (.ok (some pending)), call := { byte }, arrived, pending := [] }
    else if maxFrameBytes ≤ pending.length then
      { answer := some (.error .frameTooLarge), call := { byte }, arrived, pending := [] }
    else
      pollFrame ending { byte } arrived (pending ++ [byte])

def readsOn : FrameAnswer → Bool
  | .ok (some _) => true
  | .ok none | .error _ => false

/-- The loop of a connection, as far as it reads frames. -/
structure Connection where
  /-- Everything that has arrived. -/
  received : List UInt8
  /-- What has arrived and was not read. -/
  arrived : List UInt8
  ending : Option Ending
  pendingFrame : List UInt8
  /-- The read that waits, if there is one. -/
  call : Option ReadFrame
  returned : List FrameAnswer

namespace Connection

def initial : Connection where
  received := []
  arrived := []
  ending := none
  pendingFrame := []
  call := none
  returned := []

variable (connection : Connection)

/-- The loop reads on after a frame, and returns after anything else. -/
def stopped : Bool :=
  connection.returned.any fun answer => !readsOn answer

def polled : Polled :=
  pollFrame connection.ending (connection.call.getD { byte := 0 }) connection.arrived
    connection.pendingFrame

end Connection

inductive ReadStep
  | arrives (bytes : List UInt8)
  | ends (ending : Ending)
  | polls
  /-- Another branch of the loop wins. -/
  | drops

def connectionLoop : Machine Connection ReadStep (Option FrameAnswer) where
  step connection
    | .arrives bytes =>
      (none,
        if connection.ending.isSome then connection
        else
          { connection with
            received := connection.received ++ bytes
            arrived := connection.arrived ++ bytes })
    | .ends ending =>
      (none,
        if connection.ending.isSome then connection else { connection with ending := some ending })
    | .polls =>
      if connection.stopped then (none, connection)
      else
        (connection.polled.answer,
          { connection with
            arrived := connection.polled.arrived
            pendingFrame := connection.polled.pending
            call := if connection.polled.answer.isSome then none else some connection.polled.call
            returned := connection.returned ++ connection.polled.answer.toList })
    | .drops => (none, { connection with call := none })

section Pieces

def pieces (stream : List UInt8) : List (List UInt8) := stream.splitOn newline

def lastAnswer (ending : Ending) (last : List UInt8) : FrameAnswer :=
  if maxFrameBytes < last.length then .error .frameTooLarge
  else
    match ending with
    | .broken => .error .transport
    | .closed => if last.isEmpty then .ok none else .error .malformedMessage

/-- The pieces one after the other, up to the first that is too long. -/
def answers (ending : Ending) : List (List UInt8) → List FrameAnswer
  | [] => []
  | [last] => [lastAnswer ending last]
  | piece :: next :: rest =>
    if maxFrameBytes < piece.length then [.error .frameTooLarge]
    else .ok (some piece) :: answers ending (next :: rest)

/-- A part of a frame that may still grow to one. -/
structure Begun (pending : List UInt8) : Prop where
  unended : newline ∉ pending
  short : pending.length ≤ maxFrameBytes

variable {ending : Ending} {pending rest : List UInt8} {byte : UInt8}

theorem begun_nil : Begun [] where
  unended := not_mem_nil
  short := Nat.zero_le _

theorem answers_pieces_frame (part : Begun pending) :
    answers ending (pieces (pending ++ newline :: rest)) =
      .ok (some pending) :: answers ending (pieces rest) := by
  rw [pieces, splitOn_append_cons_self_of_not_mem part.unended]
  obtain ⟨next, others, isRest⟩ := exists_cons_of_ne_nil (splitOn_ne_nil newline rest)
  rw [pieces, isRest, answers, if_neg (Nat.not_lt.mpr part.short)]

theorem answers_pieces_long (unended : newline ∉ pending) (long : maxFrameBytes < pending.length) :
    answers ending (pieces (pending ++ rest)) = [.error .frameTooLarge] := by
  by_cases ended : newline ∈ rest
  · obtain ⟨front, later, rfl, isFirst⟩ := eq_append_cons_of_mem ended
    have unendedFirst : newline ∉ pending ++ front := by
      simp [unended, isFirst]
    have longer : maxFrameBytes < (pending ++ front).length := by
      rw [length_append]
      omega
    rw [pieces, ← append_assoc, splitOn_append_cons_self_of_not_mem unendedFirst]
    obtain ⟨next, others, isRest⟩ := exists_cons_of_ne_nil (splitOn_ne_nil newline later)
    rw [isRest, answers, if_pos longer]
  · have none : newline ∉ pending ++ rest := by
      simp [unended, ended]
    have longer : maxFrameBytes < (pending ++ rest).length := by
      rw [length_append]
      omega
    rw [pieces, splitOn_eq_singleton none, answers]
    unfold lastAnswer
    rw [if_pos longer]

theorem answers_pieces_last (part : Begun pending) :
    answers ending (pieces pending) = [match ending with
      | .broken => .error .transport
      | .closed => if pending.isEmpty then .ok none else .error .malformedMessage] := by
  rw [pieces, splitOn_eq_singleton part.unended, answers]
  unfold lastAnswer
  rw [if_neg (Nat.not_lt.mpr part.short)]

end Pieces

section Polls

variable {ending : Ending} {arrived pending later : List UInt8} {call : ReadFrame}

/-- The bytes after those that have arrived, where the stream ends as given. -/
def Continues (seen : Option Ending) (ending : Ending) (later : List UInt8) : Prop :=
  seen = none ∨ seen = some ending ∧ later = []

def left (ending : Ending) (later : List UInt8) (polled : Polled) : List FrameAnswer :=
  answers ending (pieces (polled.pending ++ polled.arrived ++ later))

def frameBytes : FrameAnswer → List UInt8
  | .ok (some frame) => frame ++ [newline]
  | .ok none | .error _ => []

/-- A poll comes to the next of the answers, if to any, and leaves the rest of them. -/
structure PollSpec (seen : Option Ending) (arrived pending : List UInt8) (polled : Polled) :
    Prop where
  begun : Begun polled.pending
  waits : polled.answer = none → seen = none
  answered : ∀ ending later, Continues seen ending later →
    answers ending (pieces (pending ++ arrived ++ later)) =
      match polled.answer with
      | none => left ending later polled
      | some answer => answer :: if readsOn answer then left ending later polled else []
  kept : (∀ answer ∈ polled.answer, readsOn answer = true) →
    polled.answer.toList.flatMap frameBytes ++ polled.pending ++ polled.arrived = pending ++ arrived

/-- A poll leaves a piece of a frame, or hands out a whole one. -/
theorem pollFrame_spec {seen : Option Ending} (begun : Begun pending) :
    PollSpec seen arrived pending (pollFrame seen call arrived pending) := by
  fun_induction pollFrame seen call arrived pending with
  | case1 call pending isSeen =>
    exact ⟨begun, fun _ => isSeen, fun _ _ _ => rfl, fun _ => rfl⟩
  | case2 call pending isSeen =>
    refine ⟨begun, (nomatch ·), ?_, fun goesOn => absurd (goesOn _ rfl) Bool.false_ne_true⟩
    subst isSeen
    rintro ending later (isNone | ⟨⟨⟩, rfl⟩)
    · cases isNone
    · rw [append_nil, append_nil, answers_pieces_last begun]
      rfl
  | case3 call pending isSeen empty =>
    refine ⟨begun, (nomatch ·), ?_, fun goesOn => absurd (goesOn _ rfl) Bool.false_ne_true⟩
    subst isSeen
    rintro ending later (isNone | ⟨⟨⟩, rfl⟩)
    · cases isNone
    · rw [append_nil, append_nil, answers_pieces_last begun, if_pos empty]
      rfl
  | case4 call pending isSeen some_pending =>
    refine ⟨begun_nil, (nomatch ·), ?_, fun goesOn => absurd (goesOn _ rfl) Bool.false_ne_true⟩
    subst isSeen
    rintro ending later (isNone | ⟨⟨⟩, rfl⟩)
    · cases isNone
    · rw [append_nil, append_nil, answers_pieces_last begun, if_neg some_pending]
      rfl
  | case5 call arrived pending =>
    refine ⟨begun_nil, (nomatch ·), ?_, ?_⟩
    · intro ending later _
      rw [append_assoc, cons_append, answers_pieces_frame begun]
      rfl
    · intro _
      simp [frameBytes]
  | case6 call byte arrived pending other full =>
    refine ⟨begun_nil, (nomatch ·), ?_, fun goesOn => absurd (goesOn _ rfl) Bool.false_ne_true⟩
    intro ending later _
    have unended : newline ∉ pending ++ [byte] := by
      simp [begun.unended, Ne.symm other]
    have long : maxFrameBytes < (pending ++ [byte]).length := by
      rw [length_append, length_singleton]
      omega
    have tooLong := @answers_pieces_long ending _ (arrived ++ later) unended long
    rw [append_assoc, singleton_append] at tooLong
    rw [append_assoc, cons_append, tooLong]
    rfl
  | case7 call byte arrived pending other short ih =>
    have grown : Begun (pending ++ [byte]) := by
      constructor
      · simp [begun.unended, Ne.symm other]
      · rw [length_append, length_singleton]
        omega
    have spec := ih grown
    refine ⟨spec.begun, spec.waits, ?_, ?_⟩
    · intro ending later continues
      rw [← spec.answered ending later continues]
      simp only [append_assoc, cons_append, nil_append]
    · intro goesOn
      rw [spec.kept goesOn, append_assoc, singleton_append]

end Polls

section Runs

variable {connection : Connection}

/-- What was returned, and what is left to return, are the answers to the whole stream. -/
structure Framed (connection : Connection) : Prop where
  begun : Begun connection.pendingFrame
  kept : connection.stopped = false →
    connection.returned.flatMap frameBytes ++ connection.pendingFrame ++ connection.arrived =
      connection.received
  same : ∀ ending later, Continues connection.ending ending later →
    connection.returned ++ (if connection.stopped then []
      else answers ending (pieces (connection.pendingFrame ++ connection.arrived ++ later))) =
        answers ending (pieces (connection.received ++ later))

theorem framed_initial : Framed .initial where
  begun := begun_nil
  kept _ := rfl
  same _ _ _ := rfl

theorem Framed.polls (framed : Framed connection) :
    Framed (connectionLoop.next connection .polls) := by
  unfold Machine.next connectionLoop
  dsimp only
  split
  next => exact framed
  next reading =>
    rw [Bool.not_eq_true] at reading
    have spec : PollSpec connection.ending connection.arrived connection.pendingFrame
        connection.polled := pollFrame_spec framed.begun
    generalize connection.polled = polled at spec
    refine ⟨spec.begun, ?_, ?_⟩
    · intro readingOn
      have goesOn : ∀ answer ∈ polled.answer, readsOn answer = true := by
        intro answer isAnswer
        simp only [Connection.stopped, any_append, Bool.or_eq_false_iff] at readingOn
        simpa using any_eq_false.mp readingOn.2 answer (mem_toList.mpr isAnswer)
      rw [← framed.kept reading, flatMap_append, append_assoc, append_assoc,
        append_assoc, ← spec.kept goesOn, append_assoc]
    · intro ending later continues
      have same := framed.same ending later continues
      rw [reading, if_neg Bool.false_ne_true, spec.answered ending later continues] at same
      rw [← same, append_assoc]
      congr 1
      have stops : connection.returned.any (fun answer => !readsOn answer) = false := reading
      cases isAnswer : polled.answer with
      | none =>
        simp [Connection.stopped, stops, left]
      | some answer =>
        cases reads : readsOn answer <;> simp [Connection.stopped, stops, left, reads]

theorem Framed.next (connection : Connection) (step : ReadStep) (framed : Framed connection) :
    Framed (connectionLoop.next connection step) := by
  cases step with
  | polls => exact framed.polls
  | drops => exact ⟨framed.begun, framed.kept, framed.same⟩
  | arrives bytes =>
    unfold Machine.next connectionLoop
    dsimp only
    split
    next => exact framed
    next unended =>
      rw [Bool.not_eq_true, isSome_eq_false_iff, isNone_iff_eq_none] at unended
      refine ⟨framed.begun, ?_, ?_⟩
      · intro reading
        rw [← framed.kept reading, append_assoc _ connection.arrived]
      · intro ending later _
        have same := framed.same ending (bytes ++ later) (Or.inl unended)
        simpa only [Connection.stopped, append_assoc] using same
  | ends ending =>
    unfold Machine.next connectionLoop
    dsimp only
    split
    next => exact framed
    next unended =>
      rw [Bool.not_eq_true, isSome_eq_false_iff, isNone_iff_eq_none] at unended
      refine ⟨framed.begun, framed.kept, ?_⟩
      exact fun other later _ => framed.same other later (Or.inl unended)

theorem framed_run (steps : List ReadStep) : Framed (connectionLoop.run .initial steps) :=
  connectionLoop.invariant_run_of_forall Framed.next steps framed_initial

variable {ending : Ending}

theorem Framed.answers_begin (framed : Framed connection)
    (ended : connection.ending = some ending) :
    connection.returned <+: answers ending (pieces connection.received) := by
  have same := framed.same ending [] (Or.inr ⟨ended, rfl⟩)
  rw [append_nil connection.received] at same
  exact ⟨_, same⟩

theorem Framed.stopped (framed : Framed connection)
    (ended : connection.ending = some ending) (isStopped : connection.stopped = true) :
    connection.returned = answers ending (pieces connection.received) := by
  have same := framed.same ending [] (Or.inr ⟨ended, rfl⟩)
  rwa [if_pos isStopped, append_nil, append_nil] at same

theorem next_polls_ending (connection : Connection) :
    (connectionLoop.next connection .polls).ending = connection.ending ∧
      (connectionLoop.next connection .polls).received = connection.received := by
  unfold Machine.next connectionLoop
  dsimp only
  split <;> exact ⟨rfl, rfl⟩

theorem next_polls_of_stopped (isStopped : connection.stopped = true) :
    connectionLoop.next connection .polls = connection := by
  unfold Machine.next connectionLoop
  dsimp only
  rw [if_pos isStopped]

theorem Framed.answers_next (framed : Framed connection)
    (ended : connection.ending = some ending) (reading : connection.stopped = false) :
    connection.returned.length < (connectionLoop.next connection .polls).returned.length := by
  have spec : PollSpec connection.ending connection.arrived connection.pendingFrame
      connection.polled := pollFrame_spec framed.begun
  have answers : connection.polled.answer ≠ none := by
    intro waits
    rw [spec.waits waits] at ended
    cases ended
  obtain ⟨answer, isAnswer⟩ := ne_none_iff_exists'.mp answers
  unfold Machine.next connectionLoop
  dsimp only
  rw [if_neg (by simp [reading]), isAnswer, toList_some, length_append, length_singleton]
  omega

theorem Framed.run_polls (framed : Framed connection)
    (ended : connection.ending = some ending) (more : Nat) :
    let later := connectionLoop.run connection (List.replicate more .polls)
    Framed later ∧ later.ending = some ending ∧ later.received = connection.received ∧
      (later.stopped = true ∨ more ≤ later.returned.length) := by
  induction more with
  | zero => exact ⟨framed, ended, rfl, Or.inr (Nat.zero_le _)⟩
  | succ more ih =>
    rw [replicate_succ', Machine.run_append]
    generalize connectionLoop.run connection (List.replicate more .polls) = later at ih ⊢
    obtain ⟨framedLater, endedLater, received, progress⟩ := ih
    obtain ⟨sameEnding, sameReceived⟩ := next_polls_ending later
    refine ⟨framedLater.polls, sameEnding.trans endedLater, sameReceived.trans received, ?_⟩
    show (connectionLoop.next later .polls).stopped = true ∨
      more + 1 ≤ (connectionLoop.next later .polls).returned.length
    cases reading : later.stopped with
    | true =>
      left
      rwa [next_polls_of_stopped reading]
    | false =>
      have answered := framedLater.answers_next endedLater reading
      rw [reading] at progress
      simp only [Bool.false_eq_true, false_or] at progress
      right
      omega

/-- However the bytes of a stream arrive and wherever reads are dropped, what was returned is the
beginning of the answers to the pieces of the stream, whatever is still to arrive of it, and all of
them once it has come to an end and was polled enough.  While the loop reads on, no byte is lost,
kept twice or moved. -/
theorem frames_are_pieces (steps : List ReadStep) {ending : Ending} {later : List UInt8}
    (continues : Continues (connectionLoop.run .initial steps).ending ending later) :
    let connection := connectionLoop.run .initial steps
    let expected := answers ending (pieces (connection.received ++ later))
    connection.returned <+: expected ∧
      (connection.stopped = false →
        connection.returned.flatMap frameBytes ++ connection.pendingFrame ++
          connection.arrived = connection.received) ∧
        (connection.ending = some ending → ∀ more, expected.length ≤ more →
          (connectionLoop.run .initial (steps ++ List.replicate more .polls)).returned =
            expected) := by
  have framed := framed_run steps
  refine ⟨⟨_, framed.same ending later continues⟩, framed.kept, ?_⟩
  intro ended more enough
  have none : later = [] := by
    rcases continues with unended | ⟨-, none⟩
    · rw [unended] at ended
      cases ended
    · exact none
  obtain ⟨framedLater, endedLater, received, progress⟩ := framed.run_polls ended more
  rw [none, append_nil, ← received] at enough ⊢
  rw [Machine.run_append]
  rcases progress with stops | longer
  · exact framedLater.stopped endedLater stops
  · exact (framedLater.answers_begin endedLater).eq_of_length_le (enough.trans longer)

/-- A frame that arrives in two parts, with a read dropped between them. -/
def interruptedSteps : List ReadStep :=
  [.arrives [97], .polls, .drops, .arrives [98, newline], .polls, .ends .closed]

/-- Nothing but the whole frame is returned. -/
theorem interrupted_frame_is_resumed :
    (connectionLoop.run .initial interruptedSteps).returned <+:
      answers .closed (pieces [97, 98, newline]) := by
  have continues : Continues (connectionLoop.run .initial interruptedSteps).ending .closed [] :=
    Or.inr ⟨rfl, rfl⟩
  exact (frames_are_pieces interruptedSteps continues).1

end Runs

end Velvt.FrameCodec
