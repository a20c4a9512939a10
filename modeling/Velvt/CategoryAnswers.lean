import Velvt.StepMachine

/-!
# The answers to the category card

The coordinator of the card that asks for categories lives on the main actor.  Its sends form a
chain, each waiting for the one before it; an answer whose send fails is kept in one slot until
the next refresh.  Requests and answers carry here the order in which they were given.
-/

namespace Velvt.CategoryPrompts

open StepMachine List

structure CategoryPromptCard where
  title : String
  body : String
  primaryAction : String
  secondaryAction : String
  entryCount : Int

structure CategoryPromptNotification where
  title : String
  body : String

/-- The service's reply. -/
structure CategoryPrompt where
  promptID : Option String
  card : Option CategoryPromptCard
  notification : Option CategoryPromptNotification

structure PresentedCategoryPrompt where
  promptID : String
  card : CategoryPromptCard

inductive CategoryPromptResponse
  | opened
  | notNow
  deriving DecidableEq

structure AcknowledgeCategoryPrompt where
  promptID : String
  response : CategoryPromptResponse
  deriving DecidableEq

structure RequestCategoryPrompt where
  utcOffsetSeconds : Int
  deriving DecidableEq

/-- A request, with the offset clamped to the range that the schema accepts. -/
def RequestCategoryPrompt.clamped (utcOffsetSeconds : Int) : RequestCategoryPrompt where
  utcOffsetSeconds := min (max utcOffsetSeconds (-64800)) 64800

inductive ClientMessage
  | requestCategoryPrompt (request : RequestCategoryPrompt)
  | acknowledgeCategoryPrompt (answer : AcknowledgeCategoryPrompt)
  deriving DecidableEq

/-- An answer, with its place among all that was given. -/
structure GivenAnswer where
  number : Nat
  answer : AcknowledgeCategoryPrompt
  deriving DecidableEq

/-- A link of the send chain. -/
structure Queued where
  number : Nat
  message : ClientMessage
  deriving DecidableEq

def GivenAnswer.queued (given : GivenAnswer) : Queued where
  number := given.number
  message := .acknowledgeCategoryPrompt given.answer

structure CategoryPromptCoordinator where
  prompt : Option PresentedCategoryPrompt
  lastPromptID : Option String
  answeredPromptID : Option String
  pendingOpened : Bool
  pendingAnswer : Option GivenAnswer
  /-- The sends that have not settled yet, in the order of the chain. -/
  sendChain : List Queued
  /-- The reminders that were handed over to be posted. -/
  posted : List CategoryPromptNotification
  /-- How many requests and answers were given. -/
  givenCount : Nat
  /-- The answers that were accepted for a card. -/
  accepted : List GivenAnswer
  /-- What has reached the service. -/
  sent : List Queued
  /-- The cards that were answered, and that every reply since has carried. -/
  answeredHere : List String

namespace CategoryPromptCoordinator

def initial : CategoryPromptCoordinator where
  prompt := none
  lastPromptID := none
  answeredPromptID := none
  pendingOpened := false
  pendingAnswer := none
  sendChain := []
  posted := []
  givenCount := 0
  accepted := []
  sent := []
  answeredHere := []

variable (coordinator : CategoryPromptCoordinator)

def send (message : ClientMessage) : CategoryPromptCoordinator :=
  { coordinator with
    sendChain := coordinator.sendChain ++ [{ number := coordinator.givenCount, message }]
    givenCount := coordinator.givenCount + 1 }

def acknowledge (given : GivenAnswer) : CategoryPromptCoordinator :=
  { coordinator with sendChain := coordinator.sendChain ++ [given.queued] }

def refresh (utcOffsetSeconds : Int) : CategoryPromptCoordinator :=
  let request := ClientMessage.requestCategoryPrompt (.clamped utcOffsetSeconds)
  match coordinator.pendingAnswer with
  | some given =>
    ({ coordinator with pendingAnswer := none }.acknowledge given).send request
  | none => coordinator.send request

/-- `answer(_ promptID:, _ response:)`. -/
def answerCard (promptID : String) (response : CategoryPromptResponse) :
    CategoryPromptCoordinator :=
  let given : GivenAnswer := {
    number := coordinator.givenCount
    answer := { promptID, response } }
  { coordinator with
    answeredPromptID := some promptID
    givenCount := coordinator.givenCount + 1
    accepted := coordinator.accepted ++ [given]
    answeredHere := promptID :: coordinator.answeredHere }.acknowledge given

def answer (response : CategoryPromptResponse) (utcOffsetSeconds : Int) :
    CategoryPromptCoordinator :=
  let shown := coordinator.prompt.map (·.promptID)
  let closed := { coordinator with prompt := none }
  match shown.or (if response = .opened then coordinator.lastPromptID else none) with
  | some promptID => closed.answerCard promptID response
  | none =>
    if response = .opened then
      { closed with pendingOpened := true }.refresh utcOffsetSeconds
    else
      closed

/-- The first part of `apply`: a tap that had no card to answer. -/
def answerOpened (reply : CategoryPrompt) : CategoryPromptCoordinator :=
  if coordinator.pendingOpened then
    match reply.promptID with
    | some promptID =>
      { coordinator with
        pendingOpened := false
        lastPromptID := some promptID }.answerCard promptID .opened
    | none => { coordinator with pendingOpened := false }
  else
    coordinator

/-- The second part of `apply`: what the reply shows. -/
def present (reply : CategoryPrompt) : CategoryPromptCoordinator :=
  if reply.promptID.isSome && reply.promptID == coordinator.answeredPromptID then
    { coordinator with prompt := none }
  else
    let posted := coordinator.posted ++ reply.notification.toList
    match reply.promptID, reply.card with
    | some promptID, some card =>
      { coordinator with
        answeredPromptID := none
        prompt := some { promptID, card }
        lastPromptID := some promptID
        posted }
    | _, _ => { coordinator with answeredPromptID := none, prompt := none, posted }

def apply (reply : CategoryPrompt) : CategoryPromptCoordinator :=
  { coordinator with
    answeredHere := coordinator.answeredHere.filter fun promptID =>
      reply.promptID = some promptID }.answerOpened reply |>.present reply

def sendSettles (succeeds : Bool) : CategoryPromptCoordinator :=
  match coordinator.sendChain with
  | [] => coordinator
  | first :: rest =>
    if succeeds then
      { coordinator with sendChain := rest, sent := coordinator.sent ++ [first] }
    else
      match first.message with
      | .acknowledgeCategoryPrompt answer =>
        { coordinator with
          sendChain := rest
          pendingAnswer := some { number := first.number, answer } }
      | .requestCategoryPrompt _ => { coordinator with sendChain := rest }

end CategoryPromptCoordinator

/-- What the coordinator is told, and how its sends end. -/
inductive PromptAction
  | refresh (utcOffsetSeconds : Int)
  | openCard (utcOffsetSeconds : Int)
  | notNow
  | apply (reply : CategoryPrompt)
  | sendSettles (succeeds : Bool)

def CategoryPromptCoordinator.act (coordinator : CategoryPromptCoordinator) :
    PromptAction → CategoryPromptCoordinator
  | .refresh utcOffsetSeconds => coordinator.refresh utcOffsetSeconds
  | .openCard utcOffsetSeconds => coordinator.answer .opened utcOffsetSeconds
  | .notNow => coordinator.answer .notNow 0
  | .apply reply => coordinator.apply reply
  | .sendSettles succeeds => coordinator.sendSettles succeeds

def promptMachine : Machine CategoryPromptCoordinator PromptAction Unit where
  step coordinator action := ((), coordinator.act action)

section Away

open CategoryPromptCoordinator

/-- A card that is answered is the last one the service has shown, and it is not shown. -/
structure StaysAway (coordinator : CategoryPromptCoordinator) : Prop where
  answered : ∀ promptID ∈ coordinator.answeredHere, coordinator.answeredPromptID = some promptID
  last : ∀ promptID ∈ coordinator.answeredHere, coordinator.lastPromptID = some promptID
  shown : ∀ shown, coordinator.prompt = some shown →
    coordinator.lastPromptID = some shown.promptID ∧
      coordinator.answeredPromptID ≠ some shown.promptID

variable {coordinator : CategoryPromptCoordinator}

theorem StaysAway.answerCard (away : StaysAway coordinator) (closed : coordinator.prompt = none)
    {promptID : String} (last : coordinator.lastPromptID = some promptID)
    (response : CategoryPromptResponse) : StaysAway (coordinator.answerCard promptID response) := by
  have only : ∀ other ∈ promptID :: coordinator.answeredHere, other = promptID := by
    intro other member
    rcases mem_cons.mp member with same | before
    · exact same
    · exact Option.some.inj ((away.last other before).symm.trans last)
  refine ⟨?_, ?_, ?_⟩
  · intro other member
    rw [only other member]
    rfl
  · intro other member
    rw [only other member]
    exact last
  · intro shown isShown
    have none_shown : coordinator.prompt = some shown := isShown
    rw [closed] at none_shown
    cases none_shown

theorem StaysAway.of_same_cards {other : CategoryPromptCoordinator}
    (away : StaysAway coordinator) (prompt : other.prompt = coordinator.prompt)
    (last : other.lastPromptID = coordinator.lastPromptID)
    (answered : other.answeredPromptID = coordinator.answeredPromptID)
    (here : other.answeredHere = coordinator.answeredHere) : StaysAway other := by
  refine ⟨?_, ?_, ?_⟩
  · rw [answered, here]
    exact away.answered
  · rw [last, here]
    exact away.last
  · rw [prompt, last, answered]
    exact away.shown

theorem StaysAway.refresh (away : StaysAway coordinator) (utcOffsetSeconds : Int) :
    StaysAway (coordinator.refresh utcOffsetSeconds) := by
  unfold CategoryPromptCoordinator.refresh
  split <;> exact away.of_same_cards rfl rfl rfl rfl

theorem StaysAway.sendSettles (away : StaysAway coordinator) (succeeds : Bool) :
    StaysAway (coordinator.sendSettles succeeds) := by
  unfold CategoryPromptCoordinator.sendSettles
  split
  · exact away
  · split
    · exact away.of_same_cards rfl rfl rfl rfl
    · split <;> exact away.of_same_cards rfl rfl rfl rfl

theorem staysAway_of_none (none_answered : coordinator.answeredHere = [])
    (shown : ∀ shown, coordinator.prompt = some shown →
      coordinator.lastPromptID = some shown.promptID ∧
        coordinator.answeredPromptID ≠ some shown.promptID) :
    StaysAway coordinator := by
  refine ⟨?_, ?_, shown⟩
  · intro promptID member
    rw [none_answered] at member
    cases member
  · intro promptID member
    rw [none_answered] at member
    cases member

section

variable (away : StaysAway coordinator)

include away

theorem StaysAway.close : StaysAway { coordinator with prompt := none } := by
  refine ⟨away.answered, away.last, ?_⟩
  intro shown isShown
  cases isShown

theorem StaysAway.answer (response : CategoryPromptResponse)
    (utcOffsetSeconds : Int) : StaysAway (coordinator.answer response utcOffsetSeconds) := by
  unfold CategoryPromptCoordinator.answer
  dsimp only
  split
  · rename_i promptID found
    refine away.close.answerCard rfl ?_ response
    cases shown : coordinator.prompt with
    | some presented =>
      rw [shown] at found
      cases found
      exact (away.shown presented shown).1
    | none =>
      rw [shown, Option.map_none, Option.none_or] at found
      split at found
      · exact found
      · cases found
  · split
    · have tapped : StaysAway { coordinator with prompt := none, pendingOpened := true } :=
        away.close.of_same_cards rfl rfl rfl rfl
      exact tapped.refresh utcOffsetSeconds
    · exact away.close

theorem StaysAway.filter (reply : CategoryPrompt) :
    StaysAway { coordinator with
      answeredHere := coordinator.answeredHere.filter fun promptID =>
        reply.promptID = some promptID } := by
  refine ⟨?_, ?_, away.shown⟩
  · exact fun promptID member => away.answered promptID (mem_filter.mp member).1
  · exact fun promptID member => away.last promptID (mem_filter.mp member).1

theorem StaysAway.answerOpened (reply : CategoryPrompt)
    (inReply : ∀ promptID ∈ coordinator.answeredHere, reply.promptID = some promptID) :
    (∀ promptID ∈ (coordinator.answerOpened reply).answeredHere, reply.promptID = some promptID ∧
        (coordinator.answerOpened reply).answeredPromptID = some promptID ∧
        (coordinator.answerOpened reply).lastPromptID = some promptID) := by
  unfold CategoryPromptCoordinator.answerOpened
  split
  · split
    · rename_i promptID found
      intro other member
      have same : other = promptID := by
        rcases mem_cons.mp member with same | before
        · exact same
        · exact Option.some.inj ((inReply other before).symm.trans found)
      rw [same]
      exact ⟨found, rfl, rfl⟩
    · rename_i missing
      intro other member
      have found := inReply other member
      rw [missing] at found
      cases found
  · exact fun other member =>
      ⟨inReply other member, away.answered other member, away.last other member⟩

theorem StaysAway.apply (reply : CategoryPrompt) :
    StaysAway (coordinator.apply reply) := by
  have opened := (away.filter reply).answerOpened reply
    (fun promptID member => of_decide_eq_true (mem_filter.mp member).2)
  unfold CategoryPromptCoordinator.apply
  revert opened
  generalize ({ coordinator with
    answeredHere := coordinator.answeredHere.filter fun promptID =>
      reply.promptID = some promptID } : CategoryPromptCoordinator).answerOpened reply = middle
  intro opened
  unfold CategoryPromptCoordinator.present
  split
  · exact ⟨fun other member => (opened other member).2.1,
      fun other member => (opened other member).2.2, fun shown isShown => by cases isShown⟩
  · rename_i notAnswered
    have none_left : middle.answeredHere = [] := by
      rw [eq_nil_iff_forall_not_mem]
      intro other member
      obtain ⟨inReply, answered, -⟩ := opened other member
      apply notAnswered
      simp [inReply, answered]
    split
    · refine staysAway_of_none none_left ?_
      intro shown isShown
      cases isShown
      exact ⟨rfl, fun same => by cases same⟩
    · refine staysAway_of_none none_left ?_
      intro shown isShown
      cases isShown

theorem StaysAway.next (action : PromptAction) :
    StaysAway (promptMachine.next coordinator action) := by
  cases action with
  | refresh utcOffsetSeconds => exact away.refresh utcOffsetSeconds
  | openCard utcOffsetSeconds => exact away.answer .opened utcOffsetSeconds
  | notNow => exact away.answer .notNow 0
  | apply reply => exact away.apply reply
  | sendSettles succeeds => exact away.sendSettles succeeds

end

end Away

section Line

open CategoryPromptCoordinator

/-- What was given and is not dropped, from what was sent first to the end of the chain. -/
def CategoryPromptCoordinator.line (coordinator : CategoryPromptCoordinator) : List Queued :=
  coordinator.sent ++ (coordinator.pendingAnswer.map GivenAnswer.queued).toList ++
    coordinator.sendChain

def Queued.isAnswer (queued : Queued) : Bool :=
  match queued.message with
  | .acknowledgeCategoryPrompt _ => true
  | .requestCategoryPrompt _ => false

/-- A step by which no answer is lost or overtaken.  While an answer is kept, nothing settles but
requests that fail, and the answer is put back only when nothing is left in the chain. -/
def KeepsAnswers (coordinator : CategoryPromptCoordinator) : PromptAction → Prop
  | .refresh _ => coordinator.pendingAnswer.isSome = true → coordinator.sendChain = []
  | .sendSettles succeeds => ∀ first ∈ coordinator.sendChain.head?,
      succeeds = true ∨ first.isAnswer = true → coordinator.pendingAnswer = none
  | _ => True

instance (coordinator : CategoryPromptCoordinator) (action : PromptAction) :
    Decidable (KeepsAnswers coordinator action) := by
  unfold KeepsAnswers
  split <;> infer_instance

/-- The line runs in the order in which its messages were given, and every answer that was
accepted is in it. -/
structure InOrder (coordinator : CategoryPromptCoordinator) : Prop where
  ordered : coordinator.line.Pairwise (fun earlier later => earlier.number < later.number)
  below : ∀ queued ∈ coordinator.line, queued.number < coordinator.givenCount
  held : ∀ given ∈ coordinator.accepted, given.queued ∈ coordinator.line
  unanswered : coordinator.lastPromptID = none →
    ∀ queued ∈ coordinator.line, queued.isAnswer = false

variable {coordinator later : CategoryPromptCoordinator}

section

variable (inOrder : InOrder coordinator)

include inOrder

theorem InOrder.of_same_sends (line : later.line = coordinator.line)
    (givenCount : later.givenCount = coordinator.givenCount)
    (accepted : later.accepted = coordinator.accepted)
    (last : later.lastPromptID = none → coordinator.lastPromptID = none) : InOrder later := by
  refine ⟨?_, ?_, ?_, ?_⟩
  · rw [line]
    exact inOrder.ordered
  · rw [line, givenCount]
    exact inOrder.below
  · rw [line, accepted]
    exact inOrder.held
  · rw [line]
    exact fun missing => inOrder.unanswered (last missing)

theorem InOrder.of_append (queued : Queued)
    (line : later.line = coordinator.line ++ [queued])
    (number : queued.number = coordinator.givenCount)
    (givenCount : later.givenCount = coordinator.givenCount + 1)
    (accepted : ∀ given ∈ later.accepted, given ∈ coordinator.accepted ∨ given.queued = queued)
    (last : later.lastPromptID = none →
      coordinator.lastPromptID = none ∧ queued.isAnswer = false) : InOrder later := by
  refine ⟨?_, ?_, ?_, ?_⟩
  · rw [line, pairwise_append]
    refine ⟨inOrder.ordered, pairwise_singleton _ _, ?_⟩
    intro earlier member new isNew
    rw [mem_singleton.mp isNew, number]
    exact inOrder.below earlier member
  · intro other member
    rw [line] at member
    rw [givenCount]
    rcases mem_append.mp member with before | isNew
    · exact Nat.lt_succ_of_lt (inOrder.below other before)
    · rw [mem_singleton.mp isNew, number]
      exact Nat.lt_succ_self _
  · intro given member
    rw [line]
    rcases accepted given member with before | isNew
    · exact mem_append_left _ (inOrder.held given before)
    · rw [isNew]
      exact mem_append_right _ (mem_singleton_self _)
  · intro missing other member
    rw [line] at member
    rcases mem_append.mp member with before | isNew
    · exact inOrder.unanswered (last missing).1 other before
    · rw [mem_singleton.mp isNew]
      exact (last missing).2

theorem InOrder.none_kept
    (unknown : coordinator.lastPromptID = none) : coordinator.pendingAnswer = none := by
  cases kept : coordinator.pendingAnswer with
  | none => rfl
  | some given =>
    have member : given.queued ∈ coordinator.line := by
      simp [line, kept]
    have isRequest := inOrder.unanswered unknown _ member
    cases isRequest

theorem InOrder.refresh {utcOffsetSeconds : Int}
    (empty : coordinator.pendingAnswer.isSome = true → coordinator.sendChain = []) :
    InOrder (coordinator.refresh utcOffsetSeconds) := by
  refine inOrder.of_append {
    number := coordinator.givenCount
    message := .requestCategoryPrompt (.clamped utcOffsetSeconds) } ?_ rfl ?_ ?_ ?_
  · cases kept : coordinator.pendingAnswer with
    | none => simp [CategoryPromptCoordinator.refresh, kept, send, line]
    | some given =>
      have nothing := empty (by rw [kept]; rfl)
      simp [CategoryPromptCoordinator.refresh, kept, send, acknowledge, line, nothing]
  · cases kept : coordinator.pendingAnswer <;>
      simp [CategoryPromptCoordinator.refresh, kept, send, acknowledge]
  · intro given member
    cases kept : coordinator.pendingAnswer <;>
      simp [CategoryPromptCoordinator.refresh, kept, send, acknowledge] at member <;>
      exact .inl member
  · intro missing
    cases kept : coordinator.pendingAnswer <;>
      simp [CategoryPromptCoordinator.refresh, kept, send, acknowledge] at missing <;>
      exact ⟨missing, rfl⟩

theorem InOrder.answerCard {promptID : String}
    (known : coordinator.lastPromptID ≠ none) (response : CategoryPromptResponse) :
    InOrder (coordinator.answerCard promptID response) := by
  let given : GivenAnswer := {
    number := coordinator.givenCount
    answer := { promptID, response } }
  refine inOrder.of_append given.queued ?_ rfl rfl ?_ ?_
  · simp [CategoryPromptCoordinator.answerCard, acknowledge, line, given]
  · intro other member
    rcases mem_append.mp member with before | isNew
    · exact .inl before
    · exact .inr (congrArg GivenAnswer.queued (mem_singleton.mp isNew))
  · intro missing
    exact absurd missing known

theorem InOrder.answer (away : StaysAway coordinator)
    (response : CategoryPromptResponse) (utcOffsetSeconds : Int) :
    InOrder (coordinator.answer response utcOffsetSeconds) := by
  have closed : InOrder { coordinator with prompt := none } :=
    inOrder.of_same_sends rfl rfl rfl id
  unfold CategoryPromptCoordinator.answer
  dsimp only
  split
  · rename_i promptID found
    refine closed.answerCard ?_ response
    cases shown : coordinator.prompt with
    | some presented =>
      intro missing
      rw [(away.shown presented shown).1] at missing
      cases missing
    | none =>
      intro missing
      rw [shown, show coordinator.lastPromptID = none from missing] at found
      split at found <;> cases found
  · rename_i unknown
    split
    · rename_i opened
      have tapped : InOrder { coordinator with prompt := none, pendingOpened := true } :=
        inOrder.of_same_sends rfl rfl rfl id
      refine tapped.refresh ?_
      intro kept
      have last : coordinator.lastPromptID = none := by
        rw [if_pos opened, Option.or_eq_none_iff] at unknown
        exact unknown.2
      rw [show _ = _ from inOrder.none_kept last] at kept
      cases kept
    · exact closed

theorem InOrder.apply (reply : CategoryPrompt) :
    InOrder (coordinator.apply reply) := by
  have filtered : InOrder { coordinator with
      answeredHere := coordinator.answeredHere.filter fun promptID =>
        reply.promptID = some promptID } :=
    inOrder.of_same_sends rfl rfl rfl id
  have opened : InOrder (({ coordinator with
      answeredHere := coordinator.answeredHere.filter fun promptID =>
        reply.promptID = some promptID } : CategoryPromptCoordinator).answerOpened reply) := by
    unfold CategoryPromptCoordinator.answerOpened
    split
    · split
      · rename_i promptID found
        have known : InOrder { coordinator with
            answeredHere := coordinator.answeredHere.filter fun promptID =>
              reply.promptID = some promptID
            pendingOpened := false
            lastPromptID := some promptID } :=
          filtered.of_same_sends rfl rfl rfl (fun missing => by cases missing)
        exact known.answerCard (fun missing => by cases missing) .opened
      · exact filtered.of_same_sends rfl rfl rfl id
    · exact filtered
  unfold CategoryPromptCoordinator.apply CategoryPromptCoordinator.present
  split
  · exact opened.of_same_sends rfl rfl rfl id
  · split
    · exact opened.of_same_sends rfl rfl rfl (fun missing => by cases missing)
    · exact opened.of_same_sends rfl rfl rfl id

theorem InOrder.sendSettles {succeeds : Bool}
    (keeps : KeepsAnswers coordinator (.sendSettles succeeds)) :
    InOrder (coordinator.sendSettles succeeds) := by
  unfold CategoryPromptCoordinator.sendSettles
  split
  · exact inOrder
  · rename_i first rest chain
    have isFirst : first ∈ coordinator.sendChain.head? := by
      rw [chain]
      rfl
    split
    · rename_i returned
      have empty := keeps first isFirst (.inl returned)
      refine inOrder.of_same_sends ?_ rfl rfl id
      simp [line, empty, chain]
    · split
      · rename_i answer isAnswer
        have empty := keeps first isFirst (.inr (by rw [Queued.isAnswer, isAnswer]))
        refine inOrder.of_same_sends ?_ rfl rfl id
        simp [line, empty, chain, GivenAnswer.queued, ← isAnswer]
      · rename_i request isRequest
        have shorter : ({ coordinator with sendChain := rest } : CategoryPromptCoordinator).line.Sublist
            coordinator.line := by
          simp [line, chain]
        refine ⟨inOrder.ordered.sublist shorter, ?_, ?_, ?_⟩
        · exact fun queued member => inOrder.below queued (shorter.subset member)
        · intro given member
          have before := inOrder.held given member
          simp only [line, chain, mem_append, mem_cons] at before ⊢
          rcases before with before | same | after
          · exact .inl before
          · rw [← same] at isRequest
            cases isRequest
          · exact .inr after
        · exact fun missing queued member =>
            inOrder.unanswered missing queued (shorter.subset member)

theorem InOrder.next (away : StaysAway coordinator)
    {action : PromptAction} (keeps : KeepsAnswers coordinator action) :
    InOrder (promptMachine.next coordinator action) := by
  cases action with
  | refresh utcOffsetSeconds => exact inOrder.refresh keeps
  | openCard utcOffsetSeconds => exact inOrder.answer away .opened utcOffsetSeconds
  | notNow => exact inOrder.answer away .notNow 0
  | apply reply => exact inOrder.apply reply
  | sendSettles succeeds => exact inOrder.sendSettles keeps

theorem InOrder.sent_before {given : GivenAnswer}
    (accepted : given ∈ coordinator.accepted) {before after : List Queued} {item : Queued}
    (split : coordinator.sent = before ++ item :: after) (earlier : given.number < item.number) :
    given.queued ∈ before := by
  have member := inOrder.held given accepted
  have ordered := inOrder.ordered
  simp only [line, split, append_assoc, cons_append] at member ordered
  rw [pairwise_append] at ordered
  obtain ⟨-, afterwards, -⟩ := ordered
  rcases mem_append.mp member with found | found
  · exact found
  · rcases mem_cons.mp found with same | behind
    · rw [← same] at earlier
      exact absurd earlier (Nat.lt_irrefl _)
    · have overtaken := (pairwise_cons.mp afterwards).1 _ behind
      exact absurd overtaken (Nat.lt_asymm earlier)

end

end Line

section Runs

open CategoryPromptCoordinator

/-- As long as no answer fails or is overtaken while another one is kept, every accepted answer
waits in the chain, is kept or was sent; what reaches the service reaches it in the order in which
it was given, after every answer given before it; and a card that was answered is not shown until
a reply without it has arrived. -/
theorem answers_reach_service_in_order (actions : List PromptAction)
    (keeps : promptMachine.Meets KeepsAnswers initial actions) :
    let coordinator := promptMachine.run initial actions
    (∀ given ∈ coordinator.accepted,
      given.queued ∈ coordinator.sendChain ∨ coordinator.pendingAnswer = some given ∨
        given.queued ∈ coordinator.sent) ∧
      coordinator.sent.Pairwise (fun earlier later => earlier.number < later.number) ∧
      (∀ before item after, coordinator.sent = before ++ item :: after →
        ∀ given ∈ coordinator.accepted, given.number < item.number → given.queued ∈ before) ∧
      ∀ shown, coordinator.prompt = some shown →
        shown.promptID ∉ coordinator.answeredHere := by
  intro coordinator
  have step : ∀ (coordinator : CategoryPromptCoordinator) action,
      InOrder coordinator ∧ StaysAway coordinator → KeepsAnswers coordinator action →
      InOrder (promptMachine.next coordinator action) ∧
        StaysAway (promptMachine.next coordinator action) := by
    intro coordinator action holds keeps
    exact ⟨holds.1.next holds.2 keeps, holds.2.next action⟩
  have start : InOrder initial ∧ StaysAway initial := by
    refine ⟨⟨List.Pairwise.nil, ?_, ?_, ?_⟩, staysAway_of_none rfl ?_⟩
    · intro queued member
      cases member
    · intro given member
      cases member
    · intro _ queued member
      cases member
    · intro shown isShown
      cases isShown
  obtain ⟨inOrder, away⟩ : InOrder coordinator ∧ StaysAway coordinator :=
    promptMachine.invariant_run step start keeps
  refine ⟨?_, ?_, ?_, ?_⟩
  · intro given accepted
    have member := inOrder.held given accepted
    simp only [line, mem_append, Option.mem_toList, Option.map_eq_some_iff] at member
    rcases member with (wasSent | ⟨kept, isKept, same⟩) | waits
    · exact .inr (.inr wasSent)
    · refine .inr (.inl ?_)
      obtain ⟨number, answer⟩ := kept
      cases given
      cases same
      exact isKept
    · exact .inl waits
  · have ordered := inOrder.ordered
    rw [line, append_assoc, pairwise_append] at ordered
    exact ordered.1
  · exact fun before item after split given accepted earlier =>
      inOrder.sent_before accepted split earlier
  · intro shown isShown answered
    exact (away.shown shown isShown).2 (away.answered _ answered)

def replyWith (promptID : String) : CategoryPrompt where
  promptID := some promptID
  card := some {
    title := "Needs a category"
    body := "Two entries"
    primaryAction := "Open"
    secondaryAction := "Not now"
    entryCount := 2 }
  notification := none

def answeredOffline : List PromptAction :=
  [.refresh 3600, .sendSettles true, .apply (replyWith "a"), .notNow, .sendSettles false,
    .refresh 3600, .sendSettles true, .sendSettles true, .openCard 3600]

/-- The answer whose send failed goes out before the next refresh. -/
theorem answered_offline_is_sent_first :
    let coordinator := promptMachine.run initial answeredOffline
    (∀ given ∈ coordinator.accepted,
      given.queued ∈ coordinator.sendChain ∨ coordinator.pendingAnswer = some given ∨
        given.queued ∈ coordinator.sent) ∧
      coordinator.sent.Pairwise (fun earlier later => earlier.number < later.number) ∧
      (∀ before item after, coordinator.sent = before ++ item :: after →
        ∀ given ∈ coordinator.accepted, given.number < item.number → given.queued ∈ before) ∧
      ∀ shown, coordinator.prompt = some shown →
        shown.promptID ∉ coordinator.answeredHere :=
  answers_reach_service_in_order answeredOffline (by decide)

def answeredTwiceOffline : List PromptAction :=
  [.refresh 3600, .sendSettles true, .apply (replyWith "a"), .notNow, .sendSettles false,
    .openCard 3600, .sendSettles false]

/-- Only one answer is kept. -/
theorem second_failure_loses_first_answer :
    let coordinator := promptMachine.run initial answeredTwiceOffline
    let given : GivenAnswer := { number := 1, answer := { promptID := "a", response := .notNow } }
    given ∈ coordinator.accepted ∧ given.queued ∉ coordinator.sendChain ∧
      coordinator.pendingAnswer ≠ some given ∧ given.queued ∉ coordinator.sent := by
  decide

end Runs

end Velvt.CategoryPrompts
