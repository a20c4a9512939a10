import Mathlib.Data.List.Basic

/-!
# Interleaved task programs

A task is a program that calls shared operations one at a time and goes on with their answers; each
step executes the next call of one task.  A protocol says which calls a task may make after those
it has made; what follows a protocol as a program follows it in every interleaving.
-/

namespace TaskPrograms

open List

/-- A program that makes calls, and goes on with the answer to each. -/
inductive Program (Call : Type → Type) (Result : Type) : Type 1
  | done (result : Result)
  | call {Answer : Type} (operation : Call Answer) (resume : Answer → Program Call Result)

namespace Program

variable {Call : Type → Type} {First Second : Type}

def bind : Program Call First → (First → Program Call Second) → Program Call Second
  | .done result, next => next result
  | .call operation resume, next => .call operation fun answer => (resume answer).bind next

instance : Monad (Program Call) where
  pure := .done
  bind := bind

def ask {Answer : Type} (operation : Call Answer) : Program Call Answer :=
  .call operation .done

@[simp]
theorem pure_eq (result : First) : (pure result : Program Call First) = .done result :=
  rfl

@[simp]
theorem done_bind (result : First) (next : First → Program Call Second) :
    Program.done result >>= next = next result :=
  rfl

@[simp]
theorem call_bind {Answer : Type} (operation : Call Answer)
    (resume : Answer → Program Call First) (next : First → Program Call Second) :
    Program.call operation resume >>= next =
      .call operation fun answer => resume answer >>= next :=
  rfl

end Program

/-- What a task may call, given what it has called before. -/
structure Protocol (Call : Type → Type) (State : Type) where
  allowed : {Answer : Type} → State → Call Answer → Prop
  /-- The answers that a call can have. -/
  possible : {Answer : Type} → Call Answer → Answer → Prop
  track : {Answer : Type} → State → Call Answer → Answer → State

section Follows

variable {Call : Type → Type} {State First Second Error : Type} (protocol : Protocol Call State)

/-- Whatever the answers, the program makes allowed calls only, and ends as `post` says. -/
def Follows {Result : Type} (post : Result → State → Prop) : Program Call Result → State → Prop
  | .done result, state => post result state
  | .call operation resume, state =>
    protocol.allowed state operation ∧
      ∀ answer, protocol.possible operation answer →
        Follows post (resume answer) (protocol.track state operation answer)

variable {state : State}

variable {post : First → State → Prop}

@[simp]
theorem follows_done {result : First} :
    Follows protocol post (.done result) state ↔ post result state :=
  Iff.rfl

@[simp]
theorem follows_call {Answer : Type} {operation : Call Answer}
    {resume : Answer → Program Call First} :
    Follows protocol post (.call operation resume) state ↔ protocol.allowed state operation ∧
        ∀ answer, protocol.possible operation answer →
          Follows protocol post (resume answer) (protocol.track state operation answer) :=
  Iff.rfl

theorem follows_ask {operation : Call First} :
    Follows protocol post (Program.ask operation) state ↔ protocol.allowed state operation ∧
        ∀ answer, protocol.possible operation answer →
          post answer (protocol.track state operation answer) :=
  Iff.rfl

theorem follows_bind {post : Second → State → Prop} {program : Program Call First}
    {next : First → Program Call Second} :
    Follows protocol post (program >>= next) state ↔
      Follows protocol (fun result => Follows protocol post (next result)) program state := by
  induction program generalizing state with
  | done result => exact Iff.rfl
  | call operation resume ih =>
    rw [Program.call_bind, follows_call, follows_call]
    constructor
    · rintro ⟨allowed, later⟩
      exact ⟨allowed, fun answer possible => (ih answer).mp (later answer possible)⟩
    · rintro ⟨allowed, later⟩
      exact ⟨allowed, fun answer possible => (ih answer).mpr (later answer possible)⟩

theorem Follows.mono {strong weak : First → State → Prop} {program : Program Call First}
    (follows : Follows protocol strong program state)
    (implies : ∀ result last, strong result last → weak result last) :
    Follows protocol weak program state := by
  induction program generalizing state with
  | done result => exact implies result state follows
  | call operation resume ih =>
    exact ⟨follows.1, fun answer possible => ih answer (follows.2 answer possible)⟩

theorem follows_except_bind {post : Except Error Second → State → Prop}
    {program : ExceptT Error (Program Call) First}
    {next : First → ExceptT Error (Program Call) Second} :
    Follows protocol post (program >>= next).run state ↔ Follows protocol (fun result last =>
        match result with
        | .ok value => Follows protocol post (next value).run last
        | .error error => post (.error error) last) program.run state := by
  change Follows protocol post (ExceptT.run program >>= ExceptT.bindCont next) state ↔ _
  rw [follows_bind]
  constructor
  · intro follows
    refine follows.mono protocol ?_
    rintro (error | value) last ends
    · exact ends
    · exact ends
  · intro follows
    refine follows.mono protocol ?_
    rintro (error | value) last ends
    · exact ends
    · exact ends

theorem follows_except_catch {post : Except Error First → State → Prop}
    {program : ExceptT Error (Program Call) First}
    {handle : Error → ExceptT Error (Program Call) First} :
    Follows protocol post (tryCatch program handle).run state ↔ Follows protocol (fun result last =>
        match result with
        | .ok value => post (.ok value) last
        | .error error => Follows protocol post (handle error).run last) program.run state := by
  have inSequence : (tryCatch program handle).run = program.run >>= fun result =>
      match result with
      | .ok value => pure (.ok value)
      | .error error => (handle error).run := by
    refine congrArg (program.run >>= ·) (funext ?_)
    rintro (error | value)
    · rfl
    · rfl
  rw [inSequence, follows_bind]
  constructor
  · intro follows
    refine follows.mono protocol ?_
    rintro (error | value) last ends
    · exact ends
    · exact ends
  · intro follows
    refine follows.mono protocol ?_
    rintro (error | value) last ends
    · exact ends
    · exact ends

end Follows

/-- One call of a task and its answer. -/
structure Step (Call : Type → Type) : Type 1 where
  {Answer : Type}
  operation : Call Answer
  answer : Answer

/-- A task: what it has done, and what it has yet to do. -/
structure Task (Call : Type → Type) : Type 1 where
  trace : List (Step Call)
  program : Program Call Unit

/-- Tasks over a shared state. -/
structure World (Call : Type → Type) (Shared : Type) : Type 1 where
  shared : Shared
  tasks : List (Task Call)

section Interleaving

variable {Call : Type → Type} {Shared Input State : Type}

/-- How the shared state answers a call.  Without an answer the call has to wait. -/
abbrev Handler (Call : Type → Type) (Shared Input : Type) : Type 1 :=
  (Answer : Type) → Input → Shared → Call Answer → Option (Answer × Shared)

variable (handler : Handler Call Shared Input)

def World.advance (world : World Call Shared) (index : Nat) (input : Input) :
    World Call Shared :=
  match world.tasks[index]? with
  | some { trace, program := .call operation resume } =>
    match handler _ input world.shared operation with
    | some (answer, shared) =>
      { shared := shared
        tasks := world.tasks.set index
          { trace := trace ++ [{ operation := operation, answer := answer }]
            program := resume answer } }
    | none => world
  | _ => world

def World.start (world : World Call Shared) (program : Program Call Unit) (input : Input) :
    World Call Shared :=
  World.advance handler
    { world with tasks := world.tasks ++ [{ trace := [], program := program }] }
    world.tasks.length input

theorem World.advance_cases (world : World Call Shared) (index : Nat) (input : Input) :
    world.advance handler index input = world ∨
      ∃ (Answer : Type) (operation : Call Answer) (resume : Answer → Program Call Unit)
        (trace : List (Step Call)) (answer : Answer) (shared : Shared),
        world.tasks[index]? = some { trace, program := .call operation resume } ∧
        handler Answer input world.shared operation = some (answer, shared) ∧
        world.advance handler index input =
          { shared := shared
            tasks := world.tasks.set index
              { trace := trace ++ [{ operation := operation, answer := answer }]
                program := resume answer } } := by
  unfold World.advance
  split
  next trace Answer operation resume isTask =>
    split
    next answer shared handled =>
      exact Or.inr ⟨Answer, operation, resume, trace, answer, shared, isTask, handled, rfl⟩
    next => exact Or.inl rfl
  next => exact Or.inl rfl

variable {world : World Call Shared}

theorem World.start_call {input : Input} {Answer : Type}
    {operation : Call Answer} {resume : Answer → Program Call Unit} {answer : Answer}
    {shared : Shared} (handled : handler Answer input world.shared operation = some (answer, shared)) :
    world.start handler (.call operation resume) input =
      { shared := shared
        tasks := world.tasks ++
          [{ trace := [{ operation := operation, answer := answer }], program := resume answer }] } := by
  unfold World.start World.advance
  simp only [List.getElem?_concat_length, handled, nil_append]
  rw [set_append_right _ _ (Nat.le_refl _), Nat.sub_self, set_cons_zero]

theorem count_flatMap_set {Item : Type} [BEq Item] {tasks : List (Task Call)} {index : Nat} {before : Task Call}
    (isTask : tasks[index]? = some before) (after : Task Call) (has : Task Call → List Item)
    (item : Item) :
    ((tasks.set index after).flatMap has).count item + (has before).count item =
      (tasks.flatMap has).count item + (has after).count item := by
  induction tasks generalizing index with
  | nil => cases isTask
  | cons task tasks ih =>
    cases index with
    | zero =>
      rw [List.getElem?_cons_zero] at isTask
      cases isTask
      simp only [set_cons_zero, flatMap_cons, count_append]
      omega
    | succ index =>
      rw [List.getElem?_cons_succ] at isTask
      have rest := ih isTask
      simp only [set_cons_succ, flatMap_cons, count_append]
      omega

variable (protocol : Protocol Call State)

def Protocol.reached (opening : State) (trace : List (Step Call)) : State :=
  trace.foldl (fun state step => protocol.track state step.operation step.answer) opening

@[simp]
theorem Protocol.reached_nil (opening : State) : protocol.reached opening [] = opening :=
  rfl

@[simp]
theorem Protocol.reached_concat (opening : State) (trace : List (Step Call)) (step : Step Call) :
    protocol.reached opening (trace ++ [step]) =
      protocol.track (protocol.reached opening trace) step.operation step.answer := by
  simp [Protocol.reached]

/-- What is left of each task follows the protocol. -/
def World.Conforms (opening : State) (post : State → Prop) (world : World Call Shared) : Prop :=
  ∀ task ∈ world.tasks,
    Follows protocol (fun _ => post) task.program (protocol.reached opening task.trace)

/-- The shared state gives possible answers only. -/
def Handler.Gives (valid : Shared → Prop) : Prop :=
  ∀ (Answer : Type) (input : Input) (shared : Shared) (operation : Call Answer)
    (answer : Answer) (after : Shared), valid shared →
    handler Answer input shared operation = some (answer, after) →
    protocol.possible operation answer

variable {post : State → Prop}

theorem World.Conforms.allowed {opening : State} (conforms : world.Conforms protocol opening post)
    {index : Nat}
    {Answer : Type} {operation : Call Answer} {resume : Answer → Program Call Unit}
    {trace : List (Step Call)}
    (isTask : world.tasks[index]? = some { trace, program := .call operation resume }) :
    protocol.allowed (protocol.reached opening trace) operation :=
  (conforms _ (mem_of_getElem? isTask)).1

theorem World.Conforms.advance {opening : State} {valid : Shared → Prop}
    (conforms : world.Conforms protocol opening post)
    (gives : handler.Gives protocol valid) (isValid : valid world.shared) (index : Nat) (input : Input) :
    (world.advance handler index input).Conforms protocol opening post := by
  rcases world.advance_cases handler index input with same |
    ⟨Answer, operation, resume, trace, answer, shared, isTask, handled, isNext⟩
  · rw [same]
    exact conforms
  · rw [isNext]
    intro task member
    rcases mem_or_eq_of_mem_set member with before | rfl
    · exact conforms task before
    · have follows := conforms _ (mem_of_getElem? isTask)
      rw [protocol.reached_concat]
      exact follows.2 answer (gives Answer input world.shared operation answer shared isValid
        handled)

theorem World.Conforms.start {opening : State} {valid : Shared → Prop}
    (conforms : world.Conforms protocol opening post)
    (gives : handler.Gives protocol valid) (isValid : valid world.shared) {program : Program Call Unit}
    (follows : Follows protocol (fun _ => post) program opening) (input : Input) :
    (world.start handler program input).Conforms protocol opening post := by
  have started : World.Conforms protocol opening post
      { world with tasks := world.tasks ++ [{ trace := [], program := program }] } := by
    intro task member
    rcases mem_append.mp member with before | isNew
    · exact conforms task before
    · rw [mem_singleton.mp isNew]
      exact follows
  exact started.advance handler protocol gives isValid world.tasks.length input

end Interleaving

end TaskPrograms
