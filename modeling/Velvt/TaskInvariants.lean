import Velvt.TaskPrograms

/-!
# Joint invariants of interleaved tasks

What the tasks share and how far each has got in its protocol are tied together by a joint
invariant.  If every call that a protocol allows keeps it, it holds in every interleaving.
-/

namespace TaskPrograms

open List

section Spawning

variable {Call : Type → Type} {Shared : Type}

def World.spawn (world : World Call Shared) (program : Program Call Unit) : World Call Shared :=
  { world with tasks := world.tasks ++ [{ trace := [], program := program }] }

end Spawning

section Joint

variable {Call : Type → Type} {Shared Input State : Type}

/-- A condition on a call, on what its surroundings decide and on the state that it meets. -/
abbrev CallCondition (Call : Type → Type) (Shared Input : Type) : Type 1 :=
  (Answer : Type) → Input → Shared → Call Answer → Prop

/-- If a task makes a call next, the call meets the condition. -/
def World.Admits (condition : CallCondition Call Shared Input) (world : World Call Shared)
    (index : Nat) (input : Input) : Prop :=
  match world.tasks[index]? with
  | some { trace := _, program := .call operation _ } => condition _ input world.shared operation
  | _ => True

instance (condition : CallCondition Call Shared Input)
    [∀ Answer input shared operation, Decidable (condition Answer input shared operation)]
    (world : World Call Shared) (index : Nat) (input : Input) :
    Decidable (world.Admits condition index input) := by
  unfold World.Admits
  split
  · infer_instance
  · infer_instance

variable (handler : Handler Call Shared Input) (protocol : Protocol Call State)

def World.standings (opening : State) (world : World Call Shared) : List State :=
  world.tasks.map fun task => protocol.reached opening task.trace

/-- An allowed call under the condition has a possible answer and keeps the invariant. -/
def Upholds (condition : CallCondition Call Shared Input) (Inv : Shared → List State → Prop) :
    Prop :=
  ∀ (Answer : Type) (input : Input) (shared : Shared) (standings : List State) (index : Nat)
    (state : State) (operation : Call Answer) (answer : Answer) (after : Shared),
    Inv shared standings → standings[index]? = some state → protocol.allowed state operation →
    condition Answer input shared operation →
    handler Answer input shared operation = some (answer, after) →
    protocol.possible operation answer ∧
      Inv after (standings.set index (protocol.track state operation answer))

/-- The tasks follow the protocol, and the invariant ties them to what they share. -/
structure World.Sound (opening : State) (post : State → Prop) (Inv : Shared → List State → Prop)
    (world : World Call Shared) : Prop where
  conforms : world.Conforms protocol opening post
  holds : Inv world.shared (world.standings protocol opening)

variable {handler protocol} {opening : State} {post : State → Prop}
  {Inv : Shared → List State → Prop} {condition : CallCondition Call Shared Input}
  {world : World Call Shared}

section

variable (sound : world.Sound protocol opening post Inv)

include sound

theorem World.Sound.spawn
    {program : Program Call Unit} (follows : Follows protocol (fun _ => post) program opening)
    (enters : ∀ shared standings, Inv shared standings → Inv shared (standings ++ [opening])) :
    (world.spawn program).Sound protocol opening post Inv where
  conforms := by
    intro task member
    rcases mem_append.mp member with before | isNew
    · exact sound.conforms task before
    · rw [mem_singleton.mp isNew]
      exact follows
  holds := by
    have entered := enters _ _ sound.holds
    simpa [World.standings, World.spawn] using entered

theorem World.Sound.step {index : Nat} {input : Input}
    (keeps : ∀ (Answer : Type) (operation : Call Answer) (resume : Answer → Program Call Unit)
      (trace : List (Step Call)) (answer : Answer) (shared : Shared),
      world.tasks[index]? = some { trace, program := .call operation resume } →
      (world.standings protocol opening)[index]? = some (protocol.reached opening trace) →
      protocol.allowed (protocol.reached opening trace) operation →
      handler Answer input world.shared operation = some (answer, shared) →
      protocol.possible operation answer ∧ Inv shared ((world.standings protocol opening).set index
          (protocol.track (protocol.reached opening trace) operation answer))) :
    (world.advance handler index input).Sound protocol opening post Inv := by
  rcases world.advance_cases handler index input with same |
    ⟨Answer, operation, resume, trace, answer, shared, isTask, handled, isNext⟩
  · rw [same]
    exact sound
  · have follows := sound.conforms _ (mem_of_getElem? isTask)
    have stands : (world.standings protocol opening)[index]? =
        some (protocol.reached opening trace) := by
      simp [World.standings, isTask]
    obtain ⟨possible, kept⟩ := keeps Answer operation resume trace answer shared isTask stands
      follows.1 handled
    rw [isNext]
    constructor
    · intro task member
      rcases mem_or_eq_of_mem_set member with before | rfl
      · exact sound.conforms task before
      · rw [protocol.reached_concat]
        exact follows.2 answer possible
    · simpa [World.standings, map_set] using kept

theorem World.Sound.advance
    (upholds : Upholds handler protocol condition Inv) {index : Nat} {input : Input}
    (admits : world.Admits condition index input) :
    (world.advance handler index input).Sound protocol opening post Inv := by
  refine sound.step ?_
  intro Answer operation resume trace answer shared isTask stands allowed handled
  have admitted : condition Answer input world.shared operation := by
    simpa [World.Admits, isTask] using admits
  exact upholds Answer input world.shared _ index _ operation answer shared sound.holds stands
    allowed admitted handled

theorem World.Sound.disturb {shared : Shared}
    (keeps : Inv shared (world.standings protocol opening)) :
    World.Sound protocol opening post Inv { world with shared := shared } where
  conforms := sound.conforms
  holds := keeps

end

theorem World.Sound.initial {shared : Shared} (holds : Inv shared []) :
    ({ shared := shared, tasks := [] } : World Call Shared).Sound protocol opening post Inv where
  conforms := by simp [World.Conforms]
  holds := holds

end Joint

section Holders

variable {State : Type*}

/-- At most one task holds a lock, and only while it is locked. -/
structure HeldOnce (holds : State → Bool) (locked : Bool) (standings : List State) : Prop where
  unique : ∀ (first second : Nat) (state other : State), standings[first]? = some state →
    standings[second]? = some other → holds state = true → holds other = true → first = second
  locked : ∀ state ∈ standings, holds state = true → locked = true

variable {holds : State → Bool} {locked : Bool} {standings : List State} {index : Nat}
  {state next : State}

theorem getElem?_set_cases {place : Nat} {found : State}
    (isFound : (standings.set index next)[place]? = some found) :
    place = index ∧ found = next ∨ place ≠ index ∧ standings[place]? = some found := by
  by_cases same : place = index
  · subst same
    refine Or.inl ⟨rfl, ?_⟩
    have bound : place < standings.length := by
      have inside := List.getElem?_eq_some_iff.mp isFound
      simpa using inside.1
    rw [List.getElem?_set_self bound] at isFound
    exact (Option.some.inj isFound).symm
  · rw [List.getElem?_set_ne (Ne.symm same)] at isFound
    exact Or.inr ⟨same, isFound⟩

variable {P : State → Prop}

theorem forall_mem_set (each : ∀ found ∈ standings, P found) (holds : P next) :
    ∀ found ∈ standings.set index next, P found := by
  intro found member
  rcases mem_or_eq_of_mem_set member with before | rfl
  · exact each found before
  · exact holds

theorem forall_mem_concat (each : ∀ found ∈ standings, P found)
    (holds : P next) : ∀ found ∈ standings ++ [next], P found := by
  intro found member
  rcases mem_append.mp member with before | isNew
  · exact each found before
  · rw [mem_singleton.mp isNew]
    exact holds

theorem exists_mem_set (isState : standings[index]? = some state)
    (some_ : ∃ found ∈ standings, P found) (kept : P state → P next) :
    ∃ found ∈ standings.set index next, P found := by
  obtain ⟨found, member, holds⟩ := some_
  obtain ⟨place, isPlace⟩ := mem_iff_getElem?.mp member
  by_cases same : place = index
  · subst same
    rw [isState] at isPlace
    cases isPlace
    refine ⟨next, mem_of_getElem? (List.getElem?_set_self ?_), kept holds⟩
    exact (List.getElem?_eq_some_iff.mp isState).1
  · refine ⟨found, mem_of_getElem? (i := place) ?_, holds⟩
    rw [List.getElem?_set_ne (Ne.symm same)]
    exact isPlace

theorem HeldOnce.append_free (held : HeldOnce holds locked standings) (free : holds next = false) :
    HeldOnce holds locked (standings ++ [next]) := by
  have old : ∀ (place : Nat) (found : State), (standings ++ [next])[place]? = some found →
      holds found = true → standings[place]? = some found := by
    intro place found isFound had
    rcases Nat.lt_or_ge place standings.length with before | behind
    · rwa [List.getElem?_append_left before] at isFound
    · rw [List.getElem?_append_right behind] at isFound
      have isNew := mem_singleton.mp (mem_of_getElem? isFound)
      rw [isNew, free] at had
      cases had
  constructor
  · intro first second state other isFirst isSecond had otherHad
    exact held.unique first second state other (old _ _ isFirst had) (old _ _ isSecond otherHad) had
      otherHad
  · intro state member had
    rcases mem_append.mp member with before | isNew
    · exact held.locked state before had
    · rw [mem_singleton.mp isNew, free] at had
      cases had

theorem HeldOnce.set_kept (held : HeldOnce holds locked standings)
    (isState : standings[index]? = some state) (kept : holds next = true → holds state = true) :
    HeldOnce holds locked (standings.set index next) := by
  have old : ∀ (place : Nat) (found : State), (standings.set index next)[place]? = some found →
      holds found = true → ∃ before, standings[place]? = some before ∧ holds before = true := by
    intro place found isFound had
    rcases getElem?_set_cases isFound with ⟨rfl, rfl⟩ | ⟨-, before⟩
    · exact ⟨state, isState, kept had⟩
    · exact ⟨found, before, had⟩
  constructor
  · intro first second state other isFirst isSecond had otherHad
    obtain ⟨firstBefore, wasFirst, firstHad⟩ := old _ _ isFirst had
    obtain ⟨secondBefore, wasSecond, secondHad⟩ := old _ _ isSecond otherHad
    exact held.unique first second firstBefore secondBefore wasFirst wasSecond firstHad secondHad
  · intro state member had
    obtain ⟨place, isPlace⟩ := mem_iff_getElem?.mp member
    obtain ⟨before, was, beforeHad⟩ := old _ _ isPlace had
    exact held.locked before (mem_of_getElem? was) beforeHad

theorem HeldOnce.set_taken (held : HeldOnce holds false standings) :
    HeldOnce holds true (standings.set index next) := by
  have free : ∀ (place : Nat) (found : State), (standings.set index next)[place]? = some found →
      holds found = true → place = index := by
    intro place found isFound had
    rcases getElem?_set_cases isFound with ⟨same, -⟩ | ⟨-, before⟩
    · exact same
    · cases held.locked found (mem_of_getElem? before) had
  constructor
  · intro first second state other isFirst isSecond had otherHad
    exact (free _ _ isFirst had).trans (free _ _ isSecond otherHad).symm
  · exact fun _ _ _ => rfl

theorem HeldOnce.set_released (held : HeldOnce holds locked standings)
    (isState : standings[index]? = some state) (had : holds state = true)
    (free : holds next = false) : HeldOnce holds false (standings.set index next) := by
  have none : ∀ (place : Nat) (found : State), (standings.set index next)[place]? = some found →
      holds found = false := by
    intro place found isFound
    rcases getElem?_set_cases isFound with ⟨-, rfl⟩ | ⟨apart, before⟩
    · exact free
    · by_contra foundHad
      rw [Bool.not_eq_false] at foundHad
      exact apart (held.unique place index found state before isState foundHad had)
  constructor
  · intro first second state other isFirst _ stateHad _
    rw [none first state isFirst] at stateHad
    cases stateHad
  · intro state member stateHad
    obtain ⟨place, isPlace⟩ := mem_iff_getElem?.mp member
    rw [none place state isPlace] at stateHad
    cases stateHad

end Holders

end TaskPrograms
