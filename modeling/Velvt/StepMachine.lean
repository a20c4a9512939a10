import Mathlib.Data.List.Basic
import Mathlib.Order.Basic

/-!
# Runs of deterministic step machines

A step machine answers one operation at a time and moves to the next state.  These rules turn a
fact about one step into one about every run: preserved invariants, invariants of clocked runs,
relations between a state and every later one, and invariants about the history of a run.
-/

namespace StepMachine

open List

/-- A deterministic machine: one operation yields an answer and the next
state. -/
structure Machine (State Op Answer : Type*) where
  step : State → Op → Answer × State

namespace Machine

variable {State Op Answer : Type*} (machine : Machine State Op Answer)

def next (state : State) (op : Op) : State :=
  (machine.step state op).2

def answer (state : State) (op : Op) : Answer :=
  (machine.step state op).1

def run (state : State) (ops : List Op) : State :=
  ops.foldl machine.next state

@[simp]
theorem run_nil (state : State) : machine.run state [] = state :=
  rfl

@[simp]
theorem run_cons (state : State) (op : Op) (ops : List Op) :
    machine.run state (op :: ops) = machine.run (machine.next state op) ops :=
  rfl

@[simp]
theorem run_append (state : State) (first second : List Op) : machine.run state (first ++ second) =
      machine.run (machine.run state first) second := by
  simp [run]

/-- Every operation of a run meets the condition in the state it is applied
to. -/
def Meets (condition : State → Op → Prop) : State → List Op → Prop
  | _, [] => True
  | state, op :: ops =>
    condition state op ∧ Meets condition (machine.next state op) ops

@[simp]
theorem meets_nil (condition : State → Op → Prop) (state : State) :
    machine.Meets condition state [] :=
  trivial

@[simp]
theorem meets_cons (condition : State → Op → Prop) (state : State) (op : Op) (ops : List Op) :
    machine.Meets condition state (op :: ops) ↔
      condition state op ∧ machine.Meets condition (machine.next state op) ops :=
  Iff.rfl

instance decidableMeets (condition : State → Op → Prop)
    [∀ state op, Decidable (condition state op)] :
    (state : State) → (ops : List Op) → Decidable (machine.Meets condition state ops)
  | _, [] => inferInstanceAs (Decidable True)
  | state, op :: ops =>
    have := decidableMeets condition (machine.next state op) ops
    inferInstanceAs (Decidable (condition state op ∧
      machine.Meets condition (machine.next state op) ops))

theorem meets_append (condition : State → Op → Prop) (state : State) (first second : List Op) :
    machine.Meets condition state (first ++ second) ↔ machine.Meets condition state first ∧
        machine.Meets condition (machine.run state first) second := by
  induction first generalizing state with
  | nil => simp
  | cons op ops ih => simp [ih, and_assoc]

variable {condition : State → Op → Prop}

theorem meets_of_forall (always : ∀ state op, condition state op) (state : State) (ops : List Op) :
    machine.Meets condition state ops := by
  induction ops generalizing state with
  | nil => trivial
  | cons op ops ih => exact ⟨always state op, ih _⟩

variable {ops : List Op}

theorem meets_of_mem (each : ∀ op ∈ ops, ∀ state, condition state op) (state : State) :
    machine.Meets condition state ops := by
  induction ops generalizing state with
  | nil => trivial
  | cons op ops ih =>
    exact ⟨each op mem_cons_self state,
      ih (fun later member => each later (mem_cons_of_mem _ member)) _⟩

variable {state : State}

theorem Meets.and_of_mem {extra : Op → Prop} (meets : machine.Meets condition state ops)
    (each : ∀ op ∈ ops, extra op) :
    machine.Meets (fun state op => condition state op ∧ extra op) state ops := by
  induction ops generalizing state with
  | nil => trivial
  | cons op ops ih =>
    exact ⟨⟨meets.1, each op mem_cons_self⟩,
      ih meets.2 fun later member => each later (mem_cons_of_mem _ member)⟩

variable {Inv : State → Prop}

theorem Meets.mono {strong weak : State → Op → Prop}
    (keeps : ∀ state op, Inv state → strong state op → Inv (machine.next state op))
    (implies : ∀ state op, Inv state → strong state op → weak state op) (initial : Inv state)
    (meets : machine.Meets strong state ops) :
    machine.Meets weak state ops := by
  induction ops generalizing state with
  | nil => trivial
  | cons op ops ih =>
    exact ⟨implies state op initial meets.1, ih (keeps state op initial meets.1) meets.2⟩

theorem invariant_run
    (keeps : ∀ state op, Inv state → condition state op → Inv (machine.next state op))
    (initial : Inv state)
    (meets : machine.Meets condition state ops) :
    Inv (machine.run state ops) := by
  induction ops generalizing state with
  | nil => exact initial
  | cons op ops ih =>
    exact ih (keeps state op initial meets.1) meets.2

theorem invariant_run_of_forall (keeps : ∀ state op, Inv state → Inv (machine.next state op))
    (ops : List Op) (initial : Inv state) :
    Inv (machine.run state ops) :=
  machine.invariant_run (fun state op holds (_ : True) => keeps state op holds) initial
    (machine.meets_of_forall (fun _ _ => trivial) state ops)

theorem forall_prefix_iff_meets_of_admitted {admitted condition : State → Op → Prop}
    {Inv Good : State → Prop}
    (keeps : ∀ state op, Inv state → admitted state op → Inv (machine.next state op))
    (steps : ∀ state op, Inv state → admitted state op → Good state →
      (Good (machine.next state op) ↔ condition state op)) (initial : Inv state) (good : Good state)
    (meets : machine.Meets admitted state ops) :
    (∀ earlier, earlier <+: ops → Good (machine.run state earlier)) ↔
      machine.Meets condition state ops := by
  induction ops generalizing state with
  | nil =>
    refine ⟨fun _ => trivial, ?_⟩
    intro _ earlier isEarlier
    rw [prefix_nil.mp isEarlier]
    exact good
  | cons op ops ih =>
    obtain ⟨admits, admitsRest⟩ := meets
    have invNext := keeps state op initial admits
    have step := steps state op initial admits good
    constructor
    · intro throughout
      have goodNext := throughout [op] ⟨ops, rfl⟩
      refine ⟨step.mp goodNext, (ih invNext goodNext admitsRest).mp ?_⟩
      intro earlier isEarlier
      exact throughout (op :: earlier) ((prefix_cons_inj op).mpr isEarlier)
    · rintro ⟨holds, rest⟩ earlier isEarlier
      rcases prefix_cons_iff.mp isEarlier with rfl | ⟨shorter, rfl, isShorter⟩
      · exact good
      · exact (ih invNext (step.mpr holds) admitsRest).mpr rest shorter isShorter

theorem forall_prefix_iff_meets {Inv Good : State → Prop}
    (keeps : ∀ state op, Inv state → Inv (machine.next state op))
    (steps : ∀ state op, Inv state → Good state →
      (Good (machine.next state op) ↔ condition state op))
    (initial : Inv state) (good : Good state) (ops : List Op) :
    (∀ earlier, earlier <+: ops → Good (machine.run state earlier)) ↔
      machine.Meets condition state ops :=
  machine.forall_prefix_iff_meets_of_admitted
    (fun state op holds (_ : True) => keeps state op holds)
    (fun state op holds _ => steps state op holds) initial good
    (machine.meets_of_forall (fun _ _ => trivial) state ops)

section Clocked

variable {Time : Type*} [Preorder Time] (reading : Op → Time)

/-- The clock readings of a run never go back, and start no earlier than
`clock`. -/
def Nondecreasing (clock : Time) (ops : List Op) : Prop :=
  (clock :: ops.map reading).Pairwise (· ≤ ·)

theorem nondecreasing_cons {clock : Time} {op : Op} {ops : List Op} :
    Nondecreasing reading clock (op :: ops) ↔
      clock ≤ reading op ∧ Nondecreasing reading (reading op) ops := by
  simp only [Nondecreasing, map_cons, pairwise_cons, mem_cons, mem_map]
  constructor
  · rintro ⟨fromClock, fromHead, rest⟩
    exact ⟨fromClock _ (Or.inl rfl), fromHead, rest⟩
  · rintro ⟨first, fromHead, rest⟩
    refine ⟨?_, fromHead, rest⟩
    rintro time (rfl | member)
    · exact first
    · exact first.trans (fromHead time member)

def lastReading (clock : Time) (ops : List Op) : Time :=
  ops.foldl (fun _ op => reading op) clock

theorem invariant_clocked_run {condition : State → Op → Prop} {Inv : State → Time → Prop}
    (keeps : ∀ state clock op, Inv state clock → clock ≤ reading op →
      condition state op → Inv (machine.next state op) (reading op))
    {state : State} {clock : Time} {ops : List Op} (initial : Inv state clock)
    (ordered : Nondecreasing reading clock ops) (meets : machine.Meets condition state ops) :
    Inv (machine.run state ops) (lastReading reading clock ops) := by
  induction ops generalizing state clock with
  | nil => exact initial
  | cons op ops ih =>
    obtain ⟨first, rest⟩ := (nondecreasing_cons reading).mp ordered
    exact ih (keeps state clock op initial first meets.1) rest meets.2

end Clocked

section History

variable {Entry : Type*} (entries : State → Op → List Entry)

def history : State → List Op → List Entry
  | _, [] => []
  | state, op :: ops =>
    entries state op ++ history (machine.next state op) ops

@[simp]
theorem history_nil (state : State) :
    machine.history entries state [] = [] :=
  rfl

@[simp]
theorem history_cons (state : State) (op : Op) (ops : List Op) :
    machine.history entries state (op :: ops) =
      entries state op ++ machine.history entries (machine.next state op) ops :=
  rfl

end History

section Simulation

variable {OtherState : Type*} {other : Machine OtherState Op Answer}

def answers (state : State) (ops : List Op) : List Answer :=
  machine.history (fun state op => [machine.answer state op]) state ops

@[simp]
theorem answers_nil (state : State) : machine.answers state [] = [] :=
  rfl

@[simp]
theorem answers_cons (state : State) (op : Op) (ops : List Op) : machine.answers state (op :: ops) =
      machine.answer state op :: machine.answers (machine.next state op) ops :=
  rfl

theorem simulation_run {condition : State → Op → Prop} {Simulates : State → OtherState → Prop}
    (steps : ∀ state otherState op, Simulates state otherState → condition state op →
      machine.answer state op = other.answer otherState op ∧
        Simulates (machine.next state op) (other.next otherState op))
    {state : State} {otherState : OtherState} {ops : List Op}
    (initial : Simulates state otherState) (meets : machine.Meets condition state ops) :
    machine.answers state ops = other.answers otherState ops ∧
      Simulates (machine.run state ops) (other.run otherState ops) := by
  induction ops generalizing state otherState with
  | nil => exact ⟨rfl, initial⟩
  | cons op ops ih =>
    obtain ⟨same, later⟩ := steps state otherState op initial meets.1
    obtain ⟨answers, ends⟩ := ih later meets.2
    exact ⟨by rw [answers_cons, answers_cons, same, answers], ends⟩

end Simulation

end Machine

end StepMachine
