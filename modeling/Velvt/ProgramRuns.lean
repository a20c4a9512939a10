import Velvt.TaskInvariants

/-!
# Uninterrupted runs of programs

A program that nothing interrupts makes its calls one after the other; its surroundings decide each
call, and a condition on the calls says what they may decide.  A program ensures a postcondition if
every run under the condition ends in it, and the rules derive that from its calls in their order.
-/

namespace TaskPrograms

variable {Call : Type → Type} {Shared Input First Second Error : Type}
  (handler : Handler Call Shared Input)

namespace Program

/-- The result of a program and the state that it leaves, with one input for each call.  A call
that has to wait, or that has no input, ends the run without a result. -/
def run : Program Call First → List Input → Shared → Option (First × Shared)
  | .done result, _, shared => some (result, shared)
  | .call _ _, [], _ => none
  | .call operation resume, input :: inputs, shared =>
    match handler _ input shared operation with
    | some (answer, after) => (resume answer).run inputs after
    | none => none

/-- Every call of a run meets the condition. -/
def MeetsAlong (condition : CallCondition Call Shared Input) :
    Program Call First → List Input → Shared → Prop
  | .done _, _, _ => True
  | .call _ _, [], _ => True
  | .call operation resume, input :: inputs, shared =>
    condition _ input shared operation ∧
      match handler _ input shared operation with
      | some (answer, after) => (resume answer).MeetsAlong condition inputs after
      | none => True

instance decidableMeetsAlong (condition : CallCondition Call Shared Input)
    [∀ Answer input shared operation, Decidable (condition Answer input shared operation)] :
    (program : Program Call First) → (inputs : List Input) → (shared : Shared) →
      Decidable (program.MeetsAlong handler condition inputs shared)
  | .done _, _, _ => inferInstanceAs (Decidable True)
  | .call _ _, [], _ => inferInstanceAs (Decidable True)
  | .call operation resume, input :: inputs, shared => by
    have rest (answer) (after : Shared) :
        Decidable ((resume answer).MeetsAlong handler condition inputs after) :=
      decidableMeetsAlong condition (resume answer) inputs after
    unfold MeetsAlong
    cases handler _ input shared operation <;> infer_instance

/-- Every run under the condition ends as the postcondition says. -/
def Ensures (condition : CallCondition Call Shared Input) (post : First → Shared → Prop) :
    Program Call First → Shared → Prop
  | .done result, shared => post result shared
  | .call operation resume, shared =>
    ∀ input, condition _ input shared operation → ∀ answer after,
      handler _ input shared operation = some (answer, after) →
        (resume answer).Ensures condition post after

end Program

variable {handler} {condition : CallCondition Call Shared Input} {shared after : Shared}

variable {program : Program Call First}

theorem Program.Ensures.run {post : First → Shared → Prop}
    {inputs : List Input} {result : First} (ensures : program.Ensures handler condition post shared)
    (meets : program.MeetsAlong handler condition inputs shared)
    (ends : program.run handler inputs shared = some (result, after)) : post result after := by
  induction program generalizing inputs shared with
  | done value =>
    obtain ⟨rfl, rfl⟩ := Prod.mk.inj (Option.some.inj ends)
    exact ensures
  | call operation resume ih =>
    cases inputs with
    | nil => cases ends
    | cons input inputs =>
      simp only [Program.MeetsAlong] at meets
      obtain ⟨admitted, along⟩ := meets
      simp only [Program.run] at ends
      split at ends
      next answer between handled =>
        rw [handled] at along
        exact ih answer (ensures input admitted answer between handled) along ends
      next => cases ends

theorem ensures_bind {post : Second → Shared → Prop}
    {next : First → Program Call Second} :
    (program >>= next).Ensures handler condition post shared ↔ program.Ensures handler condition
        (fun result => (next result).Ensures handler condition post) shared := by
  induction program generalizing shared with
  | done result => exact Iff.rfl
  | call operation resume ih =>
    constructor
    · exact fun ensures input admitted answer between handled =>
        (ih answer).mp (ensures input admitted answer between handled)
    · exact fun ensures input admitted answer between handled =>
        (ih answer).mpr (ensures input admitted answer between handled)

theorem Program.Ensures.mono {strong weak : First → Shared → Prop}
    (ensures : program.Ensures handler condition strong shared)
    (implies : ∀ result last, strong result last → weak result last) :
    program.Ensures handler condition weak shared := by
  induction program generalizing shared with
  | done result => exact implies result shared ensures
  | call operation resume ih =>
    exact fun input admitted answer between handled =>
      ih answer (ensures input admitted answer between handled)

theorem ensures_except_bind {post : Except Error Second → Shared → Prop}
    {program : ExceptT Error (Program Call) First}
    {next : First → ExceptT Error (Program Call) Second} :
    (program >>= next).run.Ensures handler condition post shared ↔
      program.run.Ensures handler condition (fun result last =>
        match result with
        | .ok value => (next value).run.Ensures handler condition post last
        | .error error => post (.error error) last) shared := by
  change Program.Ensures handler condition post (ExceptT.run program >>= ExceptT.bindCont next)
    shared ↔ _
  rw [ensures_bind]
  constructor
  · intro ensures
    refine ensures.mono ?_
    rintro (error | value) last ends
    · exact ends
    · exact ends
  · intro ensures
    refine ensures.mono ?_
    rintro (error | value) last ends
    · exact ends
    · exact ends

theorem ensures_except_catch {post : Except Error First → Shared → Prop}
    {program : ExceptT Error (Program Call) First}
    {handle : Error → ExceptT Error (Program Call) First}
    (ensures : program.run.Ensures handler condition (fun result last =>
      match result with
      | .ok value => post (.ok value) last
      | .error error => (handle error).run.Ensures handler condition post last) shared) :
    (tryCatch program handle).run.Ensures handler condition post shared := by
  change Program.Ensures handler condition post (ExceptT.run program >>= _) shared
  rw [ensures_bind]
  refine ensures.mono ?_
  rintro (error | value) last ends
  · exact ends
  · exact ends

end TaskPrograms
