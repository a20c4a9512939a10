import Mathlib.Data.List.Basic

/-!
# Exact readers

A reader takes the code of a value off the front of what is left of its input.  It is exact for a
language of codes when it takes every code of the language, whatever follows, and nothing else.
Exact readers in a row are exact for the codes in a row, and as they leave what follows alone, no
code of an exact reader is the front of another.
-/

namespace ExactReaders

open List

universe u

variable {Error Token : Type*} {State Value Other : Type u}

/-- The reader takes exactly the codes of the language off what is left. -/
structure Reads (left : State → List Token) (read : StateT State (Except Error) Value)
    (codes : Value → List Token → Prop) : Prop where
  sound : ∀ {state value next}, read.run state = .ok (value, next) →
    ∃ code, codes value code ∧ left state = code ++ left next
  complete : ∀ {state value code rest}, codes value code → left state = code ++ rest →
    ∃ next, read.run state = .ok (value, next) ∧ left next = rest

variable {left : State → List Token} {read : StateT State (Except Error) Value}
  {codes : Value → List Token → Prop} {continuation : Value → StateT State (Except Error) Other}
  {otherCodes : Value → Other → List Token → Prop}

namespace Reads

theorem congr {same : Value → List Token → Prop} (reads : Reads left read codes)
    (iff : ∀ value code, codes value code ↔ same value code) : Reads left read same where
  sound isRead := by
    obtain ⟨code, isCode, taken⟩ := reads.sound isRead
    exact ⟨code, (iff _ _).mp isCode, taken⟩
  complete isCode := reads.complete ((iff _ _).mpr isCode)

theorem pure (value : Value) : Reads left (Pure.pure value : StateT State (Except Error) Value)
    fun found code => found = value ∧ code = [] where
  sound isRead := by
    cases isRead
    exact ⟨[], ⟨rfl, rfl⟩, rfl⟩
  complete isCode isLeft := by
    obtain ⟨rfl, rfl⟩ := isCode
    exact ⟨_, rfl, isLeft⟩

theorem throw (error : Error) :
    Reads left (throwThe Error error : StateT State (Except Error) Value) fun _ _ => False where
  sound isRead := by cases isRead
  complete isCode := absurd isCode id

theorem bind (reads : Reads left read codes)
    (others : ∀ value, Reads left (continuation value) (otherCodes value)) :
    Reads left (read >>= continuation) fun other code => ∃ value front back,
      codes value front ∧ otherCodes value other back ∧ code = front ++ back where
  sound {state other next} isRead := by
    rw [StateT.run_bind] at isRead
    cases first : read.run state with
    | error error =>
      rw [first] at isRead
      cases isRead
    | ok between =>
      obtain ⟨value, middle⟩ := between
      rw [first] at isRead
      obtain ⟨front, isFront, taken⟩ := reads.sound first
      obtain ⟨back, isBack, takenToo⟩ := (others value).sound isRead
      refine ⟨front ++ back, ⟨value, front, back, isFront, isBack, rfl⟩, ?_⟩
      rw [taken, takenToo, append_assoc]
  complete {state other code rest} isCode isLeft := by
    obtain ⟨value, front, back, isFront, isBack, rfl⟩ := isCode
    rw [append_assoc] at isLeft
    obtain ⟨middle, first, isMiddle⟩ := reads.complete isFront isLeft
    obtain ⟨next, second, isNext⟩ := (others value).complete isBack isMiddle
    refine ⟨next, ?_, isNext⟩
    rw [StateT.run_bind, first]
    exact second

theorem guarded {condition : Prop} [Decidable condition] {error : Error}
    (reads : Reads left read codes) :
    Reads left (if condition then throwThe Error error else read)
      fun value code => ¬condition ∧ codes value code := by
  split
  · rename_i refused
    exact (throw error).congr fun value code => by simp [refused]
  · rename_i admitted
    exact reads.congr fun value code => by simp [admitted]

theorem code_unique (reads : Reads left read codes) {state : State} {value other : Value}
    {code otherCode rest otherRest : List Token} (isCode : codes value code)
    (isOther : codes other otherCode) (isLeft : left state = code ++ rest)
    (isLeftToo : left state = otherCode ++ otherRest) : value = other ∧ rest = otherRest := by
  obtain ⟨next, isRead, isNext⟩ := reads.complete isCode isLeft
  obtain ⟨nextToo, isReadToo, isNextToo⟩ := reads.complete isOther isLeftToo
  rw [isRead] at isReadToo
  cases isReadToo
  exact ⟨rfl, isNext.symm.trans isNextToo⟩

end Reads

def repeated (read : StateT State (Except Error) Value) :
    Nat → StateT State (Except Error) (List Value)
  | 0 => pure []
  | count + 1 => do
      let value ← read
      let values ← repeated read count
      pure (value :: values)

theorem Reads.repeated {code : Value → List Token} {valid : Value → Prop}
    (reads : Reads left read fun value found => valid value ∧ found = code value) (count : Nat) :
    Reads left (ExactReaders.repeated read count) fun values found =>
      (values.length = count ∧ ∀ value ∈ values, valid value) ∧ found = values.flatMap code := by
  induction count with
  | zero =>
    refine (Reads.pure []).congr fun values found => ?_
    constructor
    · rintro ⟨rfl, rfl⟩
      simp
    · rintro ⟨⟨length, -⟩, rfl⟩
      rw [length_eq_zero_iff.mp length]
      simp
  | succ count ih =>
    refine (reads.bind fun value => ih.bind fun values => Reads.pure (value :: values)).congr
      fun values found => ?_
    constructor
    · rintro ⟨value, _, _, ⟨isValid, rfl⟩, ⟨others, _, _, ⟨⟨length, areValid⟩, rfl⟩,
        ⟨rfl, rfl⟩, rfl⟩, rfl⟩
      refine ⟨⟨by rw [length_cons, length], forall_mem_cons.mpr ⟨isValid, areValid⟩⟩, ?_⟩
      rw [append_nil, flatMap_cons]
    · rintro ⟨⟨length, areValid⟩, rfl⟩
      cases values with
      | nil => cases length
      | cons value others =>
        obtain ⟨isValid, areOthers⟩ := forall_mem_cons.mp areValid
        refine ⟨value, _, _, ⟨isValid, rfl⟩, ⟨others, _, _,
          ⟨⟨Nat.succ.inj length, areOthers⟩, rfl⟩, ⟨rfl, rfl⟩, rfl⟩, ?_⟩
        rw [append_nil, flatMap_cons]

end ExactReaders
