import Mathlib.Data.List.Induction
import Mathlib.Order.Bounds.Basic
import Mathlib.Order.MinMax

/-!
# Step-up procedures

Values stand in order, and each is compared with a threshold of its rank.
-/

namespace StepUp

open List

variable {α R : Type*}

section Lowest

variable [LinearOrder R] {top bound : R} {value : Nat → R → R} {rank : Nat} {values : List R}

def lowest (top : R) (value : Nat → R → R) (rank : Nat) : List R → R
  | [] => top
  | p :: later => min (lowest top value (rank + 1) later) (value rank p)

theorem lowest_le_iff : lowest top value rank values ≤ bound ↔
    top ≤ bound ∨ ∃ step p, values[step]? = some p ∧ value (rank + step) p ≤ bound := by
  induction values generalizing rank with
  | nil => simp [lowest]
  | cons first later ih =>
    rw [lowest, min_le_iff, ih, or_assoc]
    apply or_congr_right
    constructor
    · rintro (⟨step, p, isValue, within⟩ | within)
      · refine ⟨step + 1, p, isValue, ?_⟩
        rwa [← Nat.add_assoc, Nat.add_right_comm]
      · exact ⟨0, first, rfl, within⟩
    · rintro ⟨step, p, isValue, within⟩
      cases step with
      | zero =>
        obtain rfl := Option.some.inj isValue
        exact Or.inr within
      | succ step =>
        left
        refine ⟨step, p, isValue, ?_⟩
        rwa [← Nat.add_assoc, Nat.add_right_comm] at within

theorem isLeast_lowest (nonempty : values ≠ []) (atMost : ∀ rank p, value rank p ≤ top) :
    IsLeast {x | ∃ step p, values[step]? = some p ∧ value (rank + step) p = x}
      (lowest top value rank values) := by
  have below : ∀ step p, values[step]? = some p →
      lowest top value rank values ≤ value (rank + step) p := by
    intro step p isValue
    exact lowest_le_iff.mpr (Or.inr ⟨step, p, isValue, le_rfl⟩)
  constructor
  · obtain bounded | ⟨step, p, isValue, within⟩ := lowest_le_iff.mp
      (le_refl (lowest top value rank values))
    · obtain ⟨first, later, rfl⟩ := exists_cons_of_ne_nil nonempty
      refine ⟨0, first, rfl, le_antisymm ?_ (below 0 first rfl)⟩
      exact (atMost _ _).trans bounded
    · exact ⟨step, p, isValue, le_antisymm within (below step p isValue)⟩
  · rintro x ⟨step, p, isValue, rfl⟩
    exact below step p isValue

end Lowest

section LastMeeting

variable {meets : Nat → α → Prop} [∀ position entry, Decidable (meets position entry)]
  {entries : List α} {position : Nat}

def lastMeeting (meets : Nat → α → Prop) [∀ position entry, Decidable (meets position entry)]
    (entries : List α) : Option Nat :=
  entries.zipIdx.foldl (fun last entry => if meets entry.2 entry.1 then some entry.2 else last) none

/-- Some entry from the position on meets the condition. -/
theorem exists_lastMeeting_iff : (∃ last, lastMeeting meets entries = some last ∧ position ≤ last) ↔
    ∃ later entry, position ≤ later ∧ entries[later]? = some entry ∧ meets later entry := by
  induction entries using List.reverseRecOn with
  | nil => simp [lastMeeting]
  | append_singleton entries final ih =>
    have step : lastMeeting meets (entries ++ [final]) =
        if meets entries.length final then some entries.length
        else lastMeeting meets entries := by
      rw [lastMeeting, zipIdx_append, foldl_append, Nat.zero_add]
      rfl
    have kept : ∀ {later : Nat} {entry : α}, entries[later]? = some entry →
        (entries ++ [final])[later]? = some entry ∧ later < entries.length := by
      intro later entry isEntry
      obtain ⟨inside, -⟩ := List.getElem?_eq_some_iff.mp isEntry
      rw [List.getElem?_append_left inside]
      exact ⟨isEntry, inside⟩
    rw [step]
    by_cases last : meets entries.length final
    · rw [if_pos last]
      constructor
      · rintro ⟨found, isLast, atMost⟩
        obtain rfl := Option.some.inj isLast
        exact ⟨entries.length, final, atMost, by simp, last⟩
      · rintro ⟨later, entry, atMost, isEntry, -⟩
        obtain ⟨inside, -⟩ := List.getElem?_eq_some_iff.mp isEntry
        rw [length_append, length_singleton] at inside
        exact ⟨entries.length, rfl, by omega⟩
    · rw [if_neg last, ih]
      constructor
      · rintro ⟨later, entry, atMost, isEntry, met⟩
        exact ⟨later, entry, atMost, (kept isEntry).1, met⟩
      · rintro ⟨later, entry, atMost, isEntry, met⟩
        by_cases inside : later < entries.length
        · rw [List.getElem?_append_left inside] at isEntry
          exact ⟨later, entry, atMost, isEntry, met⟩
        · obtain ⟨shorter, rfl⟩ := List.getElem?_eq_some_iff.mp isEntry
          rw [length_append, length_singleton] at shorter
          obtain rfl : later = entries.length := by omega
          rw [getElem_append_right (Nat.le_refl _)] at met
          simp only [Nat.sub_self, getElem_cons_zero] at met
          exact absurd met last

end LastMeeting

section Counts

variable [LinearOrder R] {values : List R} {p q bound top : R} {position later : Nat}
  {threshold : Nat → R} {value : Nat → R → R}

def countUpTo (values : List R) (bound : R) : Nat := values.countP (· ≤ bound)

/-- The value is at most one that is within the threshold of the values up to it. -/
def Rejects (threshold : Nat → R) (values : List R) (p : R) : Prop :=
  ∃ bound ∈ values, p ≤ bound ∧ bound ≤ threshold (countUpTo values bound)

theorem rejects_perm {other : List R} (perm : values.Perm other) :
    Rejects threshold values p ↔ Rejects threshold other p := by
  simp only [Rejects, countUpTo, perm.mem_iff, perm.countP_eq]

theorem lt_countUpTo_iff (sorted : values.Pairwise (· ≤ ·)) (here : values[position]? = some p) :
    position < countUpTo values bound ↔ p ≤ bound := by
  induction values generalizing position with
  | nil => exact absurd here (by simp)
  | cons first values ih =>
    obtain ⟨least, sortedLater⟩ := pairwise_cons.mp sorted
    rw [countUpTo, countP_cons, ← countUpTo]
    by_cases within : first ≤ bound
    · rw [if_pos (decide_eq_true within)]
      cases position with
      | zero =>
        obtain rfl := Option.some.inj here
        simp [within]
      | succ position => rw [← ih sortedLater here, Nat.add_lt_add_iff_right]
    · have above : ∀ p ∈ values, ¬ p ≤ bound := by
        intro p isValue atMost
        exact within ((least p isValue).trans atMost)
      have none : countUpTo values bound = 0 := by
        rw [countUpTo, countP_eq_zero]
        intro p isValue
        simpa using above p isValue
      have outside : ¬ p ≤ bound := by
        obtain rfl | isValue := mem_cons.mp (mem_of_getElem? here)
        · exact within
        · exact above p isValue
      rw [none, if_neg (by simpa using within)]
      simp [outside]

theorem le_of_le (sorted : values.Pairwise (· ≤ ·)) (here : values[position]? = some p)
    (there : values[later]? = some q) (atMost : position ≤ later) : p ≤ q :=
  (lt_countUpTo_iff sorted here).mp
    (Nat.lt_of_le_of_lt atMost ((lt_countUpTo_iff sorted there).mpr le_rfl))

theorem getElem?_countUpTo (sorted : values.Pairwise (· ≤ ·)) (isValue : bound ∈ values) :
    ∃ position, values[position]? = some bound ∧ position + 1 = countUpTo values bound := by
  obtain ⟨found, here⟩ := mem_iff_getElem?.mp isValue
  have counted := (lt_countUpTo_iff sorted here).mpr le_rfl
  have short : countUpTo values bound ≤ values.length := countP_le_length
  have inside : countUpTo values bound - 1 < values.length := by omega
  refine ⟨countUpTo values bound - 1, ?_, by omega⟩
  have there := List.getElem?_eq_getElem inside
  have atMost : values[countUpTo values bound - 1] ≤ bound :=
    (lt_countUpTo_iff sorted there).mp (by omega)
  have atLeast := le_of_le sorted here there (by omega)
  rw [there, le_antisymm atMost atLeast]

theorem rejects_iff_rank (sorted : values.Pairwise (· ≤ ·)) (here : values[position]? = some p)
    (mono : ∀ bound ∈ values, ∀ rank later, 0 < rank → rank ≤ later → bound ≤ threshold rank →
      bound ≤ threshold later) :
    Rejects threshold values p ↔
      ∃ later q, position ≤ later ∧ values[later]? = some q ∧ q ≤ threshold (later + 1) := by
  constructor
  · rintro ⟨bound, isValue, atMost, within⟩
    obtain ⟨later, there, counted⟩ := getElem?_countUpTo sorted isValue
    rw [← counted] at within
    refine ⟨later, bound, ?_, there, within⟩
    have placed := (lt_countUpTo_iff sorted here).mpr atMost
    omega
  · rintro ⟨later, q, atMost, there, within⟩
    have isValue := mem_of_getElem? there
    refine ⟨q, isValue, le_of_le sorted here there atMost, ?_⟩
    have counted := (lt_countUpTo_iff sorted there).mpr le_rfl
    exact mono q isValue (later + 1) _ (Nat.succ_pos later) counted within

theorem isLeast_lowest_count (sorted : values.Pairwise (· ≤ ·))
    (here : values[position]? = some p) (atMost : ∀ rank p, value rank p ≤ top)
    (anti : ∀ bound ∈ values, ∀ rank later, 0 < rank → rank ≤ later →
      value later bound ≤ value rank bound) :
    IsLeast {x | ∃ bound ∈ values, p ≤ bound ∧ value (countUpTo values bound) bound = x}
      (lowest top value (position + 1) (values.drop position)) := by
  have inside := (List.getElem?_eq_some_iff.mp here).1
  have nonempty : values.drop position ≠ [] := by
    simpa using inside
  obtain ⟨⟨step, q, there, attained⟩, least⟩ :=
    @isLeast_lowest R _ top value (position + 1) _ nonempty atMost
  rw [List.getElem?_drop] at there
  have byCounts : ∀ bound ∈ values, p ≤ bound →
      lowest top value (position + 1) (values.drop position) ≤
        value (countUpTo values bound) bound := by
    intro bound isValue below
    obtain ⟨later, there, counted⟩ := getElem?_countUpTo sorted isValue
    have placed := (lt_countUpTo_iff sorted here).mpr below
    rw [← counted] at placed ⊢
    apply least
    refine ⟨later - position, bound, ?_, ?_⟩
    · rw [List.getElem?_drop, Nat.add_sub_cancel' (Nat.le_of_lt_succ placed)]
      exact there
    · congr 1
      omega
  have isValue := mem_of_getElem? there
  have below := le_of_le sorted here there (Nat.le_add_right _ _)
  constructor
  · refine ⟨q, isValue, below, le_antisymm ?_ (byCounts q isValue below)⟩
    rw [← attained]
    have placed := (lt_countUpTo_iff sorted there).mpr le_rfl
    exact anti q isValue _ _ (by omega) (by omega)
  · rintro x ⟨bound, isValue, below, rfl⟩
    exact byCounts bound isValue below

end Counts

end StepUp
