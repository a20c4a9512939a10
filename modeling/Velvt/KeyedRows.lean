import Mathlib.Data.Int.Interval

/-!
# Tables of rows with an integer key

What sorting does with a row that is added at the end of a table, with a table whose rows are
rewritten under their keys, and with part of a table; and how many keys fit in a window when no two
lie closer than a gap.
-/

namespace KeyedRows

open List

section Sorted

variable {Row : Type*} {before : Row → Row → Prop} [DecidableRel before]

theorem insertionSort_append_first {first : Row} {rows : List Row}
    (behind : ∀ row ∈ rows, ¬ before row first) :
    (rows ++ [first]).insertionSort before = first :: rows.insertionSort before := by
  induction rows with
  | nil => simp
  | cons head rows ih =>
    have rest := ih fun row member => behind row (mem_cons_of_mem _ member)
    have last := behind head mem_cons_self
    simp [rest, last]

theorem orderedInsert_append {row : Row} {front : List Row}
    (behind : ∀ other ∈ front, ¬ before row other) (rows : List Row) :
    (front ++ rows).orderedInsert before row = front ++ rows.orderedInsert before row := by
  induction front with
  | nil => rfl
  | cons head front ih =>
    rw [cons_append, orderedInsert_cons, if_neg (behind head mem_cons_self),
      ih fun other member => behind other (mem_cons_of_mem _ member), cons_append]

theorem insertionSort_append_front {front rows : List Row}
    (behind : ∀ row ∈ rows, ∀ other ∈ front, ¬ before row other) :
    (rows ++ front).insertionSort before =
      front.insertionSort before ++ rows.insertionSort before := by
  induction rows with
  | nil => simp
  | cons head rows ih =>
    have rest := ih fun row member => behind row (mem_cons_of_mem _ member)
    rw [cons_append, insertionSort_cons, rest, insertionSort_cons]
    apply orderedInsert_append
    intro other member
    exact behind head mem_cons_self other ((mem_insertionSort _).mp member)

omit [DecidableRel before] in
theorem takeWhile_eq_filter {condition : Row → Bool} {rows : List Row}
    (sorted : rows.Pairwise before)
    (closed : ∀ first second, before first second → condition second = true →
      condition first = true) : rows.takeWhile condition = rows.filter condition := by
  induction rows with
  | nil => rfl
  | cons row rows ih =>
    obtain ⟨first, rest⟩ := pairwise_cons.mp sorted
    cases shown : condition row with
    | true => simp [shown, ih rest]
    | false =>
      have none : rows.filter condition = [] := by
        apply filter_eq_nil_iff.mpr
        intro other member selected
        rw [closed row other (first other member) selected] at shown
        cases shown
      simp [shown, none]

variable [IsTrans Row before]

theorem filter_orderedInsert {condition : Row → Bool} {rows : List Row}
    (sorted : rows.Pairwise before) (row : Row) :
    (rows.orderedInsert before row).filter condition =
      if condition row then (rows.filter condition).orderedInsert before row
      else rows.filter condition := by
  induction rows with
  | nil => simp [filter_cons]
  | cons head rows ih =>
    obtain ⟨first, rest⟩ := pairwise_cons.mp sorted
    rw [orderedInsert_cons]
    split
    next ahead =>
      -- The row also stands before what the condition selects.
      have stays : ((head :: rows).filter condition).orderedInsert before row =
          row :: (head :: rows).filter condition := by
        cases selected : (head :: rows).filter condition with
        | nil => rfl
        | cons other others =>
          have member : other ∈ head :: rows :=
            mem_of_mem_filter (selected ▸ mem_cons_self)
          have behind : before row other := by
            rcases mem_cons.mp member with rfl | later
            · exact ahead
            · exact IsTrans.trans row head other ahead (first other later)
          rw [orderedInsert_cons, if_pos behind]
      rw [filter_cons, stays]
    next behind =>
      rw [filter_cons, ih rest, filter_cons]
      cases condition row with
      | false => rfl
      | true =>
        cases condition head with
        | false => rfl
        | true =>
          simp only [if_true]
          rw [orderedInsert_cons, if_neg behind]

theorem filter_insertionSort [Std.Total before] (condition : Row → Bool) (rows : List Row) :
    (rows.insertionSort before).filter condition =
      (rows.filter condition).insertionSort before := by
  induction rows with
  | nil => rfl
  | cons row rows ih =>
    rw [insertionSort_cons, filter_orderedInsert (pairwise_insertionSort before rows),
      ih, filter_cons]
    split <;> rfl

end Sorted

section Rewritten

variable {Row Other : Type*} {before : Row → Row → Prop} {after : Other → Other → Prop}
  [DecidableRel before] [DecidableRel after] {relation : Row → Other → Prop}

variable {others : List Other}

variable {rows : List Row}

theorem forall₂_orderedInsert (agrees : ∀ row other laterRow laterOther, relation row other →
      relation laterRow laterOther → (before row laterRow ↔ after other laterOther))
    {row : Row} {other : Other}
    (head : relation row other) (related : List.Forall₂ relation rows others) :
    List.Forall₂ relation (rows.orderedInsert before row) (others.orderedInsert after other) := by
  induction related with
  | nil => exact .cons head .nil
  | @cons first firstOther rows others firstRelated related ih =>
    have same := agrees row other first firstOther head firstRelated
    by_cases ahead : before row first
    · rw [orderedInsert_cons_of_le _ _ ahead, orderedInsert_cons_of_le _ _ (same.mp ahead)]
      exact .cons head (.cons firstRelated related)
    · rw [orderedInsert_of_not_le _ _ ahead,
        orderedInsert_of_not_le _ _ (fun behind => ahead (same.mpr behind))]
      exact .cons firstRelated ih

theorem forall₂_insertionSort (agrees : ∀ row other laterRow laterOther, relation row other →
      relation laterRow laterOther → (before row laterRow ↔ after other laterOther))
    (related : List.Forall₂ relation rows others) :
    List.Forall₂ relation (rows.insertionSort before) (others.insertionSort after) := by
  induction related with
  | nil => exact .nil
  | cons head _ ih => exact forall₂_orderedInsert agrees head ih

theorem forall₂_trans {Last : Type*} {further : Other → Last → Prop} {whole : Row → Last → Prop}
    (compose : ∀ row other last, relation row other → further other last → whole row last)
    {lasts : List Last}
    (related : List.Forall₂ relation rows others)
    (furtherRelated : List.Forall₂ further others lasts) : List.Forall₂ whole rows lasts := by
  induction related generalizing lasts with
  | nil =>
    cases furtherRelated
    exact .nil
  | cons head _ ih =>
    cases furtherRelated with
    | cons furtherHead furtherRest =>
      exact .cons (compose _ _ _ head furtherHead) (ih furtherRest)

theorem forall₂_of_sublist {part rows : List Row}
    (sub : part.Sublist rows) (related : List.Forall₂ relation rows others) :
    ∃ otherPart, List.Forall₂ relation part otherPart ∧ otherPart.Sublist others := by
  induction sub generalizing others with
  | slnil =>
    cases related
    exact ⟨[], .nil, .slnil⟩
  | cons row _ ih =>
    cases related with
    | cons _ rest =>
      obtain ⟨otherPart, relatedPart, subPart⟩ := ih rest
      exact ⟨otherPart, relatedPart, subPart.cons _⟩
  | cons_cons row _ ih =>
    cases related with
    | @cons _ other _ _ head rest =>
      obtain ⟨otherPart, relatedPart, subPart⟩ := ih rest
      exact ⟨other :: otherPart, .cons head relatedPart, subPart.cons_cons _⟩

theorem sublist_insertionSort_of_sublist [Std.Total before] [IsTrans Row before]
    {part rows : List Row} (sub : part.Sublist rows) :
    (part.insertionSort before).Sublist (rows.insertionSort before) := by
  induction sub with
  | slnil => exact .slnil
  | cons row _ ih => exact ih.trans (sublist_orderedInsert row _)
  | cons_cons row _ ih =>
    exact ih.orderedInsert_sublist row (pairwise_insertionSort before _)

end Rewritten

section Split

variable {Row : Type*} (key : Row → Int)

theorem filter_append_filter {rows : List Row}
    (sorted : rows.Pairwise fun first second => key first ≤ key second) (bound : Int) :
    rows = (rows.filter fun row => decide (key row < bound)) ++
      rows.filter fun row => decide (bound ≤ key row) := by
  induction rows with
  | nil => rfl
  | cons row rows ih =>
    obtain ⟨first, rest⟩ := pairwise_cons.mp sorted
    by_cases early : key row < bound
    · have notLate : ¬ bound ≤ key row := by omega
      simpa [early, notLate] using ih rest
    · have late : bound ≤ key row := by omega
      have noneEarly : (rows.filter fun row => decide (key row < bound)) = [] := by
        rw [filter_eq_nil_iff]
        intro other member
        have behind := first other member
        simp only [decide_eq_true_eq]
        omega
      have split := ih rest
      rw [noneEarly, nil_append] at split
      simp [early, late, noneEarly, ← split]

theorem key_le_getLast {rows : List Row}
    (sorted : rows.Pairwise fun first second => key first ≤ key second) {last : Row}
    (isLast : rows.getLast? = some last) {row : Row} (member : row ∈ rows) :
    key row ≤ key last := by
  obtain ⟨before, rfl⟩ := List.getLast?_eq_some_iff.mp isLast
  rcases mem_append.mp member with earlier | single
  · exact (pairwise_append.mp sorted).2.2 row earlier last mem_cons_self
  · rw [mem_singleton.mp single]

end Split

/-- Two keys at least a gap apart. -/
def Apart (gap first second : Int) : Prop :=
  first + gap ≤ second ∨ second + gap ≤ first

theorem ediv_ne_of_apart {gap first second origin : Int} (positive : 0 < gap)
    (apart : Apart gap first second) :
    (first - origin) / gap ≠ (second - origin) / gap := by
  intro same
  have firstSpan := Int.mul_ediv_self_le (x := first - origin) positive.ne'
  have secondSpan := Int.mul_ediv_self_le (x := second - origin) positive.ne'
  have firstNext := Int.lt_mul_ediv_self_add (x := first - origin) positive
  have secondNext := Int.lt_mul_ediv_self_add (x := second - origin) positive
  rw [same] at firstSpan firstNext
  rcases apart with before | after <;> omega

theorem length_le_of_apart {gap first last : Int} (positive : 0 < gap) {keys : List Int}
    (apart : keys.Pairwise (Apart gap)) (within : ∀ key ∈ keys, first ≤ key ∧ key ≤ last) :
    keys.length ≤ ((last - first) / gap + 1).toNat := by
  have distinct : (keys.map fun key => (key - first) / gap).Nodup := by
    refine pairwise_map.mpr (apart.imp fun keysApart => ?_)
    exact ediv_ne_of_apart positive keysApart
  have inWindow : (keys.map fun key => (key - first) / gap).toFinset ⊆
      Finset.Icc 0 ((last - first) / gap) := by
    intro cell member
    obtain ⟨key, keyMem, rfl⟩ := mem_map.mp (mem_toFinset.mp member)
    obtain ⟨from_le, le_until⟩ := within key keyMem
    exact Finset.mem_Icc.mpr ⟨Int.ediv_nonneg (by omega) positive.le,
      Int.ediv_le_ediv positive (by omega)⟩
  calc
    keys.length = (keys.map fun key => (key - first) / gap).toFinset.card := by
      rw [toFinset_card_of_nodup distinct, length_map]
    _ ≤ (Finset.Icc 0 ((last - first) / gap)).card := Finset.card_le_card inWindow
    _ = ((last - first) / gap + 1).toNat := by
      rw [Int.card_Icc, sub_zero]

end KeyedRows
