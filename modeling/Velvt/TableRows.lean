import Mathlib.Data.List.Sort

/-!
# Statements over the rows of a table

A table is the list of its rows in the order in which they were added.  The statements are an
insert that merges on a conflict, an update of the rows a condition selects, the newest row of a
selection, and a deletion that keeps the first rows of an order; each has a lemma for the rows it
leaves, and one that says when it changes nothing.
-/

namespace TableRows

open List

variable {Row Key : Type*}

variable {rows : List Row} {condition : Row → Bool}

theorem map_eq_self_iff {change : Row → Row} :
    rows.map change = rows ↔ ∀ row ∈ rows, change row = row := by
  simpa using map_inj_left (f := change) (g := id) (l := rows)

theorem filter_map_of_spared {change : Row → Row}
    (spared : ∀ row ∈ rows, condition row = true → change row = row)
    (hidden : ∀ row ∈ rows, condition row = false → condition (change row) = false) :
    (rows.map change).filter condition = rows.filter condition := by
  induction rows with
  | nil => rfl
  | cons row rows ih =>
    have rest := ih (fun other member => spared other (mem_cons_of_mem _ member))
      (fun other member => hidden other (mem_cons_of_mem _ member))
    rw [map_cons, filter_cons, filter_cons, rest]
    cases shown : condition row with
    | true => rw [spared row mem_cons_self shown, shown]
    | false => simp [hidden row mem_cons_self shown]

theorem filter_eq_singleton {row : Row}
    (distinct : rows.Nodup) (member : row ∈ rows) (selected : condition row = true)
    (only : ∀ other ∈ rows, condition other = true → other = row) :
    rows.filter condition = [row] := by
  apply perm_singleton.mp
  apply (perm_ext_iff_of_nodup (distinct.filter _) (nodup_singleton row)).mpr
  intro other
  rw [mem_filter, mem_singleton]
  constructor
  · rintro ⟨among, chosen⟩
    exact only other among chosen
  · rintro rfl
    exact ⟨member, selected⟩

section Upsert

variable [DecidableEq Key]

/-- `INSERT … ON CONFLICT(key) DO UPDATE`: the row under the key is merged, and without one
a fresh row is added. -/
def upsert (key : Row → Key) (fresh : Row) (merge : Row → Row) (rows : List Row) : List Row :=
  if rows.any fun row => decide (key row = key fresh) then
    rows.map fun row => if key row = key fresh then merge row else row
  else
    rows ++ [fresh]

variable {key : Row → Key} {fresh : Row} {merge : Row → Row} {rows : List Row}

theorem upsert_of_present (present : ∃ row ∈ rows, key row = key fresh) :
    upsert key fresh merge rows =
      rows.map fun row => if key row = key fresh then merge row else row := by
  rw [upsert, if_pos]
  simpa using present

theorem upsert_of_absent (absent : ∀ row ∈ rows, key row ≠ key fresh) :
    upsert key fresh merge rows = rows ++ [fresh] := by
  rw [upsert, if_neg]
  simpa using absent

theorem mem_upsert {row : Row} : row ∈ upsert key fresh merge rows ↔
      (row ∈ rows ∧ key row ≠ key fresh) ∨ (∃ old ∈ rows, key old = key fresh ∧ row = merge old) ∨
          ((∀ old ∈ rows, key old ≠ key fresh) ∧ row = fresh) := by
  by_cases present : ∃ old ∈ rows, key old = key fresh
  · have notAbsent : ¬ ∀ old ∈ rows, key old ≠ key fresh := by
      obtain ⟨old, oldMem, same⟩ := present
      exact fun absent => absent old oldMem same
    rw [upsert_of_present present, mem_map]
    constructor
    · rintro ⟨old, oldMem, rfl⟩
      by_cases same : key old = key fresh
      · exact .inr (.inl ⟨old, oldMem, same, if_pos same⟩)
      · rw [if_neg same]
        exact .inl ⟨oldMem, same⟩
    · rintro (⟨member, other⟩ | ⟨old, oldMem, same, rfl⟩ | ⟨absent, -⟩)
      · exact ⟨row, member, if_neg other⟩
      · exact ⟨old, oldMem, if_pos same⟩
      · exact absurd absent notAbsent
  · have absent : ∀ old ∈ rows, key old ≠ key fresh := by
      intro old oldMem same
      exact present ⟨old, oldMem, same⟩
    rw [upsert_of_absent absent, mem_append, mem_singleton]
    constructor
    · rintro (member | rfl)
      · exact .inl ⟨member, absent row member⟩
      · exact .inr (.inr ⟨absent, rfl⟩)
    · rintro (⟨member, -⟩ | ⟨old, oldMem, same, -⟩ | ⟨-, rfl⟩)
      · exact .inl member
      · exact absurd same (absent old oldMem)
      · exact .inr rfl

theorem exists_mem_upsert (key : Row → Key) (fresh : Row) (merge : Row → Row) (rows : List Row) :
    ∃ row ∈ upsert key fresh merge rows,
      row = fresh ∨ ∃ old ∈ rows, key old = key fresh ∧ row = merge old := by
  by_cases present : ∃ old ∈ rows, key old = key fresh
  · obtain ⟨old, oldMem, same⟩ := present
    exact ⟨merge old, mem_upsert.mpr (.inr (.inl ⟨old, oldMem, same, rfl⟩)),
      .inr ⟨old, oldMem, same, rfl⟩⟩
  · refine ⟨fresh, mem_upsert.mpr (.inr (.inr ⟨?_, rfl⟩)), .inl rfl⟩
    intro old oldMem same
    exact present ⟨old, oldMem, same⟩

section

variable (keeps : ∀ row, key row = key fresh → key (merge row) = key row)

include keeps

theorem map_key_upsert_of_present (present : ∃ row ∈ rows, key row = key fresh) :
    (upsert key fresh merge rows).map key = rows.map key := by
  rw [upsert_of_present present, map_map]
  refine map_congr_left fun row _ => ?_
  by_cases same : key row = key fresh
  · simp [same, keeps row same]
  · simp [same]

theorem mem_map_key_upsert {value : Key} :
    value ∈ (upsert key fresh merge rows).map key ↔ value ∈ rows.map key ∨ value = key fresh := by
  by_cases present : ∃ row ∈ rows, key row = key fresh
  · rw [map_key_upsert_of_present keeps present]
    obtain ⟨row, member, same⟩ := present
    have already : key fresh ∈ rows.map key := same ▸ mem_map_of_mem member
    constructor
    · exact .inl
    · rintro (old | rfl)
      · exact old
      · exact already
  · have absent : ∀ row ∈ rows, key row ≠ key fresh := by
      intro row member same
      exact present ⟨row, member, same⟩
    rw [upsert_of_absent absent, map_append, mem_append]
    simp

theorem nodup_map_key_upsert
    (distinct : (rows.map key).Nodup) : ((upsert key fresh merge rows).map key).Nodup := by
  by_cases present : ∃ row ∈ rows, key row = key fresh
  · rwa [map_key_upsert_of_present keeps present]
  · have absent : ∀ row ∈ rows, key row ≠ key fresh := by
      intro row member same
      exact present ⟨row, member, same⟩
    rw [upsert_of_absent absent, map_append, map_singleton]
    refine nodup_append.mpr ⟨distinct, nodup_singleton _, ?_⟩
    intro first firstMem second secondMem
    obtain ⟨row, rowMem, rfl⟩ := mem_map.mp firstMem
    rw [mem_singleton.mp secondMem]
    exact absent row rowMem

end

theorem upsert_eq_self_iff : upsert key fresh merge rows = rows ↔
      (∃ row ∈ rows, key row = key fresh) ∧
        ∀ row ∈ rows, key row = key fresh → merge row = row := by
  by_cases present : ∃ row ∈ rows, key row = key fresh
  · rw [upsert_of_present present, map_eq_self_iff]
    constructor
    · intro same
      refine ⟨present, fun row member atKey => ?_⟩
      have kept := same row member
      rwa [if_pos atKey] at kept
    · rintro ⟨-, same⟩ row member
      by_cases atKey : key row = key fresh
      · rw [if_pos atKey, same row member atKey]
      · rw [if_neg atKey]
  · have absent : ∀ row ∈ rows, key row ≠ key fresh := by
      intro row member same
      exact present ⟨row, member, same⟩
    rw [upsert_of_absent absent]
    simp [present]

end Upsert

section Lookup

variable [DecidableEq Key] {key : Row → Key} {rows : List Row}

theorem find?_key_of_mem (distinct : (rows.map key).Nodup) {row : Row} (member : row ∈ rows) :
    rows.find? (fun other => key other == key row) = some row := by
  induction rows with
  | nil => exact absurd member not_mem_nil
  | cons first rows ih =>
    rw [map_cons, nodup_cons] at distinct
    rcases mem_cons.mp member with rfl | later
    · simp
    · have other : key first ≠ key row := fun same =>
        distinct.1 (same ▸ mem_map_of_mem later)
      simp [other, ih distinct.2 later]

end Lookup

section Update

/-- `UPDATE … WHERE`. -/
def update (selected : Row → Bool) (change : Row → Row) (rows : List Row) : List Row :=
  rows.map fun row => if selected row then change row else row

variable {selected : Row → Bool} {change : Row → Row} {rows : List Row}

theorem mem_update {row : Row} : row ∈ update selected change rows ↔
      (row ∈ rows ∧ selected row = false) ∨
        ∃ old ∈ rows, selected old = true ∧ row = change old := by
  rw [update, mem_map]
  constructor
  · rintro ⟨old, oldMem, rfl⟩
    cases chosen : selected old with
    | true => exact .inr ⟨old, oldMem, chosen, by simp⟩
    | false => exact .inl (by simp [oldMem, chosen])
  · rintro (⟨member, spared⟩ | ⟨old, oldMem, chosen, rfl⟩)
    · exact ⟨row, member, by simp [spared]⟩
    · exact ⟨old, oldMem, by simp [chosen]⟩

theorem update_eq_self_iff : update selected change rows = rows ↔
      ∀ row ∈ rows, selected row = true → change row = row := by
  rw [update, map_eq_self_iff]
  refine forall₂_congr fun row _ => ?_
  cases selected row <;> simp

theorem map_update {Field : Type*} {field : Row → Field}
    (keeps : ∀ row, field (change row) = field row) :
    (update selected change rows).map field = rows.map field := by
  rw [update, map_map]
  refine map_congr_left fun row _ => ?_
  cases chosen : selected row <;> simp [chosen, keeps]

theorem find?_update {condition : Row → Bool}
    (keeps : ∀ row, condition (change row) = condition row) :
    (update selected change rows).find? condition =
      (rows.find? condition).map fun row => if selected row then change row else row := by
  have same : (condition ∘ fun row => if selected row then change row else row) =
      condition := by
    funext row
    cases chosen : selected row <;> simp [chosen, keeps]
  rw [update, List.find?_map, same]

end Update

section Newest

/-- `ORDER BY instant DESC LIMIT 1`.  Of several newest rows it is the one added first. -/
def newest (instant : Row → Int) (rows : List Row) : Option Row :=
  (rows.insertionSort fun first second => instant second ≤ instant first).head?

variable {instant : Row → Int} {rows : List Row}

theorem mem_of_newest {row : Row} (found : newest instant rows = some row) : row ∈ rows :=
  (mem_insertionSort _).mp (mem_of_head? found)

theorem newest_eq_none_iff : newest instant rows = none ↔ rows = [] := by
  rw [newest, List.head?_eq_none_iff]
  constructor
  · intro sorted
    have same := perm_insertionSort (fun first second : Row => instant second ≤ instant first) rows
    rw [sorted] at same
    exact same.symm.eq_nil
  · rintro rfl
    rfl

end Newest

theorem filter_suffix
    (lasts : rows.Pairwise fun first second => condition first = true → condition second = true) :
    rows.filter condition <:+ rows := by
  induction rows with
  | nil => exact suffix_rfl
  | cons row rows ih =>
    obtain ⟨after, rest⟩ := pairwise_cons.mp lasts
    rw [filter_cons]
    split
    case isTrue holds =>
      have all : rows.filter condition = rows :=
        filter_eq_self.mpr fun other member => after other member holds
      simp [all]
    case isFalse =>
      exact (ih rest).trans (suffix_cons row rows)

section First

variable {order : Row → Row → Prop} [DecidableRel order] {rows : List Row}

/-- `ORDER BY … LIMIT 1`. -/
def first (order : Row → Row → Prop) [DecidableRel order] (rows : List Row) : Option Row :=
  (rows.insertionSort order).head?

theorem mem_of_first {row : Row} (found : first order rows = some row) : row ∈ rows :=
  (mem_insertionSort order).mp (mem_of_head? found)

theorem first_eq_none_iff : first order rows = none ↔ rows = [] := by
  rw [first, List.head?_eq_none_iff]
  constructor
  · intro sorted
    exact length_eq_zero_iff.mp (by rw [← length_insertionSort order, sorted]; rfl)
  · rintro rfl
    rfl

variable [Std.Total order] [IsTrans Row order]

theorem first_before {row other : Row} (found : first order rows = some row)
    (member : other ∈ rows) : other = row ∨ order row other := by
  have sorted : (rows.insertionSort order).Pairwise order := pairwise_insertionSort order rows
  obtain ⟨rest, equation⟩ := List.head?_eq_some_iff.mp found
  have among : other ∈ rows.insertionSort order := (mem_insertionSort order).mpr member
  rw [equation] at sorted among
  rcases mem_cons.mp among with same | later
  · exact Or.inl same
  · exact Or.inr ((pairwise_cons.mp sorted).1 other later)

theorem first_eq_some {row : Row} (member : row ∈ rows) (before : ∀ other ∈ rows, order row other)
    (antisymm : ∀ other ∈ rows, order row other → order other row → other = row) :
    first order rows = some row := by
  cases found : first order rows with
  | none =>
    rw [first_eq_none_iff.mp found] at member
    exact absurd member not_mem_nil
  | some other =>
    have among : other ∈ rows := mem_of_first found
    rcases first_before found member with same | ordered
    · rw [same]
    · rw [antisymm other among (before other among) ordered]

theorem insertionSort_eq_reverse (backwards : rows.Pairwise fun first second => order second first)
    (antisymm : ∀ row ∈ rows, ∀ other ∈ rows, order row other → order other row → other = row) :
    rows.insertionSort order = rows.reverse := by
  refine List.Perm.eq_of_pairwise ?_ (pairwise_insertionSort order _) ?_ ?_
  · intro row other rowMem otherMem forth back
    exact (antisymm row ((mem_insertionSort _).mp rowMem) other
      (mem_reverse.mp otherMem) forth back).symm
  · exact pairwise_reverse.mpr backwards
  · exact (perm_insertionSort _ _).trans (reverse_perm _).symm

theorem first_eq_getLast? (backwards : rows.Pairwise fun first second => order second first)
    (antisymm : ∀ row ∈ rows, ∀ other ∈ rows, order row other → order other row → other = row) :
    first order rows = rows.getLast? := by
  rw [first, insertionSort_eq_reverse backwards antisymm, List.head?_reverse]

end First

section KeepFirst

/-- `DELETE … WHERE key IN (SELECT key … ORDER BY … LIMIT -1 OFFSET limit)`: of the selected
rows only those stay that fewer than `limit` selected rows come before. -/
def keepFirst (selected : Row → Bool) (before : Row → Row → Bool) (limit : Nat)
    (rows : List Row) : List Row :=
  rows.filter fun row =>
    !selected row || decide (rows.countP (fun other => selected other && before other row) < limit)

variable {selected : Row → Bool} {before : Row → Row → Bool} {limit : Nat} {rows : List Row}

theorem keepFirst_sublist : (keepFirst selected before limit rows).Sublist rows :=
  filter_sublist

/-- Every selected row is among the first ones. -/
def Within (selected : Row → Bool) (before : Row → Row → Bool) (limit : Nat)
    (rows : List Row) : Prop :=
  ∀ row ∈ rows, selected row = true →
    rows.countP (fun other => selected other && before other row) < limit
  deriving Decidable

theorem keepFirst_eq_self_iff :
    keepFirst selected before limit rows = rows ↔ Within selected before limit rows := by
  rw [keepFirst, filter_eq_self]
  refine forall₂_congr fun row _ => ?_
  cases selected row <;> simp

theorem exists_last {rows : List Row} (nonempty : rows ≠ [])
    (trans : ∀ first second third, before first second = true → before second third = true →
      before first third = true)
    (total : ∀ first ∈ rows, ∀ second ∈ rows, first = second ∨ before first second = true ∨
      before second first = true) :
    ∃ last ∈ rows, ∀ row ∈ rows, row = last ∨ before row last = true := by
  induction rows with
  | nil => exact absurd rfl nonempty
  | cons row rows ih =>
    by_cases single : rows = []
    · exact ⟨row, mem_cons_self, by simp [single]⟩
    · obtain ⟨last, member, isLast⟩ := ih single fun first firstMem second secondMem =>
        total first (mem_cons_of_mem _ firstMem) second (mem_cons_of_mem _ secondMem)
      rcases total row mem_cons_self last (mem_cons_of_mem _ member) with
        rfl | earlier | later
      · refine ⟨row, mem_cons_self, fun other otherMem => ?_⟩
        rcases mem_cons.mp otherMem with rfl | rest
        · exact .inl rfl
        · exact isLast other rest
      · refine ⟨last, mem_cons_of_mem _ member, fun other otherMem => ?_⟩
        rcases mem_cons.mp otherMem with rfl | rest
        · exact .inr earlier
        · exact isLast other rest
      · refine ⟨row, mem_cons_self, fun other otherMem => ?_⟩
        rcases mem_cons.mp otherMem with rfl | rest
        · exact .inl rfl
        · rcases isLast other rest with rfl | before
          · exact .inr later
          · exact .inr (trans _ _ _ before later)

theorem countP_keepFirst_le [DecidableEq Row] (distinct : rows.Nodup)
    (trans : ∀ first second third, before first second = true → before second third = true →
      before first third = true)
    (total : ∀ first ∈ rows, ∀ second ∈ rows, first = second ∨ before first second = true ∨
      before second first = true) :
    (keepFirst selected before limit rows).countP selected ≤ limit := by
  rw [countP_eq_length_filter]
  generalize keeps : (keepFirst selected before limit rows).filter selected = kept
  have sub : kept.Sublist rows := keeps ▸ filter_sublist.trans keepFirst_sublist
  have chosen : ∀ row ∈ kept, selected row = true := by
    intro row member
    rw [← keeps] at member
    exact of_mem_filter member
  by_cases empty : kept = []
  · simp [empty]
  · obtain ⟨last, lastMem, isLast⟩ := exists_last empty trans fun first firstMem second secondMem =>
      total first (sub.subset firstMem) second (sub.subset secondMem)
    -- the last row kept has all the others before it
    have few : rows.countP (fun other => selected other && before other last) < limit := by
      have lastKept := lastMem
      rw [← keeps] at lastKept
      have stays := of_mem_filter (mem_of_mem_filter lastKept)
      simpa [chosen last lastMem] using stays
    have others : (kept.erase last).length ≤
        rows.countP (fun other => selected other && before other last) := by
      have all : (kept.erase last).countP (fun other => selected other && before other last) =
          (kept.erase last).length := by
        rw [countP_eq_length]
        intro row member
        have held := mem_of_mem_erase member
        have notLast : row ≠ last :=
          ((sub.nodup distinct).mem_erase_iff.mp member).1
        simp [chosen row held, (isLast row held).resolve_left notLast]
      rw [← all]
      exact List.Sublist.countP_le (erase_sublist.trans sub)
    rw [length_erase_of_mem lastMem] at others
    omega

/-- Of a table to which a row is added, the deletion takes that row alone. -/
def DropsLast (selected : Row → Bool) (before : Row → Row → Bool) (limit : Nat)
    (rows : List Row) (last : Row) : Prop :=
  (selected last = true ∧
      limit ≤ (rows ++ [last]).countP fun other => selected other && before other last) ∧
    ∀ row ∈ rows, selected row = true →
      (rows ++ [last]).countP (fun other => selected other && before other row) < limit

theorem keepFirst_append_eq_iff {last : Row} (new : last ∉ rows) :
    keepFirst selected before limit (rows ++ [last]) = rows ↔
      DropsLast selected before limit rows last := by
  rw [keepFirst, filter_append]
  constructor
  · intro same
    have dropped : last ∉ rows.filter _ ++ [last].filter _ := same.symm ▸ new
    rw [mem_append, not_or] at dropped
    have lastDropped := dropped.2
    simp only [mem_filter, mem_singleton, true_and, Bool.or_eq_true, not_or,
      Bool.not_eq_true', Bool.not_eq_false, decide_eq_true_eq, not_lt] at lastDropped
    refine ⟨lastDropped, fun row member chosen => ?_⟩
    rw [← same] at member
    rcases mem_append.mp member with kept | kept <;>
    · have := of_mem_filter kept
      simpa [chosen] using this
  · rintro ⟨⟨chosen, crowded⟩, kept⟩
    have all : rows.filter (fun row => !selected row || decide
        ((rows ++ [last]).countP (fun other => selected other && before other row) < limit)) =
        rows := by
      rw [filter_eq_self]
      intro row member
      cases chosenRow : selected row with
      | false => rfl
      | true => simpa using kept row member chosenRow
    rw [all, filter_cons_of_neg, filter_nil, append_nil]
    simpa [chosen] using crowded

variable {narrow : Row → Bool} {narrowLimit : Nat}

theorem keepFirst_keepFirst_eq_iff :
    keepFirst selected before limit (keepFirst narrow before narrowLimit rows) = rows ↔
      Within narrow before narrowLimit rows ∧ Within selected before limit rows := by
  constructor
  · intro same
    have shorter := @keepFirst_sublist _ selected before limit
      (keepFirst narrow before narrowLimit rows)
    rw [same] at shorter
    have first : keepFirst narrow before narrowLimit rows = rows :=
      keepFirst_sublist.antisymm shorter
    rw [first] at same
    exact ⟨keepFirst_eq_self_iff.mp first, keepFirst_eq_self_iff.mp same⟩
  · rintro ⟨first, second⟩
    rw [keepFirst_eq_self_iff.mpr first, keepFirst_eq_self_iff.mpr second]

theorem keepFirst_keepFirst_append_eq_iff {last : Row} (new : last ∉ rows) :
    keepFirst selected before limit (keepFirst narrow before narrowLimit (rows ++ [last])) = rows ↔
      (DropsLast narrow before narrowLimit rows last ∧ Within selected before limit rows) ∨
        (Within narrow before narrowLimit (rows ++ [last]) ∧
          DropsLast selected before limit rows last) := by
  constructor
  · intro same
    have inner : (keepFirst narrow before narrowLimit (rows ++ [last])).Sublist (rows ++ [last]) :=
      keepFirst_sublist
    have outer := @keepFirst_sublist _ selected before limit
      (keepFirst narrow before narrowLimit (rows ++ [last]))
    rw [same] at outer
    by_cases full :
        (keepFirst narrow before narrowLimit (rows ++ [last])).length = (rows ++ [last]).length
    · have first := inner.eq_of_length full
      rw [first] at same
      exact .inr ⟨keepFirst_eq_self_iff.mp first, (keepFirst_append_eq_iff new).mp same⟩
    · have lengths : rows.length =
          (keepFirst narrow before narrowLimit (rows ++ [last])).length := by
        have low := outer.length_le
        have high := inner.length_le
        rw [length_append, length_singleton] at high full
        omega
      have first := (outer.eq_of_length lengths).symm
      rw [first] at same
      exact .inl ⟨(keepFirst_append_eq_iff new).mp first, keepFirst_eq_self_iff.mp same⟩
  · rintro (⟨first, second⟩ | ⟨first, second⟩)
    · rw [(keepFirst_append_eq_iff new).mpr first, keepFirst_eq_self_iff.mpr second]
    · rw [keepFirst_eq_self_iff.mpr first, (keepFirst_append_eq_iff new).mpr second]

end KeepFirst

section Ranked

theorem take_merge (before : Row → Row → Bool) (count : Nat) (first second : List Row) :
    (List.merge first second before).take count =
      (List.merge (first.take count) (second.take count) before).take count := by
  induction count generalizing first second with
  | zero => rfl
  | succ count ih =>
    cases first with
    | nil => simp [take_take]
    | cons row rows =>
      cases second with
      | nil => simp [take_take]
      | cons other others =>
        simp only [take_succ_cons, cons_merge_cons]
        split
        · rw [take_succ_cons, take_succ_cons, ih rows (other :: others),
            ih (rows.take count) (other :: others.take count), take_take, min_self]
          cases count <;> simp [take_take]
        · rw [take_succ_cons, take_succ_cons, ih (row :: rows) others,
            ih (row :: rows.take count) (others.take count), take_take, min_self]
          cases count <;> simp [take_take]

variable {order : Row → Row → Prop} [DecidableRel order] [Std.Total order] [IsTrans Row order]

theorem insertionSort_append {first second : List Row}
    (antisymm : ∀ row ∈ first ++ second, ∀ other ∈ first ++ second,
      order row other → order other row → row = other)
    (firstRanked : first.Pairwise order) (secondRanked : second.Pairwise order) :
    (first ++ second).insertionSort order =
      List.merge first second fun row other => decide (order row other) := by
  refine List.Perm.eq_of_pairwise ?_ (pairwise_insertionSort order _) ?_ ?_
  · intro row other rowMem otherMem forth back
    exact antisymm row ((mem_insertionSort _).mp rowMem) other
      ((merge_perm_append _).mem_iff.mp otherMem) forth back
  · have merged := @pairwise_merge Row (fun row other => decide (order row other))
      (fun _ _ _ forth back => by
        rw [decide_eq_true_eq] at forth back ⊢
        exact IsTrans.trans _ _ _ forth back)
      (fun row other => by
        rw [Bool.or_eq_true, decide_eq_true_eq, decide_eq_true_eq]
        exact Std.Total.total row other)
      first second (by simpa using firstRanked) (by simpa using secondRanked)
    simpa using merged
  · exact (perm_insertionSort _ _).trans (merge_perm_append _).symm

theorem take_insertionSort_append {first second : List Row} (count : Nat)
    (antisymm : ∀ row ∈ first ++ second, ∀ other ∈ first ++ second,
      order row other → order other row → row = other)
    (firstRanked : first.Pairwise order) (secondRanked : second.Pairwise order) :
    ((first.take count ++ second.take count).insertionSort order).take count =
      ((first ++ second).insertionSort order).take count := by
  have fewer : first.take count ++ second.take count ⊆ first ++ second :=
    append_subset.mpr ⟨fun _ member => mem_append_left _ (mem_of_mem_take member),
        fun _ member => mem_append_right _ (mem_of_mem_take member)⟩
  rw [insertionSort_append antisymm firstRanked secondRanked,
    insertionSort_append (fun row rowMem other otherMem =>
      antisymm row (fewer rowMem) other (fewer otherMem))
      (firstRanked.sublist (take_sublist _ _)) (secondRanked.sublist (take_sublist _ _)),
    ← take_merge]

end Ranked

end TableRows
