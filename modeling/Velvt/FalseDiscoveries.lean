import Mathlib.Tactic.Positivity
import Velvt.EpisodeOrder
import Velvt.StepUp

/-!
# False discoveries

One loop writes a running minimum down the ranks and another looks for the last rank within its
bound.
-/

namespace Velvt.Antecedents

open StepUp List

variable {count : Nat} {results after : Fin count → CandidateResult} {tested : List (Fin count)}
  {config : MinerConfig} {entries : List (Fin count × ℚ)} {index : Fin count} {p family fdrQ : ℚ}

def sortedP (results : Fin count → CandidateResult) (tested : List (Fin count)) : List ℚ :=
  (tested.map fun index => (results index).calibratedP).insertionSort (· ≤ ·)

/-- The value of a rank, counted from one. -/
def HasRank (values : List ℚ) (rank : Nat) (p : ℚ) : Prop :=
  0 < rank ∧ values[rank - 1]? = some p

theorem hasRank_succ {values : List ℚ} {position : Nat} :
    HasRank values (position + 1) p ↔ values[position]? = some p := by
  simp [HasRank]

theorem HasRank.exists_position {values : List ℚ} {rank : Nat} (hasRank : HasRank values rank p) :
    ∃ position : Nat, rank = position + 1 ∧ values[position]? = some p := by
  obtain ⟨fromOne, isValue⟩ := hasRank
  exact ⟨rank - 1, (Nat.sub_add_cancel fromOne).symm, isValue⟩

theorem ranked_perm : (ranked results tested).Perm
    (tested.map fun index => (index, (results index).calibratedP)) :=
  perm_insertionSort _ _

theorem mem_ranked : (index, p) ∈ ranked results tested ↔
    index ∈ tested ∧ (results index).calibratedP = p := by
  rw [ranked_perm.mem_iff, mem_map]
  constructor
  · rintro ⟨found, isTested, same⟩
    obtain ⟨rfl, rfl⟩ := Prod.mk.inj same
    exact ⟨isTested, rfl⟩
  · rintro ⟨isTested, rfl⟩
    exact ⟨index, isTested, rfl⟩

theorem ranked_fst_perm : ((ranked results tested).map Prod.fst).Perm tested := by
  have mapped := (@ranked_perm count results tested).map Prod.fst
  rwa [map_map, show (Prod.fst ∘ fun index => (index, (results index).calibratedP)) = id
    from rfl, map_id] at mapped

theorem ranked_fst_nodup (distinct : tested.Nodup) : ((ranked results tested).map Prod.fst).Nodup :=
  ranked_fst_perm.nodup_iff.mpr distinct

theorem sortedP_sorted : (sortedP results tested).Pairwise (· ≤ ·) :=
  pairwise_insertionSort _ _

theorem ranked_snd : (ranked results tested).map Prod.snd = sortedP results tested := by
  have entriesSorted : ((ranked results tested).map Prod.snd).Pairwise (· ≤ ·) := by
    rw [pairwise_map]
    exact @pairwise_insertionSort _ (fun left right : Fin count × ℚ => left.2 ≤ right.2)
      _ ⟨fun left right => le_total left.2 right.2⟩ ⟨fun _ _ _ => le_trans⟩ _
  have samePerm : ((ranked results tested).map Prod.snd).Perm (sortedP results tested) := by
    have mapped := (@ranked_perm count results tested).map Prod.snd
    rw [map_map] at mapped
    exact mapped.trans (perm_insertionSort _ _).symm
  exact samePerm.eq_of_pairwise (fun _ _ _ _ => le_antisymm) entriesSorted sortedP_sorted

def rankValue (family : ℚ) (rank : Nat) (p : ℚ) : ℚ := min (family * p / rank) 1

theorem stepQValue_foldr (position : Nat) (distinct : (entries.map Prod.fst).Nodup) :
    let final := (entries.zipIdx position).foldr (stepQValue family) (1, results)
    final.1 = lowest 1 (rankValue family) (position + 1) (entries.map Prod.snd) ∧
    (∀ index ∉ entries.map Prod.fst, final.2 index = results index) ∧
    ∀ step index p, entries[step]? = some (index, p) → final.2 index = { results index with
        qValue := lowest 1 (rankValue family) (position + step + 1)
          ((entries.map Prod.snd).drop step) } := by
  induction entries generalizing position with
  | nil => exact ⟨rfl, fun _ _ => rfl, fun _ _ _ isEntry => absurd isEntry (by simp)⟩
  | cons entry entries ih =>
    obtain ⟨first, p⟩ := entry
    obtain ⟨fresh, distinctLater⟩ := nodup_cons.mp distinct
    obtain ⟨running, untouched, written⟩ := ih (position + 1) distinctLater
    rw [zipIdx_cons, foldr_cons]
    set later := (entries.zipIdx (position + 1)).foldr (stepQValue family) (1, results)
    have least : min later.1 (min (family * p / ((position : ℚ) + 1)) 1) =
        lowest 1 (rankValue family) (position + 1) (((first, p) :: entries).map Prod.snd) := by
      rw [running, map_cons, lowest, rankValue, Nat.cast_add, Nat.cast_one]
    refine ⟨least, ?_, ?_⟩
    · intro index other
      obtain ⟨notFirst, notLater⟩ := not_or.mp (mt mem_cons.mpr other)
      rw [← untouched index notLater]
      exact Function.update_of_ne notFirst _ _
    · intro step index q isEntry
      cases step with
      | zero =>
        obtain ⟨rfl, rfl⟩ := Prod.mk.inj (Option.some.inj isEntry)
        have unchanged : later.2 first = results first := untouched first fresh
        rw [← unchanged, Nat.add_zero, drop_zero, ← least]
        exact Function.update_self _ _ _
      | succ step =>
        have isLater : index ∈ entries.map Prod.fst :=
          mem_map.mpr ⟨(index, q), mem_of_getElem? isEntry, rfl⟩
        have notFirst : index ≠ first := by
          rintro rfl
          exact fresh isLater
        have reached := written step index q isEntry
        rw [Nat.add_assoc position 1 step, Nat.add_comm 1 step] at reached
        rw [map_cons, drop_succ_cons, ← reached]
        exact Function.update_of_ne notFirst _ _

theorem largestPosition_eq : largestPosition fdrQ family entries =
    lastMeeting (fun position entry => entry.2 ≤ ((position : ℚ) + 1) * fdrQ / family) entries :=
  rfl

theorem passFdr_foldl : entries.foldl passFdr results index =
    if index ∈ entries.map Prod.fst then { results index with passedFdr := true }
    else results index := by
  induction entries generalizing results with
  | nil => rfl
  | cons entry entries ih =>
    rw [foldl_cons, ih, map_cons]
    by_cases same : index = entry.1
    · have updated : passFdr results entry index = { results index with passedFdr := true } := by
        subst same
        exact Function.update_self _ _ _
      rw [updated, if_pos (mem_cons.mpr (Or.inl same)), ite_self]
    · have kept : passFdr results entry index = results index :=
        Function.update_of_ne same _ _
      have others : index ∈ entry.1 :: entries.map Prod.fst ↔ index ∈ entries.map Prod.fst := by
        rw [mem_cons, or_iff_right same]
      rw [kept]
      exact (if_congr others rfl rfl).symm

theorem mem_take_iff {position cut : Nat} (distinct : (entries.map Prod.fst).Nodup)
    (isEntry : entries[position]? = some (index, p)) :
    index ∈ (entries.take (cut + 1)).map Prod.fst ↔ position ≤ cut := by
  have here : (entries.map Prod.fst)[position]? = some index := by
    rw [List.getElem?_map, isEntry]
    rfl
  rw [map_take, mem_take_iff_getElem]
  constructor
  · rintro ⟨found, inside, there⟩
    have bounded : found < (entries.map Prod.fst).length := (lt_min_iff.mp inside).2
    have same : found = position := by
      apply (List.getElem?_inj bounded distinct).mp
      rw [here, List.getElem?_eq_getElem bounded, there]
    rw [← same]
    exact Nat.le_of_lt_succ (lt_min_iff.mp inside).1
  · intro atMost
    obtain ⟨bounded, there⟩ := List.getElem?_eq_some_iff.mp here
    exact ⟨position, lt_min (Nat.lt_succ_of_le atMost) bounded, there⟩

section Verdicts

/-- Some rank from a position on has a p-value within its bound. -/
def PassesFrom (values : List ℚ) (fdrQ family : ℚ) (position : Nat) : Prop :=
  ∃ later p, position ≤ later ∧ values[later]? = some p ∧ p ≤ ((later : ℚ) + 1) * fdrQ / family

theorem exists_largestPosition_iff {position : Nat} :
    (∃ cut, largestPosition fdrQ family entries = some cut ∧ position ≤ cut) ↔
      PassesFrom (entries.map Prod.snd) fdrQ family position := by
  rw [largestPosition_eq, exists_lastMeeting_iff]
  constructor
  · rintro ⟨later, entry, atMost, isEntry, within⟩
    refine ⟨later, entry.2, atMost, ?_, within⟩
    rw [List.getElem?_map, isEntry]
    rfl
  · rintro ⟨later, p, atMost, isValue, within⟩
    rw [List.getElem?_map, Option.map_eq_some_iff] at isValue
    obtain ⟨entry, isEntry, rfl⟩ := isValue
    exact ⟨later, entry, atMost, isEntry, within⟩

theorem applyFdr_ranked {position : Nat} (fdrOn : config.controls.fdr = true)
    (distinct : tested.Nodup) (declared : tested.length ≤ config.familySize)
    (isEntry : (ranked results tested)[position]? = some (index, p)) :
    ∃ passed : Bool, applyFdr results tested config index = { results index with
        qValue := lowest 1 (rankValue config.familySize) (position + 1)
          ((sortedP results tested).drop position)
        passedFdr := passed } ∧
      (passed = true ↔ (results index).passedFdr = true ∨
        PassesFrom (sortedP results tested) config.fdrQ config.familySize position) := by
  have isTested : index ∈ tested := (mem_ranked.mp (mem_of_getElem? isEntry)).1
  have nonempty : tested ≠ [] := ne_nil_of_mem isTested
  obtain ⟨-, -, written⟩ := @stepQValue_foldr count results (ranked results tested)
    (config.familySize : ℚ) 0 (ranked_fst_nodup distinct)
  have valued := written position index p isEntry
  rw [Nat.zero_add, ranked_snd] at valued
  have found := @exists_largestPosition_iff count (ranked results tested) config.familySize
    config.fdrQ position
  rw [ranked_snd] at found
  rw [applyFdr, if_neg nonempty, max_eq_left declared, foldl_reverse]
  dsimp only
  rw [if_pos fdrOn]
  cases largest : largestPosition config.fdrQ config.familySize (ranked results tested) with
  | none =>
    refine ⟨(results index).passedFdr, valued, ?_⟩
    rw [largest] at found
    simp [← found]
  | some cut =>
    rw [largest] at found
    dsimp only
    rw [passFdr_foldl]
    by_cases atMost : position ≤ cut
    · rw [if_pos ((mem_take_iff (ranked_fst_nodup distinct) isEntry).mpr atMost), valued]
      exact ⟨true, rfl, iff_of_true rfl (Or.inr (found.mp ⟨cut, rfl, atMost⟩))⟩
    · rw [if_neg (mt (mem_take_iff (ranked_fst_nodup distinct) isEntry).mp atMost), valued]
      refine ⟨(results index).passedFdr, rfl, ?_⟩
      rw [← found]
      simp [atMost]

theorem foldl_kept {step : (Fin count → CandidateResult) → Fin count × ℚ →
      Fin count → CandidateResult}
    (only : ∀ results entry, index ≠ entry.1 → step results entry index = results index)
    (other : index ∉ entries.map Prod.fst) : entries.foldl step results index = results index := by
  induction entries generalizing results with
  | nil => rfl
  | cons entry entries ih =>
    obtain ⟨notFirst, notLater⟩ := not_or.mp (mt mem_cons.mpr other)
    rw [foldl_cons, ih notLater, only results entry notFirst]

theorem applyFdr_untested (distinct : tested.Nodup) (untested : index ∉ tested) :
    applyFdr results tested config index = results index := by
  rw [applyFdr]
  by_cases none : tested = []
  · rw [if_pos none]
  · rw [if_neg none, foldl_reverse]
    have other : index ∉ (ranked results tested).map Prod.fst := by
      rwa [ranked_fst_perm.mem_iff]
    obtain ⟨-, untouched, -⟩ := @stepQValue_foldr count results (ranked results tested)
      (max config.familySize tested.length : Nat) 0 (ranked_fst_nodup distinct)
    have kept := untouched index other
    dsimp only
    by_cases fdrOn : config.controls.fdr = true
    · rw [if_pos fdrOn]
      cases largestPosition config.fdrQ (max config.familySize tested.length : Nat)
          (ranked results tested) with
      | none => exact kept
      | some cut =>
        have otherTaken : index ∉ ((ranked results tested).take (cut + 1)).map Prod.fst := by
          rw [map_take]
          exact mt mem_of_mem_take other
        rw [← kept]
        exact foldl_kept (fun _ _ notFirst => Function.update_of_ne notFirst _ _) otherTaken
    · rw [if_neg fdrOn, ← kept]
      exact foldl_kept (fun _ _ notFirst => Function.update_of_ne notFirst _ _) other

variable {values : List ℚ} {position other : Nat}

theorem bound_mono (positive : 0 < family) (isP : 0 ≤ p) (rank later : Nat) (ranked : 0 < rank)
    (atMost : rank ≤ later) (within : p ≤ rank * fdrQ / family) : p ≤ later * fdrQ / family := by
  rw [le_div_iff₀ positive] at within ⊢
  have scaled : 0 ≤ rank * fdrQ := (mul_nonneg isP positive.le).trans within
  have level : 0 ≤ fdrQ := le_of_mul_le_mul_left (by simpa using scaled) (Nat.cast_pos.mpr ranked)
  exact within.trans (mul_le_mul_of_nonneg_right (Nat.cast_le.mpr atMost) level)

theorem rankValue_anti (positive : 0 < family) (isP : 0 ≤ p) (rank later : Nat)
    (ranked : 0 < rank) (atMost : rank ≤ later) :
    rankValue family later p ≤ rankValue family rank p := by
  apply min_le_min_right
  apply div_le_div_of_nonneg_left (mul_nonneg positive.le isP) (Nat.cast_pos.mpr ranked)
  exact Nat.cast_le.mpr atMost

theorem passesFrom_iff_rejects (sorted : values.Pairwise (· ≤ ·)) (positive : 0 < family)
    (nonneg : ∀ p ∈ values, 0 ≤ p) (here : values[position]? = some p) :
    PassesFrom values fdrQ family position ↔
      Rejects (fun rank => rank * fdrQ / family) values p := by
  rw [rejects_iff_rank sorted here fun bound isValue => bound_mono positive (nonneg bound isValue)]
  simp only [PassesFrom, Nat.cast_add, Nat.cast_one]

theorem isLeast_qValue (sorted : values.Pairwise (· ≤ ·)) (positive : 0 < family)
    (nonneg : ∀ p ∈ values, 0 ≤ p) (here : values[position]? = some p) :
    IsLeast {x | ∃ bound ∈ values, p ≤ bound ∧ rankValue family (countUpTo values bound) bound = x}
      (lowest 1 (rankValue family) (position + 1) (values.drop position)) :=
  isLeast_lowest_count sorted here (fun _ _ => min_le_right _ _)
    fun bound isValue => rankValue_anti positive (nonneg bound isValue)

theorem passesFrom_iff_hasRank : PassesFrom values fdrQ family position ↔
    ∃ later p, position + 1 ≤ later ∧ HasRank values later p ∧ p ≤ later * fdrQ / family := by
  constructor
  · rintro ⟨later, p, atMost, isValue, within⟩
    refine ⟨later + 1, p, Nat.succ_le_succ atMost, hasRank_succ.mpr isValue, ?_⟩
    rwa [Nat.cast_add, Nat.cast_one]
  · rintro ⟨later, p, atMost, hasRank, within⟩
    obtain ⟨before, rfl, isValue⟩ := hasRank.exists_position
    refine ⟨before, p, Nat.le_of_succ_le_succ atMost, isValue, ?_⟩
    rwa [Nat.cast_add, Nat.cast_one] at within

theorem isLeast_hasRank (here : values[position]? = some p) :
    IsLeast {x | ∃ later p, position + 1 ≤ later ∧ HasRank values later p ∧
        min 1 (family * p / later) = x}
      (lowest 1 (rankValue family) (position + 1) (values.drop position)) := by
  have inside := (List.getElem?_eq_some_iff.mp here).1
  have nonempty : values.drop position ≠ [] := by
    simpa using inside
  have sameValues : {x | ∃ later p, position + 1 ≤ later ∧ HasRank values later p ∧
        min 1 (family * p / later) = x} =
      {x | ∃ step p, (values.drop position)[step]? = some p ∧
        rankValue family (position + 1 + step) p = x} := by
    ext x
    constructor
    · rintro ⟨later, p, atMost, ⟨-, isValue⟩, rfl⟩
      refine ⟨later - (position + 1), p, ?_, ?_⟩
      · rw [List.getElem?_drop, ← isValue]
        congr 1
        omega
      · rw [Nat.add_sub_cancel' atMost, rankValue, min_comm]
    · rintro ⟨step, p, isValue, rfl⟩
      rw [List.getElem?_drop] at isValue
      refine ⟨position + 1 + step, p, Nat.le_add_right _ _, ?_, min_comm _ _⟩
      rw [Nat.add_right_comm]
      exact hasRank_succ.mpr isValue
  rw [sameValues]
  exact isLeast_lowest nonempty fun _ _ => min_le_right _ _

theorem rankValue_le_iff (positive : 0 < family) (below : fdrQ < 1) :
    rankValue family (position + 1 : Nat) p ≤ fdrQ ↔ p ≤ ((position : ℚ) + 1) * fdrQ / family := by
  have ranked : (0 : ℚ) < (position : ℚ) + 1 := by positivity
  rw [rankValue, min_le_iff, or_iff_left (not_le.mpr below), Nat.cast_add, Nat.cast_one,
    div_le_iff₀ ranked, le_div_iff₀ positive, mul_comm family, mul_comm fdrQ]

theorem lowest_le_iff_passesFrom (positive : 0 < family) (below : fdrQ < 1) :
    lowest 1 (rankValue family) (position + 1) (values.drop position) ≤ fdrQ ↔
      PassesFrom values fdrQ family position := by
  rw [lowest_le_iff, or_iff_right (not_le.mpr below)]
  constructor
  · rintro ⟨step, p, isValue, within⟩
    rw [List.getElem?_drop] at isValue
    rw [Nat.add_right_comm, rankValue_le_iff positive below] at within
    exact ⟨position + step, p, Nat.le_add_right _ _, isValue, within⟩
  · rintro ⟨later, p, atMost, isValue, within⟩
    refine ⟨later - position, p, ?_, ?_⟩
    · rwa [List.getElem?_drop, Nat.add_sub_cancel' atMost]
    · rwa [Nat.add_right_comm, Nat.add_sub_cancel' atMost, rankValue_le_iff positive below]

/-- The verdicts of the procedure at a level over a family. -/
structure BenjaminiHochberg (results after : Fin count → CandidateResult)
    (tested : List (Fin count)) (fdrQ : ℚ) (family : Nat) : Prop where
  hasRank : ∀ index ∈ tested,
    ∃ rank, HasRank (sortedP results tested) rank (results index).calibratedP
  passed_iff : ∀ index ∈ tested, ∀ rank,
    HasRank (sortedP results tested) rank (results index).calibratedP →
      ((after index).passedFdr = true ↔ ∃ later p, rank ≤ later ∧
        HasRank (sortedP results tested) later p ∧ p ≤ later * fdrQ / family)
  qValue_isLeast : ∀ index ∈ tested, ∀ rank,
    HasRank (sortedP results tested) rank (results index).calibratedP →
      IsLeast {value | ∃ later p, rank ≤ later ∧
        HasRank (sortedP results tested) later p ∧ min 1 (family * p / later) = value}
        (after index).qValue
  qValue_mono : ∀ first ∈ tested, ∀ second ∈ tested,
    (results first).calibratedP ≤ (results second).calibratedP →
      (after first).qValue ≤ (after second).qValue
  passed_of_same : ∀ first ∈ tested, ∀ second ∈ tested,
    (results first).calibratedP = (results second).calibratedP →
      (after first).passedFdr = (after second).passedFdr
  passed_iff_qValue : fdrQ < 1 → ∀ index ∈ tested,
    ((after index).passedFdr = true ↔ (after index).qValue ≤ fdrQ)
  untested : ∀ index ∉ tested, after index = results index

theorem exists_position (isTested : index ∈ tested) : ∃ position : Nat,
      (ranked results tested)[position]? = some (index, (results index).calibratedP) ∧
      (sortedP results tested)[position]? = some (results index).calibratedP := by
  obtain ⟨position, isEntry⟩ := mem_iff_getElem?.mp (mem_ranked.mpr ⟨isTested, rfl⟩)
  refine ⟨position, isEntry, ?_⟩
  rw [← ranked_snd, List.getElem?_map, isEntry]
  rfl

theorem mem_sortedP : p ∈ sortedP results tested ↔
    ∃ index ∈ tested, (results index).calibratedP = p := by
  rw [sortedP, (perm_insertionSort _ _).mem_iff, mem_map]

theorem nonneg_sortedP (nonneg : ∀ index ∈ tested, 0 ≤ (results index).calibratedP) :
    ∀ p ∈ sortedP results tested, 0 ≤ p := by
  intro p isValue
  obtain ⟨index, isTested, rfl⟩ := mem_sortedP.mp isValue
  exact nonneg index isTested

theorem family_pos (declared : tested.length ≤ config.familySize) (isTested : index ∈ tested) :
    (0 : ℚ) < config.familySize :=
  Nat.cast_pos.mpr ((length_pos_of_mem isTested).trans_le declared)

theorem applyFdr_verdict (fdrOn : config.controls.fdr = true) (distinct : tested.Nodup)
    (declared : tested.length ≤ config.familySize)
    (fresh : ∀ index ∈ tested, (results index).passedFdr = false)
    (nonneg : ∀ index ∈ tested, 0 ≤ (results index).calibratedP) (isTested : index ∈ tested)
    (here : (sortedP results tested)[position]? = some (results index).calibratedP) :
    ((applyFdr results tested config index).passedFdr = true ↔
      PassesFrom (sortedP results tested) config.fdrQ config.familySize position) ∧
    (applyFdr results tested config index).qValue =
      lowest 1 (rankValue config.familySize) (position + 1)
        ((sortedP results tested).drop position) := by
  have sorted := @sortedP_sorted count results tested
  have nonnegValues := nonneg_sortedP nonneg
  have positive := family_pos declared isTested
  obtain ⟨own, isEntry, isValue⟩ := @exists_position count results tested index isTested
  obtain ⟨passed, written, passed_iff⟩ := applyFdr_ranked fdrOn distinct declared isEntry
  -- Its own rank and the given one hold the same p-value.
  rw [fresh index isTested, or_iff_right Bool.false_ne_true,
    passesFrom_iff_rejects sorted positive nonnegValues isValue,
    ← passesFrom_iff_rejects sorted positive nonnegValues here] at passed_iff
  rw [written]
  refine ⟨passed_iff, ?_⟩
  exact (isLeast_qValue sorted positive nonnegValues isValue).unique
    (isLeast_qValue sorted positive nonnegValues here)

/-- The correction is the procedure of Benjamini and Hochberg. -/
theorem applyFdr_benjaminiHochberg (fdrOn : config.controls.fdr = true) (distinct : tested.Nodup)
    (declared : tested.length ≤ config.familySize)
    (fresh : ∀ index ∈ tested, (results index).passedFdr = false)
    (nonneg : ∀ index ∈ tested, 0 ≤ (results index).calibratedP) :
    BenjaminiHochberg results (applyFdr results tested config) tested config.fdrQ
      config.familySize := by
  have sorted := @sortedP_sorted count results tested
  have nonnegValues := nonneg_sortedP nonneg
  constructor
  case hasRank =>
    intro index isTested
    obtain ⟨position, -, isValue⟩ := @exists_position count results tested index isTested
    exact ⟨position + 1, hasRank_succ.mpr isValue⟩
  case passed_iff =>
    rintro index isTested rank hasRank
    obtain ⟨position, rfl, isValue⟩ := hasRank.exists_position
    obtain ⟨passed, -⟩ := applyFdr_verdict fdrOn distinct declared fresh nonneg isTested isValue
    rw [passed, passesFrom_iff_hasRank]
  case qValue_isLeast =>
    rintro index isTested rank hasRank
    obtain ⟨position, rfl, isValue⟩ := hasRank.exists_position
    obtain ⟨-, valued⟩ := applyFdr_verdict fdrOn distinct declared fresh nonneg isTested isValue
    rw [valued]
    exact isLeast_hasRank isValue
  case qValue_mono =>
    intro first isFirst second isSecond atMost
    obtain ⟨position, -, isValue⟩ := @exists_position count results tested first isFirst
    obtain ⟨later, -, isLater⟩ := @exists_position count results tested second isSecond
    obtain ⟨-, valued⟩ := applyFdr_verdict fdrOn distinct declared fresh nonneg isFirst isValue
    obtain ⟨-, valuedLater⟩ :=
      applyFdr_verdict fdrOn distinct declared fresh nonneg isSecond isLater
    have positive := family_pos declared isFirst
    rw [valued, valuedLater]
    apply (isLeast_qValue sorted positive nonnegValues isLater).mono
      (isLeast_qValue sorted positive nonnegValues isValue)
    -- The p-values that are no less than the second are no less than the first.
    rintro x ⟨bound, isBound, below, rfl⟩
    exact ⟨bound, isBound, atMost.trans below, rfl⟩
  case passed_of_same =>
    intro first isFirst second isSecond same
    obtain ⟨position, -, isValue⟩ := @exists_position count results tested first isFirst
    obtain ⟨passed, -⟩ := applyFdr_verdict fdrOn distinct declared fresh nonneg isFirst isValue
    rw [same] at isValue
    obtain ⟨alsoPassed, -⟩ :=
      applyFdr_verdict fdrOn distinct declared fresh nonneg isSecond isValue
    apply Bool.eq_iff_iff.mpr
    rw [passed, alsoPassed]
  case passed_iff_qValue =>
    intro below index isTested
    obtain ⟨position, -, isValue⟩ := @exists_position count results tested index isTested
    obtain ⟨passed, valued⟩ :=
      applyFdr_verdict fdrOn distinct declared fresh nonneg isTested isValue
    rw [passed, valued, lowest_le_iff_passesFrom (family_pos declared isTested) below]
  case untested => exact fun index untested => applyFdr_untested distinct untested

def smallAndLargeP (index : Fin 2) : CandidateResult :=
  { estimate (.timeOfDay index) [] with
    calibratedP := if index = 0 then 0.004 else 0.60
    passedSupport := true }

/-- Two tested results, one with a small and one with a large p-value. -/
theorem smallAndLargeP_benjaminiHochberg :
    BenjaminiHochberg smallAndLargeP (applyFdr smallAndLargeP [0, 1] { familySize := 2 }) [0, 1]
      FDR_Q 2 :=
  applyFdr_benjaminiHochberg rfl (by decide) (by decide) (by decide) (by decide +kernel)

/-- The denominator is the logged family, and with the tested ones alone the verdict differs. -/
example : (applyFdr smallAndLargeP [0, 1] { } 0).passedFdr = false ∧
    (applyFdr smallAndLargeP [0, 1] { familySize := 2 } 0).passedFdr = true := by
  decide +kernel

end Verdicts

section Mined

variable {floats : Floats} {z observed : ℚ} {null : List ℚ} {present absent : Arm}
  {ordered episodes : List Episode} {shifts : List Nat} {candidate : Candidate} {attempts : Nat}
  {report : MiningReport}

theorem twoSidedNormalP_nonneg : 0 ≤ twoSidedNormalP floats z := le_max_left _ _

theorem permutationPValues_nonneg : 0 ≤ (permutationPValues floats observed null).2 := by
  rw [permutationPValues]
  split
  · exact zero_le_one
  · dsimp only
    split
    · positivity
    · split
      · exact zero_le_one
      · exact twoSidedNormalP_nonneg

theorem naiveTwoProportionP_nonneg : 0 ≤ naiveTwoProportionP floats present absent := by
  rw [naiveTwoProportionP]
  split
  · exact zero_le_one
  · dsimp only
    split
    · exact zero_le_one
    · exact twoSidedNormalP_nonneg

theorem mineCandidate_ready :
    (mineCandidate floats ordered shifts config candidate).passedFdr = false ∧
      0 ≤ (mineCandidate floats ordered shifts config candidate).calibratedP := by
  rw [mineCandidate]
  dsimp only
  split
  · exact ⟨rfl, zero_le_one⟩
  · split
    · exact ⟨rfl, permutationPValues_nonneg⟩
    · exact ⟨rfl, naiveTwoProportionP_nonneg⟩

theorem mined_ready : let results := registry.map (mineCandidate floats ordered shifts config)
    (testedIndices results).length ≤ FAMILY_SIZE ∧ ∀ index, (results.get index).passedFdr = false ∧
        0 ≤ (results.get index).calibratedP := by
  intro results
  constructor
  · calc
      (testedIndices results).length ≤ (List.finRange results.length).length :=
        length_filter_le _ _
      _ = FAMILY_SIZE := by rw [length_finRange, length_map, length_registry]
  · intro index
    obtain ⟨candidate, -, mined⟩ := mem_map.mp (get_mem results index)
    rw [← mined]
    exact mineCandidate_ready

/-- The p-values of the results that were tested. -/
def testedP (results : List CandidateResult) : List ℚ :=
  (results.filter (·.passedSupport)).map (·.calibratedP)

theorem testedP_withoutInterval (results : List CandidateResult) :
    testedP (results.map (·.withoutInterval)) = testedP results := by
  rw [testedP, filter_map, map_map]
  rfl

theorem corrected_passedFdr_iff {results : List CandidateResult}
    (fdrOn : config.controls.fdr = true)
    (declared : (testedIndices results).length ≤ config.familySize)
    (fresh : ∀ index, (results.get index).passedFdr = false ∧ 0 ≤ (results.get index).calibratedP)
    {result : CandidateResult}
    (member : result ∈ List.ofFn (applyFdr results.get (testedIndices results) config)) :
    result.passedFdr = true ↔ result.passedSupport = true ∧
      Rejects (fun rank => rank * config.fdrQ / config.familySize)
        (testedP (List.ofFn (applyFdr results.get (testedIndices results) config)))
        result.calibratedP := by
  have distinct : (testedIndices results).Nodup := (nodup_finRange _).filter _
  have kept : ∀ index,
      (applyFdr results.get (testedIndices results) config index).passedSupport =
          (results.get index).passedSupport ∧
        (applyFdr results.get (testedIndices results) config index).calibratedP =
          (results.get index).calibratedP := fun index =>
    ⟨applyFdr_view CandidateResult.passedSupport (fun _ _ => rfl) (fun _ _ => rfl) index,
      applyFdr_view CandidateResult.calibratedP (fun _ _ => rfl) (fun _ _ => rfl) index⟩
  have values : testedP (List.ofFn (applyFdr results.get (testedIndices results) config)) =
      (testedIndices results).map fun index => (results.get index).calibratedP := by
    have support : (fun result : CandidateResult => result.passedSupport) ∘
        applyFdr results.get (testedIndices results) config =
          fun index => (results.get index).passedSupport :=
      funext fun index => (kept index).1
    rw [testedP, ofFn_eq_map, filter_map, support, map_map]
    exact map_congr_left fun index _ => (kept index).2
  obtain ⟨index, rfl⟩ := mem_ofFn.mp member
  have isTested_iff : index ∈ testedIndices results ↔ (results.get index).passedSupport = true := by
    simp [testedIndices]
  rw [values, (kept index).1, (kept index).2, ← isTested_iff]
  by_cases isTested : index ∈ testedIndices results
  · obtain ⟨position, -, here⟩ := @exists_position _ results.get _ index isTested
    obtain ⟨passed, -⟩ := applyFdr_verdict fdrOn distinct declared (fun index _ => (fresh index).1)
      (fun index _ => (fresh index).2) isTested here
    rw [passed, passesFrom_iff_rejects sortedP_sorted (family_pos declared isTested)
      (nonneg_sortedP fun index _ => (fresh index).2) here, and_iff_right isTested]
    exact rejects_perm (perm_insertionSort _ _)
  · rw [applyFdr_untested distinct isTested, (fresh index).1]
    simp [isTested]

/-- In every report a result passes exactly if it was tested and some tested p-value that is no
smaller is within the bound of the tested ones up to it, over the declared family. -/
theorem mine_passedFdr_iff (fdrOn : config.controls.fdr = true)
    (declared : FAMILY_SIZE ≤ config.familySize)
    (mined : mine floats attempts episodes config = some (.ok report)) :
    ∀ result ∈ report.results, (result.passedFdr = true ↔ result.passedSupport = true ∧
      Rejects (fun rank => rank * config.fdrQ / config.familySize) (testedP report.results)
        result.calibratedP) := by
  obtain ⟨-, -, shifts, _, rfl, same⟩ := mine_eq_ok mined
  obtain ⟨few, ready⟩ := @mined_ready config floats (inOrder episodes) shifts
  intro result member
  obtain ⟨corrected, isCorrected, alike⟩ := mem_map.mp (same ▸ mem_map_of_mem member)
  have passed := congrArg CandidateResult.passedFdr alike
  have supported := congrArg CandidateResult.passedSupport alike
  have valued := congrArg CandidateResult.calibratedP alike
  dsimp only [CandidateResult.withoutInterval] at passed supported valued
  rw [← passed, ← supported, ← valued, ← testedP_withoutInterval, same, testedP_withoutInterval]
  exact corrected_passedFdr_iff fdrOn (few.trans declared) ready isCorrected

/-- Two episodes at the same hour of one day. -/
theorem tied_episodes_passedFdr_iff :
    ∃ report, mine firstOrder 0 (tiedEpisodes [atNight, atNoon]) lowFloors = some (.ok report) ∧
      ∀ result ∈ report.results, (result.passedFdr = true ↔ result.passedSupport = true ∧
        Rejects (fun rank => rank * FDR_Q / FAMILY_SIZE) (testedP report.results)
          result.calibratedP) := by
  have isOk : (mine firstOrder 0 (tiedEpisodes [atNight, atNoon]) lowFloors).any
      (fun mined => mined.toOption.isSome) = true := by
    decide +kernel
  cases mined : mine firstOrder 0 (tiedEpisodes [atNight, atNoon]) lowFloors with
  | none => rw [mined] at isOk; cases isOk
  | some outcome =>
    cases outcome with
    | error abstention => rw [mined] at isOk; cases isOk
    | ok report => exact ⟨report, rfl, mine_passedFdr_iff rfl le_rfl mined⟩

end Mined

end Velvt.Antecedents
