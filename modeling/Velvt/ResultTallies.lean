import Mathlib.Data.List.SplitBy
import Mathlib.Data.String.Basic
import Velvt.DriftAgreement

/-!
# What the end-of-block result says about the rows

The dominant category holds the most observed time, whatever the order in which the seconds map is
read; departures and returns alternate; and the longest run is the longest stretch of consecutive
counted rows of one category.
-/

namespace Velvt

open List ResultScan

section Tallies

/-- The whole seconds of a closed row, none where it ends before it starts. -/
def rowSeconds (observation : WorkBlockObservation .nanoseconds) (endedAt : Int) : Nat :=
  (numSeconds (endedAt - observation.occurredAt)).toNat

/-- The rows that count: closed, confident and of a second or more, with their lengths. -/
def countedRows (observations : List (WorkBlockObservation .nanoseconds)) :
    List (String × Nat) :=
  observations.filterMap fun observation =>
    observation.endedAt.bind fun endedAt =>
      if isConfidentEvidence observation && decide (0 < rowSeconds observation endedAt) then
        some (observation.category, rowSeconds observation endedAt)
      else
        none

def totalOf (rows : List (String × Nat)) (category : String) : Nat :=
  ((rows.filter fun row => row.1 == category).map Prod.snd).sum

def cappedTotal (rows : List (String × Nat)) (category : String) : Nat :=
  min (totalOf rows category) u32Max

/-- No category has more seconds, and none with as many stands earlier in the alphabet. -/
structure IsDominant (rows : List (String × Nat)) (category : String) : Prop where
  counted : ∃ row ∈ rows, row.1 = category
  greatest : ∀ row ∈ rows, cappedTotal rows row.1 < cappedTotal rows category ∨
    (cappedTotal rows row.1 = cappedTotal rows category ∧ category ≤ row.1)

/-- The map that `dominant_category` fills, row after row. -/
def dominantSeconds (observations : List (WorkBlockObservation .nanoseconds)) :
    List (String × Nat) :=
  (observations.filter isConfidentEvidence).foldl (fun totals observation =>
    match observation.endedAt with
    | none => totals
    | some endedAt =>
      let seconds := positiveSeconds (endedAt - observation.occurredAt)
      if seconds = 0 then totals else addSeconds totals observation.category seconds) []

variable {rows : List (String × Nat)} {category : String}

@[simp]
theorem totalOf_nil : totalOf [] category = 0 :=
  rfl

theorem totalOf_append (first second : List (String × Nat)) :
    totalOf (first ++ second) category = totalOf first category + totalOf second category := by
  simp [totalOf]

theorem totalOf_singleton (row : String × Nat) :
    totalOf [row] category = if row.1 = category then row.2 else 0 := by
  by_cases same : row.1 = category <;> simp [totalOf, same]

theorem positiveSeconds_row (observation : WorkBlockObservation .nanoseconds) (endedAt : Int) :
    positiveSeconds (endedAt - observation.occurredAt) =
      min (rowSeconds observation endedAt) u32Max := by
  simp only [positiveSeconds, rowSeconds]
  omega

theorem positiveSeconds_row_pos (observation : WorkBlockObservation .nanoseconds) (endedAt : Int) :
    0 < positiveSeconds (endedAt - observation.occurredAt) ↔
      0 < rowSeconds observation endedAt := by
  rw [positiveSeconds_row, lt_min_iff]
  exact and_iff_left (by decide)

theorem observedSeconds_eq (observations : List (WorkBlockObservation .nanoseconds)) :
    observedSeconds observations =
      (countedRows observations).map fun row => (row.1, min row.2 u32Max) := by
  simp only [observedSeconds, countedRows, map_filterMap, positiveSeconds_row_pos]
  congr 1
  funext observation
  cases observation.endedAt with
  | none => rfl
  | some endedAt =>
    simp only [Option.bind_some]
    split
    · rw [Option.map_some, positiveSeconds_row]
    · rfl

theorem dominantSeconds_eq (observations : List (WorkBlockObservation .nanoseconds)) :
    dominantSeconds observations = categorySeconds (observedSeconds observations) := by
  simp only [dominantSeconds, categorySeconds]
  generalize ([] : List (String × Nat)) = totals
  induction observations generalizing totals with
  | nil => rfl
  | cons observation rest ih =>
    simp only [observedSeconds, filterMap_cons] at ih ⊢
    cases confident : isConfidentEvidence observation with
    | false =>
      cases observation.endedAt <;> simp [confident, ih]
    | true =>
      cases ended : observation.endedAt with
      | none => simp [confident, ended, ih]
      | some endedAt =>
        by_cases empty : positiveSeconds (endedAt - observation.occurredAt) = 0
        · simp [confident, ended, empty, ih]
        · have counts : 0 < positiveSeconds (endedAt - observation.occurredAt) := by omega
          simp [confident, ended, empty, counts, ih]

theorem cappedTotal_snoc (row : String × Nat) : cappedTotal (rows ++ [row]) category =
      if row.1 = category then saturatingAdd (cappedTotal rows category) row.2
      else cappedTotal rows category := by
  simp only [cappedTotal, totalOf_append, totalOf_singleton, saturatingAdd]
  split <;> omega

theorem cappedTotal_cut (rows : List (String × Nat)) :
    cappedTotal (rows.map fun row => (row.1, min row.2 u32Max)) category =
      cappedTotal rows category := by
  induction rows using List.reverseRecOn with
  | nil => rfl
  | append_singleton rows row ih =>
    rw [map_append, map_singleton, cappedTotal_snoc, cappedTotal_snoc, ih]
    simp only [cappedTotal, saturatingAdd]
    split <;> omega

theorem totalOf_eq_zero (absent : ∀ row ∈ rows, row.1 ≠ category) : totalOf rows category = 0 := by
  have none : rows.filter (fun row => row.1 == category) = [] := by
    rw [filter_eq_nil_iff]
    intro row member
    simpa using absent row member
  rw [totalOf, none]
  rfl

/-- The map holds each category of the rows, with its seconds. -/
def Tallies (totals rows : List (String × Nat)) : Prop :=
  ∀ category seconds, (category, seconds) ∈ totals ↔
    (∃ row ∈ rows, row.1 = category) ∧ seconds = cappedTotal rows category

/-- The seconds of a row go to the entry of its category. -/
theorem Tallies.addSeconds {totals : List (String × Nat)} (tallies : Tallies totals rows)
    (row : String × Nat) : Tallies (addSeconds totals row.1 row.2) (rows ++ [row]) := by
  intro category seconds
  have counted : (∃ other ∈ rows ++ [row], other.1 = category) ↔
      (∃ other ∈ rows, other.1 = category) ∨ row.1 = category := by
    simp only [mem_append, mem_singleton, or_and_right, exists_or, exists_eq_left]
  rw [counted, cappedTotal_snoc]
  simp only [Velvt.addSeconds]
  split
  next known =>
    obtain ⟨entry, member, isRow⟩ := any_eq_true.mp known
    have rowCounted : ∃ other ∈ rows, other.1 = row.1 :=
      (eq_of_beq isRow) ▸ ((tallies entry.1 entry.2).mp member).1
    simp only [mem_map]
    constructor
    · rintro ⟨⟨other, total⟩, isOther, isEntry⟩
      obtain ⟨otherCounted, rfl⟩ := (tallies other total).mp isOther
      by_cases same : row.1 = other
      · subst same
        simp only [beq_self_eq_true, if_true, Prod.mk.injEq] at isEntry
        obtain ⟨rfl, rfl⟩ := isEntry
        exact ⟨Or.inr rfl, (if_pos rfl).symm⟩
      · simp only [beq_eq_false_iff_ne.mpr (Ne.symm same), Bool.false_eq_true, if_false,
          Prod.mk.injEq] at isEntry
        obtain ⟨rfl, rfl⟩ := isEntry
        exact ⟨Or.inl otherCounted, (if_neg same).symm⟩
    · rintro ⟨isCounted, rfl⟩
      by_cases same : row.1 = category
      · subst same
        refine ⟨(row.1, cappedTotal rows row.1), (tallies _ _).mpr ⟨rowCounted, rfl⟩, ?_⟩
        simp
      · have before := isCounted.resolve_right same
        refine ⟨(category, cappedTotal rows category), (tallies _ _).mpr ⟨before, rfl⟩, ?_⟩
        simp [same, Ne.symm same]
  next fresh =>
    have absent (other : String × Nat) (isOther : other ∈ rows) : other.1 ≠ row.1 := by
      intro same
      have listed := (tallies other.1 _).mpr ⟨⟨other, isOther, rfl⟩, rfl⟩
      exact fresh (any_eq_true.mpr ⟨_, listed, beq_iff_eq.mpr same⟩)
    have empty : cappedTotal rows row.1 = 0 := by
      rw [cappedTotal, totalOf_eq_zero absent, Nat.zero_min]
    rw [mem_append, mem_singleton, tallies]
    constructor
    · rintro (⟨isCounted, rfl⟩ | isRow)
      · obtain ⟨other, isOther, rfl⟩ := isCounted
        exact ⟨Or.inl ⟨other, isOther, rfl⟩, (if_neg (absent other isOther).symm).symm⟩
      · obtain ⟨rfl, rfl⟩ := Prod.mk.inj isRow
        exact ⟨Or.inr rfl, by rw [if_pos rfl, empty]⟩
    · rintro ⟨isCounted, rfl⟩
      by_cases same : row.1 = category
      · subst same
        exact Or.inr (by rw [if_pos rfl, empty])
      · exact Or.inl ⟨isCounted.resolve_right same, if_neg same⟩

theorem tallies_categorySeconds (rows : List (String × Nat)) :
    Tallies (categorySeconds rows) rows := by
  induction rows using List.reverseRecOn with
  | nil => simp [Tallies, categorySeconds]
  | append_singleton rows row ih =>
    have added := ih.addSeconds row
    rwa [categorySeconds, foldl_append]

end Tallies

section Greatest

/-- What `max_by` compares: fewer seconds, or as many and a name no earlier in the alphabet. -/
def AtMost (entry best : String × Nat) : Prop :=
  entry.2 < best.2 ∨ (entry.2 = best.2 ∧ best.1 ≤ entry.1)

variable {entry best other : String × Nat} {totals : List (String × Nat)}

theorem outranks_iff : outranks best entry = true ↔ AtMost best entry := by
  simp only [outranks, AtMost, Bool.or_eq_true, Bool.and_eq_true, Bool.not_eq_true',
    decide_eq_true_eq, decide_eq_false_iff_not, beq_iff_eq, not_lt]

theorem AtMost.refl (entry : String × Nat) : AtMost entry entry :=
  Or.inr ⟨rfl, le_rfl⟩

theorem AtMost.trans (first : AtMost entry best) (second : AtMost best other) :
    AtMost entry other := by
  rcases first with fewer | ⟨same, later⟩
  · rcases second with more | ⟨equal, -⟩
    · exact Or.inl (fewer.trans more)
    · exact Or.inl (fewer.trans_eq equal)
  · rcases second with more | ⟨equal, after⟩
    · exact Or.inl (same.trans_lt more)
    · exact Or.inr ⟨same.trans equal, after.trans later⟩

theorem AtMost.antisymm (first : AtMost entry best) (second : AtMost best entry) :
    entry = best := by
  rcases first with fewer | ⟨same, later⟩
  · rcases second with more | ⟨equal, -⟩ <;> omega
  · rcases second with more | ⟨-, after⟩
    · omega
    · exact Prod.ext (after.antisymm later) same

theorem AtMost.total (entry best : String × Nat) : AtMost entry best ∨ AtMost best entry := by
  rcases lt_trichotomy entry.2 best.2 with fewer | same | more
  · exact Or.inl (Or.inl fewer)
  · rcases le_total best.1 entry.1 with before | after
    · exact Or.inl (Or.inr ⟨same, before⟩)
    · exact Or.inr (Or.inr ⟨same.symm, after⟩)
  · exact Or.inr (Or.inl more)

theorem maxBySeconds_spec (nonempty : totals ≠ []) :
    ∃ best, maxBySeconds totals = some best ∧ best ∈ totals ∧
      ∀ entry ∈ totals, AtMost entry best := by
  induction totals using List.reverseRecOn with
  | nil => exact absurd rfl nonempty
  | append_singleton totals entry ih =>
    rw [maxBySeconds, foldl_append]
    cases totals with
    | nil => exact ⟨entry, rfl, by simp, by simp [AtMost.refl]⟩
    | cons first rest =>
      obtain ⟨best, isBest, member, greatest⟩ := ih (cons_ne_nil first rest)
      rw [maxBySeconds] at isBest
      rw [isBest]
      simp only [foldl_cons, foldl_nil]
      split
      next ranks =>
        refine ⟨entry, rfl, by simp, fun next isNext => ?_⟩
        rcases mem_append.mp isNext with before | isEntry
        · exact (greatest next before).trans (outranks_iff.mp ranks)
        · rw [mem_singleton.mp isEntry]
          exact AtMost.refl entry
      next below =>
        refine ⟨best, rfl, mem_append_left _ member, fun next isNext => ?_⟩
        rcases mem_append.mp isNext with before | isEntry
        · exact greatest next before
        · rw [mem_singleton.mp isEntry]
          exact (AtMost.total entry best).resolve_right fun above =>
            below (outranks_iff.mpr above)

theorem maxBySeconds_eq_some_iff :
    maxBySeconds totals = some best ↔ best ∈ totals ∧ ∀ entry ∈ totals, AtMost entry best := by
  constructor
  · intro isBest
    have nonempty : totals ≠ [] := by
      rintro rfl
      cases isBest
    obtain ⟨found, isFound, spec⟩ := maxBySeconds_spec nonempty
    rw [isBest] at isFound
    cases isFound
    exact spec
  · rintro ⟨member, greatest⟩
    obtain ⟨found, isFound, isMember, above⟩ := maxBySeconds_spec (ne_nil_of_mem member)
    rw [isFound, (above best member).antisymm (greatest found isMember)]

theorem maxBySeconds_congr {reordered : List (String × Nat)}
    (same : ∀ entry, entry ∈ reordered ↔ entry ∈ totals) :
    maxBySeconds reordered = maxBySeconds totals := by
  ext best
  simp only [maxBySeconds_eq_some_iff, same]

theorem maxBySeconds_of_tallies {rows : List (String × Nat)} {category : String}
    (tallies : Tallies totals rows) :
    (maxBySeconds totals).map Prod.fst = some category ↔ IsDominant rows category := by
  simp only [Option.map_eq_some_iff, maxBySeconds_eq_some_iff]
  constructor
  · rintro ⟨⟨name, seconds⟩, ⟨member, greatest⟩, rfl⟩
    obtain ⟨counted, rfl⟩ := (tallies name seconds).mp member
    refine ⟨counted, fun row isRow => ?_⟩
    exact greatest _ ((tallies row.1 _).mpr ⟨⟨row, isRow, rfl⟩, rfl⟩)
  · rintro ⟨counted, greatest⟩
    refine ⟨(category, cappedTotal rows category), ⟨(tallies _ _).mpr ⟨counted, rfl⟩, ?_⟩, rfl⟩
    rintro ⟨name, seconds⟩ member
    obtain ⟨⟨row, isRow, rfl⟩, rfl⟩ := (tallies name seconds).mp member
    exact greatest row isRow

theorem isDominant_cut {rows : List (String × Nat)} {category : String} :
    IsDominant (rows.map fun row => (row.1, min row.2 u32Max)) category ↔
      IsDominant rows category := by
  constructor
  · rintro ⟨⟨_, member, same⟩, greatest⟩
    obtain ⟨row, isRow, rfl⟩ := mem_map.mp member
    refine ⟨⟨row, isRow, same⟩, fun other isOther => ?_⟩
    have above := greatest _ (mem_map_of_mem isOther)
    simpa only [cappedTotal_cut] using above
  · rintro ⟨⟨row, isRow, same⟩, greatest⟩
    refine ⟨⟨_, mem_map_of_mem isRow, same⟩, fun other isOther => ?_⟩
    obtain ⟨whole, isWhole, rfl⟩ := mem_map.mp isOther
    simpa only [cappedTotal_cut] using greatest whole isWhole

theorem dominantCategory_eq_some_iff (observations : List (WorkBlockObservation .nanoseconds))
    (category : String) :
    dominantCategory observations = some category ↔
      IsDominant (countedRows observations) category := by
  rw [dominantCategory, maxBySeconds_of_tallies (tallies_categorySeconds _), observedSeconds_eq,
    isDominant_cut]

end Greatest

section Departures

/-- The last row is away from the category, and one before it is not. -/
def EndsAway (rows : List (String × Nat)) (dominant : String) : Prop :=
  ∃ earlier last, rows = earlier ++ [last] ∧ last.1 ≠ dominant ∧ ∃ row ∈ earlier, row.1 = dominant

variable {dominant : String} {rows : List (String × Nat)} {scan : ResultScan}

theorem endsAway_snoc (row : String × Nat) : EndsAway (rows ++ [row]) dominant ↔
      row.1 ≠ dominant ∧ ∃ other ∈ rows, other.1 = dominant := by
  constructor
  · rintro ⟨earlier, last, isRows, away, seen⟩
    obtain ⟨rfl, same⟩ := append_inj' isRows rfl
    rw [singleton_inj.mp same]
    exact ⟨away, seen⟩
  · rintro ⟨away, seen⟩
    exact ⟨rows, row, rfl, away, seen⟩

/-- The counters of the loop after some rows: it knows whether the category was seen and whether
the last row is away from it, and each departure but an open one has its return. -/
structure Alternates (dominant : String) (scan : ResultScan) (rows : List (String × Nat)) :
    Prop where
  seen : scan.hasSeenDominant = true ↔ ∃ row ∈ rows, row.1 = dominant
  away : scan.wasAwayFromDominant = true ↔ EndsAway rows dominant
  fits : scan.recoveries ≤ u32Max
  switches : scan.switchAways =
    if scan.wasAwayFromDominant = true then saturatingAdd scan.recoveries 1 else scan.recoveries

/-- A row continues the stretch or begins another one. -/
theorem Alternates.step (alternates : Alternates dominant scan rows) (row : String × Nat) :
    Alternates dominant (ResultScan.step (some dominant) scan row) (rows ++ [row]) := by
  obtain ⟨seen, away, fits, switches⟩ := alternates
  have counted : (∃ other ∈ rows ++ [row], other.1 = dominant) ↔
      (∃ other ∈ rows, other.1 = dominant) ∨ row.1 = dominant := by
    simp only [mem_append, mem_singleton, or_and_right, exists_or, exists_eq_left]
  have seenIfAway : scan.wasAwayFromDominant = true → scan.hasSeenDominant = true := by
    intro isAway
    obtain ⟨earlier, last, rfl, -, row, member, same⟩ := away.mp isAway
    exact seen.mpr ⟨row, mem_append_left _ member, same⟩
  by_cases here : row.1 = dominant
  · -- The row is a return, or the category is seen for the first time, or it goes on.
    have notAway : ¬ EndsAway (rows ++ [row]) dominant := by
      rw [endsAway_snoc]
      exact fun both => both.1 here
    refine ⟨?_, ?_, ?_, ?_⟩
    · simp [ResultScan.step, here]
    · simp [ResultScan.step, here, notAway]
    · simp only [ResultScan.step, here, beq_self_eq_true, if_true]
      split
      · exact min_le_right _ _
      · exact fits
    · cases isAway : scan.wasAwayFromDominant with
      | true => simp [ResultScan.step, here, isAway, switches, seenIfAway isAway]
      | false => simp [ResultScan.step, here, isAway, switches]
  · -- The row is a departure, or one more row away, or nothing was seen yet.
    have endsAway : EndsAway (rows ++ [row]) dominant ↔ scan.hasSeenDominant = true := by
      rw [endsAway_snoc, seen]
      exact and_iff_right here
    have stillSeen : (∃ other ∈ rows ++ [row], other.1 = dominant) ↔
        scan.hasSeenDominant = true := by
      rw [counted, seen]
      exact or_iff_left here
    cases hasSeen : scan.hasSeenDominant with
    | false =>
      have wasAway : scan.wasAwayFromDominant = false := by
        by_contra isAway
        rw [seenIfAway (Bool.not_eq_false _ ▸ isAway)] at hasSeen
        cases hasSeen
      rw [hasSeen] at endsAway stillSeen
      refine ⟨Iff.trans ?_ stillSeen.symm, ?_, ?_, ?_⟩ <;>
        simp [ResultScan.step, here, hasSeen, wasAway, endsAway, switches, fits]
    | true =>
      rw [hasSeen] at endsAway stillSeen
      cases wasAway : scan.wasAwayFromDominant with
      | false =>
        refine ⟨Iff.trans ?_ stillSeen.symm, ?_, ?_, ?_⟩ <;>
          simp [ResultScan.step, here, hasSeen, wasAway, endsAway, switches, fits]
      | true =>
        refine ⟨Iff.trans ?_ stillSeen.symm, ?_, ?_, ?_⟩ <;>
          simp [ResultScan.step, here, hasSeen, wasAway, endsAway, switches, fits]

theorem endsAway_cut : EndsAway (rows.map fun row => (row.1, min row.2 u32Max)) dominant ↔
      EndsAway rows dominant := by
  induction rows using List.reverseRecOn with
  | nil => rfl
  | append_singleton rows row ih =>
    rw [map_append, map_singleton, endsAway_snoc, endsAway_snoc]
    simp

theorem alternates_foldl (dominant : String) (rows : List (String × Nat)) :
    Alternates dominant (rows.foldl (ResultScan.step (some dominant)) {}) rows := by
  induction rows using List.reverseRecOn with
  | nil =>
    refine ⟨by simp, ?_, Nat.zero_le _, rfl⟩
    simp [EndsAway]
  | append_singleton rows row ih =>
    rw [foldl_append]
    exact ih.step row

theorem foldl_none (rows : List (String × Nat)) (scan : ResultScan) :
    (rows.foldl (ResultScan.step none) scan).recoveries = scan.recoveries ∧
      (rows.foldl (ResultScan.step none) scan).switchAways = scan.switchAways := by
  induction rows generalizing scan with
  | nil => exact ⟨rfl, rfl⟩
  | cons row rows ih => exact ih _

theorem counts_alternate (found : Option String) (rows : List (String × Nat)) :
    let scan := rows.foldl (ResultScan.step found) {}
    scan.recoveries ≤ scan.switchAways ∧ scan.switchAways ≤ scan.recoveries + 1 ∧
      (scan.switchAways = scan.recoveries + 1 ↔ scan.recoveries < u32Max ∧
        ∃ dominant, found = some dominant ∧ EndsAway rows dominant) := by
  intro scan
  cases found with
  | none =>
    obtain ⟨recoveries, switchAways⟩ := foldl_none rows {}
    have noReturn : scan.recoveries = 0 := recoveries
    have noDeparture : scan.switchAways = 0 := switchAways
    simp [noReturn, noDeparture]
  | some dominant =>
    obtain ⟨-, away, fits, switches⟩ := alternates_foldl dominant rows
    have isAway : (∃ name, some dominant = some name ∧ EndsAway rows name) ↔
        scan.wasAwayFromDominant = true := by
      rw [away]
      simp
    change scan.recoveries ≤ u32Max at fits
    change scan.switchAways = if scan.wasAwayFromDominant = true then
      saturatingAdd scan.recoveries 1 else scan.recoveries at switches
    rw [isAway]
    simp only [saturatingAdd] at switches
    split at switches
    next wasAway =>
      simp only [wasAway, and_true]
      omega
    next notAway =>
      exact ⟨switches.ge, by omega, fun more => by omega, fun both => absurd both.2 notAway⟩

end Departures

section Stretches

def stretches (rows : List (String × Nat)) : List (List (String × Nat)) :=
  rows.splitBy fun first second => first.1 == second.1

def stretchSeconds (stretch : List (String × Nat)) : Nat := (stretch.map Prod.snd).sum

def longestStretch (rows : List (String × Nat)) : Nat :=
  ((stretches rows).map stretchSeconds).foldr max 0

def cutRows (rows : List (String × Nat)) : List (String × Nat) :=
  rows.map fun row => (row.1, min row.2 u32Max)

variable {dominant : Option String} {scan : ResultScan} {category : String}
  {rows : List (String × Nat)}

theorem ResultScan.step_currentCategory (row : String × Nat) :
    (ResultScan.step dominant scan row).currentCategory = some row.1 := by
  simp only [ResultScan.step]
  split
  · rfl
  split
  · rfl
  split <;> rfl

theorem ResultScan.step_currentStretch (row : String × Nat) :
    (ResultScan.step dominant scan row).currentStretch =
      if scan.currentCategory = some row.1 then saturatingAdd scan.currentStretch row.2
      else row.2 := by
  simp only [ResultScan.step, beq_iff_eq]
  split
  · rfl
  split
  · rfl
  split <;> rfl

theorem ResultScan.step_longest (row : String × Nat) : (ResultScan.step dominant scan row).longest =
      max scan.longest (ResultScan.step dominant scan row).currentStretch := by
  simp only [ResultScan.step]
  split
  · rfl
  split
  · rfl
  split <;> rfl

theorem longest_in_stretch (same : ∀ row ∈ rows, row.1 = category)
    (current : scan.currentCategory = some category) (fits : scan.currentStretch ≤ u32Max)
    (kept : scan.currentStretch ≤ scan.longest) :
    ((cutRows rows).foldl (ResultScan.step dominant) scan).currentCategory = some category ∧
      ((cutRows rows).foldl (ResultScan.step dominant) scan).longest =
        max scan.longest (min (scan.currentStretch + stretchSeconds rows) u32Max) := by
  induction rows generalizing scan with
  | nil =>
    refine ⟨current, ?_⟩
    simp only [cutRows, stretchSeconds, map_nil, foldl_nil, sum_nil]
    omega
  | cons row rest ih =>
    have isCategory := same row mem_cons_self
    set next := ResultScan.step dominant scan (row.1, min row.2 u32Max) with isNext
    have nextStretch : next.currentStretch = min (scan.currentStretch + row.2) u32Max := by
      rw [isNext, step_currentStretch, if_pos (by rw [current, isCategory]), saturatingAdd]
      omega
    have nextLongest : next.longest = max scan.longest next.currentStretch :=
      step_longest _
    obtain ⟨goesOn, longest⟩ := @ih next (fun other member => same other (mem_cons_of_mem _ member))
      (by rw [isNext, step_currentCategory, isCategory]) (by omega) (by omega)
    refine ⟨goesOn, ?_⟩
    have whole : stretchSeconds (row :: rest) = row.2 + stretchSeconds rest := sum_cons
    change ((cutRows rest).foldl (ResultScan.step dominant) next).longest = _
    omega

theorem longest_of_stretch {first : String × Nat} (same : ∀ row ∈ rows, row.1 = first.1)
    (changes : scan.currentCategory ≠ some first.1) :
    ((cutRows (first :: rows)).foldl (ResultScan.step dominant) scan).currentCategory =
        some first.1 ∧
      ((cutRows (first :: rows)).foldl (ResultScan.step dominant) scan).longest =
        max scan.longest (min (stretchSeconds (first :: rows)) u32Max) := by
  set next := ResultScan.step dominant scan (first.1, min first.2 u32Max) with isNext
  have nextStretch : next.currentStretch = min first.2 u32Max := by
    rw [isNext, step_currentStretch, if_neg changes]
  have nextLongest : next.longest = max scan.longest next.currentStretch :=
    step_longest _
  obtain ⟨goesOn, longest⟩ := @longest_in_stretch dominant next first.1 rows same
    (step_currentCategory _) (by omega) (by omega)
  refine ⟨goesOn, ?_⟩
  have whole : stretchSeconds (first :: rows) = first.2 + stretchSeconds rows := sum_cons
  change ((cutRows rows).foldl (ResultScan.step dominant) next).longest = _
  omega

theorem uniform_of_isChain {first : String × Nat}
    (chain : (first :: rows).IsChain fun first second => (first.1 == second.1) = true) :
    ∀ row ∈ rows, row.1 = first.1 := by
  induction rows generalizing first with
  | nil => simp
  | cons next rest ih =>
    obtain ⟨same, restChain⟩ := isChain_cons_cons.mp chain
    intro row member
    rcases mem_cons.mp member with rfl | later
    · exact (eq_of_beq same).symm
    · exact (ih restChain row later).trans (eq_of_beq same).symm

/-- The scan keeps the longest stretch that it has met. -/
theorem longest_of_stretches {groups : List (List (String × Nat))} (noneEmpty : [] ∉ groups)
    (uniform : ∀ group ∈ groups, group.IsChain fun first second => (first.1 == second.1) = true)
    (parted : groups.IsChain fun before after =>
      ∃ hasLast hasHead, ((before.getLast hasLast).1 == (after.head hasHead).1) = false)
    (changes : ∀ first rest later, groups = (first :: rest) :: later →
      scan.currentCategory ≠ some first.1) :
    ((cutRows groups.flatten).foldl (ResultScan.step dominant) scan).longest =
      max scan.longest (min ((groups.map stretchSeconds).foldr max 0) u32Max) := by
  induction groups generalizing scan with
  | nil => simp [cutRows]
  | cons group groups ih =>
    cases group with
    | nil => exact absurd mem_cons_self noneEmpty
    | cons first rest =>
      have chain := uniform _ mem_cons_self
      have same := uniform_of_isChain chain
      obtain ⟨current, longest⟩ := @longest_of_stretch dominant scan rest first same
        (changes first rest groups rfl)
      have changesNext : ∀ next others later, groups = (next :: others) :: later →
          ((cutRows (first :: rest)).foldl (ResultScan.step dominant) scan).currentCategory ≠
            some next.1 := by
        rintro next others later rfl
        obtain ⟨⟨hasLast, hasHead, apart⟩, -⟩ := isChain_cons_cons.mp parted
        have lastSame : ((first :: rest).getLast hasLast).1 = first.1 := by
          rcases mem_cons.mp (getLast_mem hasLast) with isFirst | isLater
          · rw [isFirst]
          · exact same _ isLater
        rw [lastSame, head_cons, beq_eq_false_iff_ne] at apart
        rw [current]
        exact fun equal => apart (Option.some.inj equal)
      have after := ih (fun member => noneEmpty (mem_cons_of_mem _ member))
        (fun group member => uniform group (mem_cons_of_mem _ member)) parted.tail
        changesNext
      rw [flatten_cons, cutRows, map_append, foldl_append]
      change ((cutRows groups.flatten).foldl (ResultScan.step dominant)
        ((cutRows (first :: rest)).foldl (ResultScan.step dominant) scan)).longest = _
      rw [after, longest, map_cons, foldr_cons]
      omega

theorem foldl_longest (dominant : Option String) (rows : List (String × Nat)) :
    ((cutRows rows).foldl (ResultScan.step dominant) {}).longest =
      min (longestStretch rows) u32Max := by
  have splits := @longest_of_stretches dominant {} (stretches rows)
    (nil_notMem_splitBy _ rows) (fun _ member => isChain_of_mem_splitBy member)
    (isChain_getLast_head_splitBy (fun first second => first.1 == second.1) rows) (by simp)
  rw [stretches, flatten_splitBy] at splits
  rw [splits]
  exact Nat.zero_max _

end Stretches

/-- The result names the category with the most seconds, the same as the drift gate's anchor and
in whatever order the map is read; departures exceed returns by one exactly when the last row is
away, until the counts stop; and the longest run is the longest stretch of one category. -/
theorem result_describes_rows (record : WorkBlockRecord .nanoseconds) (phase : WorkBlockPhase)
    (elapsed : Nat) (observations : List (WorkBlockObservation .nanoseconds))
    (coveredSeconds : Nat) :
    let result := aggregateResult record phase elapsed observations coveredSeconds
    let rows := countedRows observations
    (result.safeEvidenceCategory =
        if result.coverage = .insufficient then none else dominantCategory observations) ∧
      (∀ category, dominantCategory observations = some category ↔ IsDominant rows category) ∧
      (∀ totals, (totals.Perm (categorySeconds (observedSeconds observations)) ∨
        totals.Perm (dominantSeconds observations)) →
          (maxBySeconds totals).map Prod.fst = dominantCategory observations) ∧
      result.recoveryCount ≤ result.switchAwayCount ∧
      result.switchAwayCount ≤ result.recoveryCount + 1 ∧
      (result.switchAwayCount = result.recoveryCount + 1 ↔ result.recoveryCount < u32Max ∧
        ∃ dominant, dominantCategory observations = some dominant ∧ EndsAway rows dominant) ∧
      result.longestUninterruptedSeconds = min (longestStretch rows) u32Max := by
  intro result rows
  have counts : result.recoveryCount ≤ result.switchAwayCount ∧
      result.switchAwayCount ≤ result.recoveryCount + 1 ∧
      (result.switchAwayCount = result.recoveryCount + 1 ↔ result.recoveryCount < u32Max ∧
        ∃ dominant, dominantCategory observations = some dominant ∧ EndsAway rows dominant) := by
    have alternate :=
      counts_alternate (dominantCategory observations) (observedSeconds observations)
    simp only [observedSeconds_eq, endsAway_cut] at alternate
    rw [← observedSeconds_eq] at alternate
    exact alternate
  refine ⟨rfl, dominantCategory_eq_some_iff observations, ?_, counts.1, counts.2.1, counts.2.2, ?_⟩
  · intro totals reordered
    have sameEntries (entry : String × Nat) :
        entry ∈ totals ↔ entry ∈ categorySeconds (observedSeconds observations) := by
      rcases reordered with same | same
      · exact same.mem_iff
      · rw [same.mem_iff, dominantSeconds_eq]
    rw [maxBySeconds_congr sameEntries]
    rfl
  · have longest := foldl_longest (dominantCategory observations) rows
    rw [cutRows, ← observedSeconds_eq] at longest
    exact longest

/-- Two categories of more seconds than are counted stand level. -/
theorem capped_totals_tie :
    dominantCategory [⟨0, some (fromTimestamp 8589934592), "build", .classified, .high⟩,
        ⟨0, some (fromTimestamp 4294967296), "admin", .classified, .high⟩] = some "admin" ∧
      totalOf (countedRows [⟨0, some (fromTimestamp 8589934592), "build", .classified, .high⟩,
          ⟨0, some (fromTimestamp 4294967296), "admin", .classified, .high⟩]) "admin" <
        totalOf (countedRows [⟨0, some (fromTimestamp 8589934592), "build", .classified, .high⟩,
          ⟨0, some (fromTimestamp 4294967296), "admin", .classified, .high⟩]) "build" := by
  decide +kernel

end Velvt
