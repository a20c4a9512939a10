import Mathlib
import Velvt.InitiationInvitations

/-!
# The hours of completed blocks

The good-hours assessment splits every dwell of a completed block where the local hour changes.
-/

namespace Velvt

open Finset

/-- The seconds from one second to another whose local time lies in a bucket. -/
noncomputable def secondsBetween (offsetSeconds endedAt : Int) (bucket : Nat × Nat) (second : Int) :
    Finset Int :=
  {passed ∈ Ico second endedAt | hourBucket (fromTimestamp passed) offsetSeconds = bucket}

/-- A row of `completed_block_dwell_spans`: its instants are whole seconds. -/
structure DwellRow where
  blockId : String
  occurredAt : Int
  endedAt : Int

namespace DwellRow

def span (row : DwellRow) : CompletedBlockDwellSpan where
  blockId := row.blockId
  startedAt := fromTimestamp row.occurredAt
  endedAt := fromTimestamp row.endedAt

def length (row : DwellRow) : Nat := (row.endedAt - row.occurredAt).toNat

noncomputable def secondsIn (offsetSeconds : Int) (bucket : Nat × Nat) (row : DwellRow) : Finset Int :=
  secondsBetween offsetSeconds row.endedAt bucket row.occurredAt

end DwellRow

def hourBuckets : Finset (Nat × Nat) := range 7 ×ˢ range 24

theorem hourBucket_mem (instant offsetSeconds : Int) :
    hourBucket instant offsetSeconds ∈ hourBuckets := by
  simp only [hourBucket, hourBuckets, mem_product, mem_range, LocalTime.weekday, LocalTime.hour]
  omega

def dwellSpanPieces (offsetSeconds : Int) (spans : List CompletedBlockDwellSpan) :
    List DwellPiece :=
  spans.flatMap fun span => dwellPieces span.blockId offsetSeconds span.endedAt span.startedAt

section Split

variable (offsetSeconds : Int)

def nextLocalHour (second : Int) : Int :=
  second + (3600 - toLocal (fromTimestamp second) offsetSeconds % 3600)

theorem nextHour_fromTimestamp (second : Int) : nextHour (fromTimestamp second) offsetSeconds =
      fromTimestamp (nextLocalHour offsetSeconds second) := by
  simp only [nextHour, nextLocalHour, LocalTime.minute, LocalTime.second,
    fromTimestamp_add_seconds, fromTimestamp_inj]
  omega

theorem lt_nextLocalHour (second : Int) : second < nextLocalHour offsetSeconds second := by
  unfold nextLocalHour
  omega

theorem nextLocalHour_le (second : Int) : nextLocalHour offsetSeconds second ≤ second + 3600 := by
  unfold nextLocalHour
  omega

theorem toLocal_fromTimestamp_add (second later : Int) :
    toLocal (fromTimestamp (second + later)) offsetSeconds =
      toLocal (fromTimestamp second) offsetSeconds + later := by
  simp only [toLocal, timestamp_fromTimestamp]
  omega

theorem hourBucket_eq {second later : Int} (after : second ≤ later)
    (before : later < nextLocalHour offsetSeconds second) :
    hourBucket (fromTimestamp later) offsetSeconds =
      hourBucket (fromTimestamp second) offsetSeconds := by
  obtain ⟨passed, rfl⟩ : ∃ passed, later = second + passed := ⟨later - second, by omega⟩
  simp only [nextLocalHour] at before
  simp only [hourBucket, LocalTime.weekday, LocalTime.hour, LocalTime.localDate,
    toLocal_fromTimestamp_add]
  -- Both local times have the same number of whole hours.
  have sameHour : (toLocal (fromTimestamp second) offsetSeconds + passed) / 3600 =
      toLocal (fromTimestamp second) offsetSeconds / 3600 := by
    omega
  have sameDay : (toLocal (fromTimestamp second) offsetSeconds + passed) / 86400 =
      toLocal (fromTimestamp second) offsetSeconds / 86400 := by
    omega
  rw [sameHour, sameDay]

def pieceEnd (endedAt second : Int) : Int := min endedAt (nextLocalHour offsetSeconds second)

theorem lt_pieceEnd {endedAt second : Int} (running : second < endedAt) :
    second < pieceEnd offsetSeconds endedAt second :=
  lt_min running (lt_nextLocalHour offsetSeconds second)

theorem dwell_induction (endedAt : Int) {motive : Int → Prop}
    (ended : ∀ second, endedAt ≤ second → motive second)
    (pass : ∀ second, second < endedAt → motive (pieceEnd offsetSeconds endedAt second) →
      motive second) (second : Int) : motive second := by
  induction left : (endedAt - second).toNat using Nat.strong_induction_on generalizing second with
  | _ count induction =>
    rcases le_or_gt endedAt second with done | running
    · exact ended second done
    · have later := lt_pieceEnd offsetSeconds running
      apply pass second running
      exact induction _ (by omega) _ rfl

variable (blockId : String) (endedAt : Int)

theorem dwellPieces_ended {second : Int} (done : endedAt ≤ second) :
    dwellPieces blockId offsetSeconds (fromTimestamp endedAt) (fromTimestamp second) = [] := by
  rw [dwellPieces, if_neg]
  rw [fromTimestamp_lt]
  omega

theorem dwellPieces_running {second : Int} (running : second < endedAt) :
    dwellPieces blockId offsetSeconds (fromTimestamp endedAt) (fromTimestamp second) =
      { bucket := hourBucket (fromTimestamp second) offsetSeconds
        blockId := blockId
        seconds := (pieceEnd offsetSeconds endedAt second - second).toNat } ::
      dwellPieces blockId offsetSeconds (fromTimestamp endedAt)
        (fromTimestamp (pieceEnd offsetSeconds endedAt second)) := by
  have ends : min (fromTimestamp endedAt) (nextHour (fromTimestamp second) offsetSeconds) =
      fromTimestamp (pieceEnd offsetSeconds endedAt second) := by
    rw [nextHour_fromTimestamp, pieceEnd]
    simp only [fromTimestamp]
    omega
  rw [dwellPieces, if_pos (fromTimestamp_lt.mpr running)]
  simp only [ends, positiveSeconds_sub_fromTimestamp, timestamp_fromTimestamp]
  congr 2
  -- A piece of at most an hour is far below the largest `u32`.
  have capped : pieceEnd offsetSeconds endedAt second ≤ second + 3600 :=
    (min_le_right _ _).trans (nextLocalHour_le offsetSeconds second)
  apply min_eq_left
  simp only [u32Max]
  omega

theorem length_dwellPieces_le (second : Int) :
    (dwellPieces blockId offsetSeconds (fromTimestamp endedAt) (fromTimestamp second)).length ≤
      (endedAt - second).toNat := by
  induction second using dwell_induction offsetSeconds endedAt with
  | ended second done => simp [dwellPieces_ended, done]
  | pass second running induction =>
    have later := lt_pieceEnd offsetSeconds running
    rw [dwellPieces_running offsetSeconds blockId endedAt running, List.length_cons]
    omega

theorem blockId_of_dwellPieces (second : Int) :
    ∀ piece ∈ dwellPieces blockId offsetSeconds (fromTimestamp endedAt) (fromTimestamp second),
      piece.blockId = blockId := by
  induction second using dwell_induction offsetSeconds endedAt with
  | ended second done => simp [dwellPieces_ended, done]
  | pass second running induction =>
    rw [dwellPieces_running offsetSeconds blockId endedAt running, List.forall_mem_cons]
    exact ⟨rfl, induction⟩

variable (bucket : Nat × Nat)

theorem card_secondsBetween {second : Int} (running : second < endedAt) :
    (secondsBetween offsetSeconds endedAt bucket second).card =
      (if hourBucket (fromTimestamp second) offsetSeconds = bucket then
        (pieceEnd offsetSeconds endedAt second - second).toNat else 0) +
      (secondsBetween offsetSeconds endedAt bucket
        (pieceEnd offsetSeconds endedAt second)).card := by
  have later := lt_pieceEnd offsetSeconds running
  have within : pieceEnd offsetSeconds endedAt second ≤ endedAt := min_le_left _ _
  have inPiece (passed : Int)
      (member : passed ∈ Ico second (pieceEnd offsetSeconds endedAt second)) :
      hourBucket (fromTimestamp passed) offsetSeconds =
        hourBucket (fromTimestamp second) offsetSeconds := by
    obtain ⟨after, before⟩ := mem_Ico.mp member
    exact hourBucket_eq offsetSeconds after (before.trans_le (min_le_right _ _))
  have piece : ({passed ∈ Ico second (pieceEnd offsetSeconds endedAt second) |
      hourBucket (fromTimestamp passed) offsetSeconds = bucket} : Finset Int).card =
        if hourBucket (fromTimestamp second) offsetSeconds = bucket then
          (pieceEnd offsetSeconds endedAt second - second).toNat else 0 := by
    split
    next isBucket =>
      rw [filter_true_of_mem, Int.card_Ico]
      exact fun passed member => (inPiece passed member).trans isBucket
    next other =>
      rw [filter_false_of_mem, card_empty]
      exact fun passed member isBucket => other ((inPiece passed member).symm.trans isBucket)
  have tiled : secondsBetween offsetSeconds endedAt bucket second =
      {passed ∈ Ico second (pieceEnd offsetSeconds endedAt second) |
        hourBucket (fromTimestamp passed) offsetSeconds = bucket} ∪
      secondsBetween offsetSeconds endedAt bucket (pieceEnd offsetSeconds endedAt second) := by
    unfold secondsBetween
    rw [← filter_union, Ico_union_Ico_eq_Ico later.le within]
  rw [tiled, card_union_of_disjoint, piece]
  exact disjoint_filter_filter (Ico_disjoint_Ico_consecutive _ _ _)

theorem sum_dwellPieces (second : Int) :
    (((dwellPieces blockId offsetSeconds (fromTimestamp endedAt) (fromTimestamp second)).filter
      fun piece => decide (piece.bucket = bucket)).map (·.seconds)).sum =
        (secondsBetween offsetSeconds endedAt bucket second).card := by
  induction second using dwell_induction offsetSeconds endedAt with
  | ended second done =>
    rw [dwellPieces_ended offsetSeconds blockId endedAt done, secondsBetween,
      Ico_eq_empty_of_le done]
    rfl
  | pass second running induction =>
    rw [dwellPieces_running offsetSeconds blockId endedAt running,
      card_secondsBetween offsetSeconds endedAt bucket running, ← induction]
    by_cases isBucket : hourBucket (fromTimestamp second) offsetSeconds = bucket
    · simp [isBucket]
    · simp [isBucket]

theorem exists_dwellPiece_iff (second : Int) :
    (∃ piece ∈ dwellPieces blockId offsetSeconds (fromTimestamp endedAt) (fromTimestamp second),
      piece.bucket = bucket) ↔ (secondsBetween offsetSeconds endedAt bucket second).Nonempty := by
  rw [← card_pos]
  induction second using dwell_induction offsetSeconds endedAt with
  | ended second done =>
    rw [dwellPieces_ended offsetSeconds blockId endedAt done, secondsBetween,
      Ico_eq_empty_of_le done]
    simp
  | pass second running induction =>
    have later := lt_pieceEnd offsetSeconds running
    rw [dwellPieces_running offsetSeconds blockId endedAt running,
      card_secondsBetween offsetSeconds endedAt bucket running, List.exists_mem_cons_iff,
      induction]
    by_cases isBucket : hourBucket (fromTimestamp second) offsetSeconds = bucket
    · simp only [isBucket, true_or, if_true, true_iff]
      omega
    · simp [isBucket]

end Split

section Rows

variable (offsetSeconds : Int) (rows : List DwellRow) (bucket : Nat × Nat)

noncomputable def bucketSeconds : Nat := (rows.map fun row => (row.secondsIn offsetSeconds bucket).card).sum

def rowPieces : List DwellPiece := dwellSpanPieces offsetSeconds (rows.map DwellRow.span)

theorem rowPieces_cons (row : DwellRow) : rowPieces offsetSeconds (row :: rows) =
      dwellPieces row.blockId offsetSeconds (fromTimestamp row.endedAt)
        (fromTimestamp row.occurredAt) ++ rowPieces offsetSeconds rows :=
  rfl

theorem mem_rowPieces {piece : DwellPiece} : piece ∈ rowPieces offsetSeconds rows ↔
      ∃ row ∈ rows, piece ∈ dwellPieces row.blockId offsetSeconds (fromTimestamp row.endedAt)
        (fromTimestamp row.occurredAt) := by
  simp [rowPieces, dwellSpanPieces, DwellRow.span]

theorem sum_secondsIn (row : DwellRow) :
    ∑ bucket ∈ hourBuckets, (row.secondsIn offsetSeconds bucket).card = row.length := by
  rw [DwellRow.length, ← Int.card_Ico]
  exact (card_eq_sum_card_fiberwise fun second _ =>
    hourBucket_mem (fromTimestamp second) offsetSeconds).symm

theorem sum_bucketSeconds : ∑ bucket ∈ hourBuckets, bucketSeconds offsetSeconds rows bucket =
      (rows.map (·.length)).sum := by
  induction rows with
  | nil => simp [bucketSeconds]
  | cons row rows induction =>
    simp only [bucketSeconds, List.map_cons, List.sum_cons] at induction ⊢
    rw [sum_add_distrib, induction, sum_secondsIn]

theorem foldl_saturatingAdd (pieces : List DwellPiece) {total : Nat} (counted : total ≤ u32Max) :
    pieces.foldl (fun total piece => saturatingAdd total piece.seconds) total =
      min (total + (pieces.map (·.seconds)).sum) u32Max := by
  induction pieces generalizing total with
  | nil => simpa using counted
  | cons piece pieces induction =>
    have bounded : saturatingAdd total piece.seconds ≤ u32Max := min_le_right _ _
    rw [List.foldl_cons, induction bounded, List.map_cons, List.sum_cons]
    simp only [saturatingAdd, u32Max]
    omega

theorem sum_rowPieces : (((rowPieces offsetSeconds rows).filter fun piece =>
      decide (piece.bucket = bucket)).map (·.seconds)).sum =
        bucketSeconds offsetSeconds rows bucket := by
  induction rows with
  | nil => rfl
  | cons row rows induction =>
    rw [rowPieces_cons, List.filter_append, List.map_append, List.sum_append, induction,
      sum_dwellPieces]
    rfl

theorem dwellSeconds_rowPieces : dwellSeconds (rowPieces offsetSeconds rows) bucket =
      min (bucketSeconds offsetSeconds rows bucket) u32Max := by
  rw [dwellSeconds, foldl_saturatingAdd _ (Nat.zero_le _), sum_rowPieces, Nat.zero_add]

theorem mem_dwellBlocks_rowPieces {blockId : String} :
    blockId ∈ dwellBlocks (rowPieces offsetSeconds rows) bucket ↔
      ∃ row ∈ rows, row.blockId = blockId ∧ (row.secondsIn offsetSeconds bucket).Nonempty := by
  simp only [dwellBlocks, List.mem_dedup, List.mem_map, List.mem_filter, decide_eq_true_eq,
    mem_rowPieces]
  constructor
  · rintro ⟨piece, ⟨⟨row, member, isPiece⟩, isBucket⟩, rfl⟩
    have spent := (exists_dwellPiece_iff offsetSeconds row.blockId row.endedAt bucket
      row.occurredAt).mp ⟨piece, isPiece, isBucket⟩
    exact ⟨row, member, (blockId_of_dwellPieces _ _ _ _ piece isPiece).symm, spent⟩
  · rintro ⟨row, member, rfl, spent⟩
    obtain ⟨piece, isPiece, isBucket⟩ := (exists_dwellPiece_iff offsetSeconds row.blockId
      row.endedAt bucket row.occurredAt).mpr spent
    exact ⟨piece, ⟨⟨row, member, isPiece⟩, isBucket⟩, blockId_of_dwellPieces _ _ _ _ piece isPiece⟩

theorem length_rowPieces_le :
    (rowPieces offsetSeconds rows).length ≤ (rows.map (·.length)).sum := by
  induction rows with
  | nil => rfl
  | cons row rows induction =>
    have cut := length_dwellPieces_le offsetSeconds row.blockId row.endedAt row.occurredAt
    rw [rowPieces_cons, List.length_append, List.map_cons, List.sum_cons]
    unfold DwellRow.length at induction ⊢
    omega

theorem sum_dwellSeconds_iff :
    ∑ bucket ∈ hourBuckets, dwellSeconds (rowPieces offsetSeconds rows) bucket =
        (rows.map (·.length)).sum ↔
      ∀ bucket ∈ hourBuckets, bucketSeconds offsetSeconds rows bucket ≤ u32Max := by
  rw [← sum_bucketSeconds offsetSeconds, sum_eq_sum_iff_of_le]
  · simp only [dwellSeconds_rowPieces, min_eq_left_iff]
  · intro bucket _
    rw [dwellSeconds_rowPieces]
    exact min_le_left _ _

/-- The loop over the dwells of completed blocks makes at most one pass for each second of
them, a bucket holds the seconds that lie in it up to the largest `u32`, and it counts the
blocks that spent a second there. -/
theorem good_hours_count_seconds :
    (rowPieces offsetSeconds rows).length ≤ (rows.map (·.length)).sum ∧
      (∀ bucket, dwellSeconds (rowPieces offsetSeconds rows) bucket =
        min (bucketSeconds offsetSeconds rows bucket) u32Max) ∧
      ∑ bucket ∈ hourBuckets, bucketSeconds offsetSeconds rows bucket =
        (rows.map (·.length)).sum ∧
      (∑ bucket ∈ hourBuckets, dwellSeconds (rowPieces offsetSeconds rows) bucket =
          (rows.map (·.length)).sum ↔
        ∀ bucket ∈ hourBuckets, bucketSeconds offsetSeconds rows bucket ≤ u32Max) ∧
      ∀ bucket blockId, blockId ∈ dwellBlocks (rowPieces offsetSeconds rows) bucket ↔
        ∃ row ∈ rows, row.blockId = blockId ∧ (row.secondsIn offsetSeconds bucket).Nonempty :=
  ⟨length_rowPieces_le offsetSeconds rows, dwellSeconds_rowPieces offsetSeconds rows,
    sum_bucketSeconds offsetSeconds rows, sum_dwellSeconds_iff offsetSeconds rows,
    fun bucket _ => mem_dwellBlocks_rowPieces offsetSeconds rows bucket⟩

def firstHour : DwellRow where
  blockId := "block"
  occurredAt := 0
  endedAt := 3600

theorem card_secondsIn_firstHour : (firstHour.secondsIn 0 (3, 0)).card = 3600 := by
  have nextHourStarts : nextLocalHour 0 0 = 3600 := by decide
  rw [DwellRow.secondsIn, secondsBetween, filter_true_of_mem, Int.card_Ico]
  · rfl
  · intro second member
    obtain ⟨after, before⟩ := mem_Ico.mp member
    rw [hourBucket_eq 0 after (before.trans_eq nextHourStarts.symm)]
    decide

/-- A bucket that holds more seconds than a `u32` can count is saturated. -/
theorem many_hours_saturate :
    bucketSeconds 0 (List.replicate 1193047 firstHour) (3, 0) = 4294969200 ∧
      dwellSeconds (rowPieces 0 (List.replicate 1193047 firstHour)) (3, 0) = 4294967295 := by
  have counted : bucketSeconds 0 (List.replicate 1193047 firstHour) (3, 0) = 4294969200 := by
    rw [bucketSeconds, List.map_replicate, List.sum_replicate, card_secondsIn_firstHour]
    rfl
  rw [dwellSeconds_rowPieces, counted]
  exact ⟨rfl, rfl⟩

end Rows

section Assessment

variable (completedBlockCount : Nat) (rows : List DwellRow) (now utcOffsetSeconds : Int)

end Assessment

end Velvt
