import Mathlib.Tactic.Linarith

/-!
# Instants, durations and 32-bit counters

Instants have nanosecond precision (`DateTime<Utc>`) and are stored as whole seconds, both as
integers since the Unix epoch; a record says by its `Resolution` which of the two it holds.  The
second arithmetic of the store is the floor of the nanosecond arithmetic.  Counters are `u32`, and
saturate where those of the source do.
-/

namespace Velvt

/-- What the instants of a record count: nanoseconds in memory, whole seconds
in a row of the store. -/
inductive Resolution
  | nanoseconds
  | seconds

/-- `Duration::seconds`, in nanoseconds. -/
def Duration.seconds (count : Int) : Int := count * 1000000000

/-- `Duration::hours`, in nanoseconds. -/
def Duration.hours (count : Int) : Int := Duration.seconds (count * 3600)

/-- `Duration::days`, in nanoseconds. -/
def Duration.days (count : Int) : Int := Duration.seconds (count * 86400)

/-- `Duration::num_seconds`: whole seconds, truncated toward zero. -/
def numSeconds (duration : Int) : Int := duration.tdiv 1000000000

/-- `DateTime::timestamp`: whole seconds since the epoch, rounded down. -/
def timestamp (instant : Int) : Int := instant / 1000000000

/-- `DateTime::from_timestamp`: the instant a stored column is read back
as. -/
def fromTimestamp (stored : Int) : Int := stored * 1000000000

@[simp]
theorem timestamp_fromTimestamp (stored : Int) :
    timestamp (fromTimestamp stored) = stored := by
  simp only [timestamp, fromTimestamp]
  omega

variable {first second : Int}

theorem timestamp_mono (ordered : first ≤ second) :
    timestamp first ≤ timestamp second := by
  simp only [timestamp]
  omega

@[simp]
theorem timestamp_max (first second : Int) :
    timestamp (max first second) = max (timestamp first) (timestamp second) := by
  simp only [timestamp]
  omega

@[simp]
theorem timestamp_min (first second : Int) :
    timestamp (min first second) = min (timestamp first) (timestamp second) := by
  simp only [timestamp]
  omega

theorem fromTimestamp_le_iff {stored instant : Int} :
    fromTimestamp stored ≤ instant ↔ stored ≤ timestamp instant := by
  simp only [fromTimestamp, timestamp]
  omega

theorem lt_fromTimestamp_iff {stored instant : Int} :
    instant < fromTimestamp stored ↔ timestamp instant < stored := by
  simp only [fromTimestamp, timestamp]
  omega

@[simp]
theorem fromTimestamp_inj : fromTimestamp first = fromTimestamp second ↔ first = second := by
  simp only [fromTimestamp]
  omega

@[simp]
theorem fromTimestamp_lt : fromTimestamp first < fromTimestamp second ↔ first < second := by
  simp only [fromTimestamp]
  omega

@[simp]
theorem fromTimestamp_le : fromTimestamp first ≤ fromTimestamp second ↔ first ≤ second := by
  simp only [fromTimestamp]
  omega

theorem fromTimestamp_add_seconds (stored count : Int) :
    fromTimestamp stored + Duration.seconds count =
      fromTimestamp (stored + count) := by
  simp only [fromTimestamp, Duration.seconds]
  omega

/-- The instant is a whole second. -/
def WholeSecond (instant : Int) : Prop := ∃ second, instant = fromTimestamp second

theorem wholeSecond_iff {instant : Int} :
    WholeSecond instant ↔ fromTimestamp (timestamp instant) = instant := by
  constructor
  · rintro ⟨second, rfl⟩
    rw [timestamp_fromTimestamp]
  · exact fun whole => ⟨_, whole.symm⟩

/-- `u32::MAX`. -/
abbrev u32Max : Nat := 4294967295

def saturatingAdd (first second : Nat) : Nat := min (first + second) u32Max

def saturatingMul (first second : Nat) : Nat := min (first * second) u32Max

/-- A span as a `u32` count of seconds: negative spans count as zero and long
ones saturate. -/
def positiveSeconds (duration : Int) : Nat :=
  (min (max (numSeconds duration) 0) u32Max).toNat

theorem positiveSeconds_eq (duration : Int) :
    positiveSeconds duration = min (duration / 1000000000).toNat u32Max := by
  have floor : max (duration.tdiv 1000000000) 0 = max (duration / 1000000000) 0 := by
    rcases Int.le_total 0 duration with nonneg | negative
    · rw [Int.tdiv_eq_ediv_of_nonneg nonneg]
    · have truncated : duration.tdiv 1000000000 ≤ 0 := by
        rw [← Int.neg_neg duration, Int.neg_tdiv, Int.tdiv_eq_ediv_of_nonneg (by omega)]
        omega
      have rounded : duration / 1000000000 ≤ 0 := by omega
      rw [max_eq_right truncated, max_eq_right rounded]
  simp only [positiveSeconds, numSeconds, floor]
  omega

theorem positiveSeconds_sub_fromTimestamp (instant start : Int) :
    positiveSeconds (instant - fromTimestamp start) =
      min (timestamp instant - start).toNat u32Max := by
  rw [positiveSeconds_eq]
  simp only [fromTimestamp, timestamp]
  congr 2
  omega

end Velvt
