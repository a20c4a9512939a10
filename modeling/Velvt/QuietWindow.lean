import Velvt.FocusEvidence

/-!
# The end of quiet hours

A notification that is raised in quiet hours waits for the instant at which they end.
-/

namespace Velvt

/-- `Duration::minutes`, in nanoseconds. -/
def Duration.minutes (count : Int) : Int := Duration.seconds (count * 60)

namespace VelvtQuietHours

variable (quietHours : VelvtQuietHours)

/-- What the columns of `velvt_quiet_hours` admit. -/
@[mk_iff]
structure Admitted : Prop where
  start_le : quietHours.startLocalMinutes ≤ 1439
  end_le : quietHours.endLocalMinutes ≤ 1439

instance : Decidable quietHours.Admitted :=
  decidable_of_iff' _ (admitted_iff quietHours)

def holdsMinute (minutes : Nat) : Bool :=
  if quietHours.startLocalMinutes ≤ quietHours.endLocalMinutes then
    decide (quietHours.startLocalMinutes ≤ minutes ∧ minutes < quietHours.endLocalMinutes)
  else
    decide (quietHours.startLocalMinutes ≤ minutes ∨ minutes < quietHours.endLocalMinutes)

def minutesLeft (minutes : Nat) : Nat :=
  if minutes < quietHours.endLocalMinutes then quietHours.endLocalMinutes - minutes
  else (1440 - minutes) + quietHours.endLocalMinutes

variable {quietHours} {minutes : Nat}

theorem Admitted.minutesLeft_spec (admitted : quietHours.Admitted) (ofDay : minutes < 1440)
    (inside : quietHours.holdsMinute minutes = true) :
    0 < quietHours.minutesLeft minutes ∧
      quietHours.holdsMinute ((minutes + quietHours.minutesLeft minutes) % 1440) = false ∧
      ∀ later < quietHours.minutesLeft minutes,
        quietHours.holdsMinute ((minutes + later) % 1440) = true := by
  have := admitted.start_le
  have := admitted.end_le
  unfold holdsMinute at inside ⊢
  unfold minutesLeft
  by_cases wraps : quietHours.startLocalMinutes ≤ quietHours.endLocalMinutes
  · simp only [if_pos wraps, decide_eq_true_eq, decide_eq_false_iff_not] at inside ⊢
    rw [if_pos inside.2]
    refine ⟨by omega, by omega, ?_⟩
    intro later before
    omega
  · simp only [if_neg wraps, decide_eq_true_eq, decide_eq_false_iff_not] at inside ⊢
    by_cases morning : minutes < quietHours.endLocalMinutes
    · rw [if_pos morning]
      refine ⟨by omega, by omega, ?_⟩
      intro later before
      omega
    · rw [if_neg morning]
      refine ⟨by omega, by omega, ?_⟩
      intro later before
      omega

end VelvtQuietHours

section Minutes

def localMinute (instant utcOffsetSeconds : Int) : Int :=
  toLocal instant (clampOffset utcOffsetSeconds) / 60

/-- The instant is the first of a local minute. -/
def OnLocalMinute (instant utcOffsetSeconds : Int) : Prop :=
  (instant + Duration.seconds (clampOffset utcOffsetSeconds)) % Duration.minutes 1 = 0
  deriving Decidable

variable {instant utcOffsetSeconds : Int}

theorem localMinute_eq : localMinute instant utcOffsetSeconds =
    (instant + Duration.seconds (clampOffset utcOffsetSeconds)) / Duration.minutes 1 := by
  have within : -86400 < clampOffset utcOffsetSeconds ∧ clampOffset utcOffsetSeconds < 86400 := by
    simp only [clampOffset]
    omega
  simp only [localMinute, toLocal, if_pos within, timestamp, Duration.minutes, Duration.seconds]
  omega

theorem minuteOfDay_eq : LocalTime.hour (toLocal instant (clampOffset utcOffsetSeconds)) * 60 +
        LocalTime.minute (toLocal instant (clampOffset utcOffsetSeconds)) =
      (localMinute instant utcOffsetSeconds % 1440).toNat := by
  simp only [LocalTime.hour, LocalTime.minute, localMinute]
  omega

theorem localMinute_mono {later : Int} (ordered : instant ≤ later) :
    localMinute instant utcOffsetSeconds ≤ localMinute later utcOffsetSeconds := by
  rw [localMinute_eq, localMinute_eq]
  simp only [Duration.minutes, Duration.seconds]
  omega

theorem localMinute_add (count : Int) :
    localMinute (instant + Duration.minutes count) utcOffsetSeconds =
      localMinute instant utcOffsetSeconds + count := by
  rw [localMinute_eq, localMinute_eq]
  simp only [Duration.minutes, Duration.seconds]
  omega

theorem OnLocalMinute.localMinute_lt (exact : OnLocalMinute instant utcOffsetSeconds)
    {later count : Int} (before : later < instant + Duration.minutes count) :
    localMinute later utcOffsetSeconds < localMinute instant utcOffsetSeconds + count := by
  rw [localMinute_eq, localMinute_eq]
  simp only [OnLocalMinute, Duration.minutes, Duration.seconds] at exact before ⊢
  omega

theorem exists_localMinute_of_not (inexact : ¬ OnLocalMinute instant utcOffsetSeconds) (count : Int)
    (some_left : 0 < count) :
    ∃ later, instant ≤ later ∧ later < instant + Duration.minutes count ∧
      localMinute later utcOffsetSeconds = localMinute instant utcOffsetSeconds + count := by
  refine ⟨instant + Duration.minutes count -
    (instant + Duration.seconds (clampOffset utcOffsetSeconds)) % Duration.minutes 1, ?_, ?_, ?_⟩
  · simp only [Duration.minutes, Duration.seconds]
    omega
  · simp only [OnLocalMinute, Duration.minutes, Duration.seconds] at inexact ⊢
    omega
  · rw [localMinute_eq, localMinute_eq]
    simp only [Duration.minutes, Duration.seconds]
    omega

end Minutes

namespace FocusTables

/-- `quiet_hours_end`: the instant at which the quiet window that contains `now` closes. -/
def quietHoursEnd (tables : FocusTables) (now : Int) : Option Int :=
  (tables.quietHoursRemainingMinutes now).map fun remaining =>
    now + Duration.minutes remaining

end FocusTables

/-- The tables of the focus repository, with a window that its columns admit. -/
structure FocusStore where
  tables : FocusTables
  admitted : ∀ quietHours ∈ tables.quietHours, quietHours.Admitted

namespace FocusStore

variable (store : FocusStore)

/-- Quiet hours hold at every instant between the two. -/
def SameOccurrence (first second : Int) : Prop :=
  ∀ instant, min first second ≤ instant → instant ≤ max first second →
    store.tables.inVelvtQuietHours instant = true

/-- The end of quiet hours at an instant is the first instant outside the window, and there is
one exactly inside it. -/
structure EndsWindow (now : Int) : Prop where
  isSome_eq : (store.tables.quietHoursEnd now).isSome = store.tables.inVelvtQuietHours now
  later : ∀ close ∈ store.tables.quietHoursEnd now, now < close
  outside : ∀ close ∈ store.tables.quietHoursEnd now, store.tables.inVelvtQuietHours close = false
  inside : ∀ close ∈ store.tables.quietHoursEnd now, ∀ instant, now ≤ instant → instant < close →
    store.tables.inVelvtQuietHours instant = true

/-- An instant inside the window is the first of a minute on the stored local clock. -/
def WholeMinuteInside (now : Int) : Prop :=
  store.tables.inVelvtQuietHours now = true →
    ∀ offset ∈ store.tables.utcOffsetSeconds, OnLocalMinute now offset

variable {store} {quietHours : VelvtQuietHours} {offset now : Int}

section Configured

variable (configured : store.tables.quietHours = some quietHours)
  (known : store.tables.utcOffsetSeconds = some offset)

include configured known

theorem quietHoursRemainingMinutes_eq (instant : Int) :
    store.tables.quietHoursRemainingMinutes instant =
      if quietHours.holdsMinute (localMinute instant offset % 1440).toNat then
        some (quietHours.minutesLeft (localMinute instant offset % 1440).toNat)
      else none := by
  simp only [FocusTables.quietHoursRemainingMinutes, known, Option.bind_some,
    FocusTables.quietHoursRemainingMinutesAt, configured, minuteOfDay_eq]
  change (if (!quietHours.holdsMinute (localMinute instant offset % 1440).toNat) = true then none
    else some (quietHours.minutesLeft (localMinute instant offset % 1440).toNat)) = _
  cases quietHours.holdsMinute (localMinute instant offset % 1440).toNat <;> rfl

theorem inVelvtQuietHours_eq (instant : Int) : store.tables.inVelvtQuietHours instant =
      quietHours.holdsMinute (localMinute instant offset % 1440).toNat := by
  rw [FocusTables.inVelvtQuietHours, quietHoursRemainingMinutes_eq configured known]
  cases quietHours.holdsMinute (localMinute instant offset % 1440).toNat <;> rfl

theorem inVelvtQuietHours_of_localMinute {instant : Int} {count : Nat}
    (minutes : localMinute instant offset = localMinute now offset + count) :
    store.tables.inVelvtQuietHours instant =
      quietHours.holdsMinute (((localMinute now offset % 1440).toNat + count) % 1440) := by
  rw [inVelvtQuietHours_eq configured known, minutes]
  congr 1
  omega

theorem endsWindow_iff_of_inside (inside : store.tables.inVelvtQuietHours now = true) :
    store.EndsWindow now ↔ OnLocalMinute now offset := by
  have held : quietHours.holdsMinute (localMinute now offset % 1440).toNat = true := by
    rw [← inVelvtQuietHours_eq configured known, inside]
  obtain ⟨positive, closes, through⟩ :=
    (store.admitted quietHours configured).minutesLeft_spec (by omega) held
  set left := quietHours.minutesLeft (localMinute now offset % 1440).toNat
  have deadline : store.tables.quietHoursEnd now = some (now + Duration.minutes left) := by
    rw [FocusTables.quietHoursEnd, quietHoursRemainingMinutes_eq configured known, if_pos held]
    rfl
  constructor
  · intro ends
    by_contra inexact
    obtain ⟨late, notBefore, before, minute⟩ :=
      exists_localMinute_of_not inexact left (by omega)
    have quiet := ends.inside _ deadline late notBefore before
    rw [inVelvtQuietHours_of_localMinute configured known minute, closes] at quiet
    cases quiet
  · intro exact_minute
    constructor
    · rw [deadline, inside]
      rfl
    · intro close isClose
      obtain rfl := Option.some.inj (deadline.symm.trans isClose)
      simp only [Duration.minutes, Duration.seconds]
      omega
    · intro close isClose
      obtain rfl := Option.some.inj (deadline.symm.trans isClose)
      rw [inVelvtQuietHours_of_localMinute configured known (localMinute_add _), closes]
    · intro close isClose instant notBefore before
      obtain rfl := Option.some.inj (deadline.symm.trans isClose)
      have reached : localMinute now offset ≤ localMinute instant offset :=
        localMinute_mono notBefore
      have short := exact_minute.localMinute_lt before
      obtain ⟨count, minutes⟩ := Int.eq_ofNat_of_zero_le (Int.sub_nonneg_of_le reached)
      have minute : localMinute instant offset = localMinute now offset + count := by omega
      rw [inVelvtQuietHours_of_localMinute configured known minute]
      exact through count (by omega)

end Configured

theorem endsWindow_of_outside (outside : store.tables.inVelvtQuietHours now = false) :
    store.EndsWindow now := by
  have open_ended : store.tables.quietHoursEnd now = none := by
    rw [FocusTables.inVelvtQuietHours, Option.isSome_eq_false_iff, Option.isNone_iff_eq_none]
      at outside
    rw [FocusTables.quietHoursEnd, outside]
    rfl
  constructor
  · rw [open_ended, outside]
    rfl
  all_goals
    intro close isClose
    rw [open_ended] at isClose
    cases isClose

theorem exists_configured (inside : store.tables.inVelvtQuietHours now = true) :
    ∃ quietHours offset, store.tables.quietHours = some quietHours ∧
      store.tables.utcOffsetSeconds = some offset := by
  cases known : store.tables.utcOffsetSeconds with
  | none =>
    simp [FocusTables.inVelvtQuietHours, FocusTables.quietHoursRemainingMinutes, known] at inside
  | some offset =>
    cases configured : store.tables.quietHours with
    | none =>
      simp [FocusTables.inVelvtQuietHours, FocusTables.quietHoursRemainingMinutes, known,
        FocusTables.quietHoursRemainingMinutesAt, configured] at inside
    | some quietHours => exact ⟨quietHours, offset, rfl, rfl⟩

theorem endsWindow_iff (store : FocusStore) (now : Int) :
    store.EndsWindow now ↔ store.WholeMinuteInside now := by
  cases inside : store.tables.inVelvtQuietHours now with
  | false => exact iff_of_true (endsWindow_of_outside inside) (fun held => by simp [inside] at held)
  | true =>
    obtain ⟨quietHours, offset, configured, known⟩ := exists_configured inside
    rw [endsWindow_iff_of_inside configured known inside]
    constructor
    · intro minute _ other isOther
      obtain rfl := Option.some.inj (known.symm.trans isOther)
      exact minute
    · intro minutes
      exact minutes inside offset known

theorem quietHoursEnd_congr {first second : Int} (firstEnds : store.EndsWindow first)
    (secondEnds : store.EndsWindow second) (together : store.SameOccurrence first second) :
    store.tables.quietHoursEnd first = store.tables.quietHoursEnd second := by
  have exists_close (now : Int) (ends : store.EndsWindow now)
      (quiet : store.tables.inVelvtQuietHours now = true) :
      ∃ close, store.tables.quietHoursEnd now = some close :=
    Option.isSome_iff_exists.mp (ends.isSome_eq.trans quiet)
  obtain ⟨firstClose, isFirst⟩ :=
    exists_close first firstEnds (together first (by omega) (by omega))
  obtain ⟨secondClose, isSecond⟩ :=
    exists_close second secondEnds (together second (by omega) (by omega))
  -- A deadline lies outside, so it lies neither between the two instants nor before the other's.
  have firstBeyond := fun here => together firstClose here
  have secondBeyond := fun here => together secondClose here
  rw [firstEnds.outside _ isFirst] at firstBeyond
  rw [secondEnds.outside _ isSecond] at secondBeyond
  have firstLater := firstEnds.later _ isFirst
  have secondLater := secondEnds.later _ isSecond
  have notLess : ¬ firstClose < secondClose := by
    intro less
    have quiet := secondEnds.inside _ isSecond firstClose
    rw [firstEnds.outside _ isFirst] at quiet
    have := mt (quiet · less) (by simp)
    have := mt (firstBeyond (by omega)) (by simp)
    omega
  have notMore : ¬ secondClose < firstClose := by
    intro less
    have quiet := firstEnds.inside _ isFirst secondClose
    rw [secondEnds.outside _ isSecond] at quiet
    have := mt (quiet · less) (by simp)
    have := mt (secondBeyond (by omega)) (by simp)
    omega
  rw [isFirst, isSecond, show firstClose = secondClose by omega]

/-- The end of quiet hours is that of the window, and the same for two instants of one
occurrence, exactly at whole minutes of the local clock. -/
theorem quiet_hours_end_iff_whole_minute (store : FocusStore) (first second : Int) :
    (store.EndsWindow first ∧ store.EndsWindow second ∧
      (store.SameOccurrence first second →
        store.tables.quietHoursEnd first = store.tables.quietHoursEnd second)) ↔
      store.WholeMinuteInside first ∧ store.WholeMinuteInside second := by
  constructor
  · rintro ⟨firstEnds, secondEnds, -⟩
    exact ⟨(endsWindow_iff store first).mp firstEnds, (endsWindow_iff store second).mp secondEnds⟩
  · rintro ⟨firstWhole, secondWhole⟩
    have firstEnds := (endsWindow_iff store first).mpr firstWhole
    have secondEnds := (endsWindow_iff store second).mpr secondWhole
    exact ⟨firstEnds, secondEnds, quietHoursEnd_congr firstEnds secondEnds⟩

def lateNights : FocusStore where
  tables :=
    { FocusTables.empty with
      observerState := some { utcOffsetSeconds := 0, updatedAt := 0 }
      quietHours := some
        { startLocalMinutes := quietStartLocalMinutes
          endLocalMinutes := quietEndLocalMinutes
          ruleVersion := dndPatternRuleVersion
          configuredAt := 0 } }
  admitted := by
    rintro _ ⟨⟩
    decide

/-- Half a minute after 23:30 the deadline is half a minute after seven. -/
theorem quiet_hours_end_overruns :
    ¬ (lateNights.EndsWindow (Duration.seconds 84600) ∧
      lateNights.EndsWindow (Duration.seconds 84630) ∧
      (lateNights.SameOccurrence (Duration.seconds 84600) (Duration.seconds 84630) →
        lateNights.tables.quietHoursEnd (Duration.seconds 84600) =
          lateNights.tables.quietHoursEnd (Duration.seconds 84630))) := by
  rintro ⟨-, ends, -⟩
  have quiet := ends.inside (Duration.seconds 111630) (by decide) (Duration.seconds 111600)
    (by decide) (by decide)
  revert quiet
  decide

end FocusStore

end Velvt
