import Velvt.WorkBlockRecords

/-!
# Block timing

The three timing functions of the work-block manager (`effective_now`, `planned_deadline` and
`elapsed_seconds`) and their form on stored rows.
-/

namespace Velvt

def effectiveNow (record : WorkBlockRecord .nanoseconds) (now : Int) : Int :=
  max now record.updatedAt

def plannedDeadline (record : WorkBlockRecord .nanoseconds) : Int :=
  record.startedAt + Duration.seconds (record.plannedDurationSeconds + record.totalPausedSeconds)

def elapsedSeconds (record : WorkBlockRecord .nanoseconds) (now : Int) : Nat :=
  let finish :=
    match record.phase with
    | .paused => record.pausedAt.getD now
    | .completed | .abandoned | .expired => record.endedAt.getD now
    | _ => effectiveNow record now
  positiveSeconds (finish - record.startedAt) - record.totalPausedSeconds

namespace WorkBlockRecord

variable (row : WorkBlockRecord .seconds)

/-- Seconds from the start to an instant, less the time already paused. -/
def spentBy (instant : Int) : Nat :=
  min (instant - row.startedAt).toNat u32Max - row.totalPausedSeconds

def deadline : Int :=
  row.startedAt + row.plannedDurationSeconds + row.totalPausedSeconds

/-- The instant up to which a stored row counts elapsed time at a reading. -/
def countedUntil (reading : Int) : Int :=
  match row.phase with
  | .paused => row.pausedAt.getD reading
  | .completed | .abandoned | .expired => row.endedAt.getD reading
  | _ => max reading row.updatedAt

def elapsedAt (reading : Int) : Nat :=
  row.spentBy (row.countedUntil reading)

def persistedElapsed : Nat :=
  row.elapsedAt row.updatedAt

theorem spentBy_mono {first second : Int} (ordered : first ≤ second) :
    row.spentBy first ≤ row.spentBy second := by
  simp only [spentBy]
  omega

theorem spentBy_max (first second : Int) : row.spentBy (max first second) =
      max (row.spentBy first) (row.spentBy second) := by
  rcases le_total first second with ordered | ordered
  · rw [max_eq_right ordered, max_eq_right (row.spentBy_mono ordered)]
  · rw [max_eq_left ordered, max_eq_left (row.spentBy_mono ordered)]

@[simp]
theorem plannedDeadline_loaded :
    plannedDeadline row.loaded = fromTimestamp row.deadline := by
  simp only [plannedDeadline, loaded, deadline, fromTimestamp_add_seconds]
  congr 1
  omega

@[simp]
theorem effectiveNow_loaded (now : Int) :
    effectiveNow row.loaded now = max now (fromTimestamp row.updatedAt) :=
  rfl

@[simp]
theorem elapsedSeconds_loaded (now : Int) :
    elapsedSeconds row.loaded now = row.elapsedAt (timestamp now) := by
  have counted (stored : Option Int) : timestamp ((stored.map fromTimestamp).getD now) =
        stored.getD (timestamp now) := by
    cases stored <;> simp
  unfold elapsedSeconds elapsedAt countedUntil spentBy
  cases phase : row.phase <;>
    simp [loaded, phase, positiveSeconds_sub_fromTimestamp, counted, effectiveNow]

theorem elapsedAt_active (active : row.phase = .active) (reading : Int) :
    row.elapsedAt reading = row.spentBy (max reading row.updatedAt) := by
  simp [elapsedAt, countedUntil, active]

theorem elapsedAt_paused (paused : row.phase = .paused) {pausedAt : Int}
    (stored : row.pausedAt = some pausedAt) (reading : Int) :
    row.elapsedAt reading = row.spentBy pausedAt := by
  simp [elapsedAt, countedUntil, paused, stored]

theorem elapsedAt_terminal (terminal : row.phase.isTerminal = true)
    {endedAt : Int} (stored : row.endedAt = some endedAt) (reading : Int) :
    row.elapsedAt reading = row.spentBy endedAt := by
  cases phase : row.phase <;>
    simp_all [elapsedAt, countedUntil, WorkBlockPhase.isTerminal]

theorem persistedElapsed_active (active : row.phase = .active) :
    row.persistedElapsed = row.spentBy row.updatedAt := by
  rw [persistedElapsed, elapsedAt_active row active, max_self]

theorem persistedElapsed_paused (paused : row.phase = .paused) {pausedAt : Int}
    (stored : row.pausedAt = some pausedAt) :
    row.persistedElapsed = row.spentBy pausedAt :=
  elapsedAt_paused row paused stored _

theorem persistedElapsed_terminal (terminal : row.phase.isTerminal = true)
    {endedAt : Int} (stored : row.endedAt = some endedAt) :
    row.persistedElapsed = row.spentBy endedAt :=
  elapsedAt_terminal row terminal stored _

theorem spentBy_deadline_le : row.spentBy row.deadline ≤ row.plannedDurationSeconds := by
  simp only [spentBy, deadline]
  omega

theorem spentBy_le_deadline {instant : Int}
    (within : row.spentBy instant ≤ row.plannedDurationSeconds) :
    row.spentBy instant ≤ row.spentBy row.deadline := by
  simp only [spentBy, deadline] at *
  omega

end WorkBlockRecord

end Velvt
