import Mathlib.Data.List.Perm.Basic
import Velvt.StepMachine
import Velvt.UploadPayloads

/-!
# Runs of the batch assembler

However events are pushed, batches flushed and handed back, every pushed event is either buffered
or in a batch that went out and stayed out; every batch holds events of one taxonomy version; and
the open batch has an age exactly while it has events.
-/

namespace Velvt

open StepMachine List

/-- A batch as the assembler makes them: it has events, all of its taxonomy version, and the rest
of its header is derived. -/
structure BatchPayload.Assembled (config : AssemblerConfig) (batch : BatchPayload) : Prop where
  nonempty : batch.events ≠ []
  uniform : ∀ event ∈ batch.events, event.taxonomyVersion = batch.categoryTaxonomyVersion
  derived : batch = BatchPayload.new batch.batchId "1" config.serviceVersion
    (uniqueAbstractionTypes batch.events) batch.categoryTaxonomyVersion batch.events

namespace BatchAssembler

variable (config : AssemblerConfig) {assembler : BatchAssembler}

def flushSleep (assembler : BatchAssembler) : Option BatchPayload × BatchAssembler :=
  assembler.takeBatch config

/-- The open batch has an age exactly while it has events. -/
def Opened (assembler : BatchAssembler) : Prop :=
  assembler.openedAt.isSome = true ↔ assembler.events ≠ []

/-- What a section under the lock makes of some events: a batch or none, and what stays open. -/
structure Sorts (events : List BatchEventPayload)
    (result : Option BatchPayload × BatchAssembler) : Prop where
  kept : (result.2.events ++ result.1.toList.flatMap fun batch => batch.events).Perm events
  assembled : ∀ batch, result.1 = some batch → batch.Assembled config
  opened : result.2.Opened

theorem Sorts.nothing (opened : assembler.Opened) :
    Sorts config assembler.events (none, assembler) where
  kept := by simp
  assembled := by simp
  opened := opened

theorem takeBatch_eq_none (empty : assembler.events = []) :
    assembler.takeBatch config = (none, assembler) := by
  rw [takeBatch, empty]
  rfl

theorem takeBatch_of_cons {first : BatchEventPayload} {rest : List BatchEventPayload}
    (isCons : assembler.events = first :: rest) :
    ∃ batch, (assembler.takeBatch config).1 = some batch ∧
      batch = BatchPayload.new batch.batchId "1" config.serviceVersion
        (uniqueAbstractionTypes batch.events) first.taxonomyVersion batch.events ∧
      batch.events = assembler.events.filter
        (fun event => event.taxonomyVersion == first.taxonomyVersion) ∧
      (assembler.takeBatch config).2.events = assembler.events.filter
        (fun event => !(event.taxonomyVersion == first.taxonomyVersion)) ∧
      (assembler.takeBatch config).2.openedAt =
        if (assembler.takeBatch config).2.events = [] then none else assembler.openedAt := by
  simp only [takeBatch, isCons, List.head?_cons, partition_eq_filter_filter]
  refine ⟨_, rfl, rfl, rfl, rfl, ?_⟩
  simp only [List.isEmpty_iff]

theorem takeBatch_sorts (opened : assembler.Opened) :
    Sorts config assembler.events (assembler.takeBatch config) := by
  cases isEvents : assembler.events with
  | nil =>
    rw [takeBatch_eq_none config isEvents, ← isEvents]
    exact Sorts.nothing config opened
  | cons first rest =>
    obtain ⟨batch, isBatch, derived, taken, left, age⟩ := takeBatch_of_cons config isEvents
    have version : batch.categoryTaxonomyVersion = first.taxonomyVersion := by
      rw [derived]
      rfl
    have isFirst : first ∈ batch.events := by
      rw [taken, isEvents]
      simp
    refine ⟨?_, ?_, ?_⟩
    · rw [isBatch, Option.toList_some, flatMap_singleton, taken, left, ← isEvents]
      exact perm_append_comm.trans (filter_append_perm _ _)
    · rintro other isOther
      rw [isBatch] at isOther
      cases isOther
      refine ⟨ne_nil_of_mem isFirst, fun event member => ?_, version ▸ derived⟩
      rw [taken] at member
      rw [version]
      exact eq_of_beq (mem_filter.mp member).2
    · rw [Opened, age]
      split
      next drained => simp [drained]
      next remains =>
        have wasOpen : assembler.openedAt.isSome = true := opened.mpr (by simp [isEvents])
        exact ⟨fun _ => remains, fun _ => wasOpen⟩

theorem push_sorts (opened : assembler.Opened) (event : BatchEventPayload) (now : Int) :
    Sorts config (assembler.events ++ [event]) (assembler.push config event now) := by
  unfold push
  split
  · -- The open batch is of another version: it goes out, and the event stays.
    obtain ⟨kept, assembled, -⟩ := takeBatch_sorts config opened
    refine ⟨?_, assembled, by simp [Opened]⟩
    have moved := kept.append_right [event]
    rw [append_assoc] at moved
    simp only [append_assoc]
    exact (perm_append_comm.append_left _).trans moved
  · have pushedOpen : Opened
        { openedAt := some (assembler.openedAt.getD now), events := assembler.events ++ [event] } :=
      by simp [Opened]
    dsimp only
    split
    · exact takeBatch_sorts config pushedOpen
    · exact Sorts.nothing config pushedOpen

theorem flushDue_sorts (opened : assembler.Opened) (now : Int) :
    Sorts config assembler.events (assembler.flushDue config now) := by
  unfold flushDue
  split
  · exact Sorts.nothing config opened
  split
  · exact takeBatch_sorts config opened
  · exact Sorts.nothing config opened

theorem requeue_events (assembler : BatchAssembler) (batch : BatchPayload) :
    (assembler.requeue batch).events = batch.events ++ assembler.events := by
  unfold requeue
  split
  next isEmpty => simp [isEmpty_iff.mp isEmpty]
  · rfl

theorem requeue_opened (opened : assembler.Opened) (batch : BatchPayload) :
    (assembler.requeue batch).Opened := by
  unfold requeue
  split
  · exact opened
  next full =>
    have nonempty : batch.events ≠ [] := fun isEmpty => full (isEmpty_iff.mpr isEmpty)
    have reopened : (batch.events.map (·.occurredAt)).min?.isSome = true := by
      rw [isSome_min?_iff]
      simpa using nonempty
    obtain ⟨reopenedAt, isReopened⟩ := Option.isSome_iff_exists.mp reopened
    rw [Opened, isReopened]
    cases assembler.openedAt <;> simp [nonempty]

end BatchAssembler

section Runs

/-- What is done with the assembler.  A batch is handed back by its place among those that are
still out. -/
inductive AssemblerOp
  | push (event : BatchEventPayload) (now : Int)
  | flushDue (now : Int)
  | flushSleep
  | flushShutdown
  | requeue (index : Nat)

/-- The assembler, with what was pushed, every batch it gave, and those not handed back. -/
structure AssemblerRun where
  assembler : BatchAssembler
  pushed : List BatchEventPayload
  emitted : List BatchPayload
  outstanding : List BatchPayload

namespace AssemblerRun

def start : AssemblerRun where
  assembler := .empty
  pushed := []
  emitted := []
  outstanding := []

def emit (state : AssemblerRun) (result : Option BatchPayload × BatchAssembler) : AssemblerRun :=
  { state with
    assembler := result.2
    emitted := state.emitted ++ result.1.toList
    outstanding := state.outstanding ++ result.1.toList }

end AssemblerRun

def assemblerMachine (config : AssemblerConfig) :
    Machine AssemblerRun AssemblerOp (Option BatchPayload) where
  step state op :=
    match op with
    | .push event now =>
      let result := state.assembler.push config event now
      (result.1, { state.emit result with pushed := state.pushed ++ [event] })
    | .flushDue now =>
      let result := state.assembler.flushDue config now
      (result.1, state.emit result)
    | .flushSleep =>
      let result := state.assembler.flushSleep config
      (result.1, state.emit result)
    | .flushShutdown =>
      let result := state.assembler.flushShutdown config
      (result.1, state.emit result)
    | .requeue index =>
      match state.outstanding[index]? with
      | none => (none, state)
      | some batch =>
        (none, { state with
          assembler := state.assembler.requeue batch
          outstanding := state.outstanding.eraseIdx index })

/-- Nothing pushed is lost or doubled, every batch is of one version, and the open batch has an
age exactly while it has events. -/
structure AssemblerRun.Kept (config : AssemblerConfig) (state : AssemblerRun) : Prop where
  events : (state.assembler.events ++
    state.outstanding.flatMap fun batch => batch.events).Perm state.pushed
  assembled : ∀ batch ∈ state.emitted, batch.Assembled config
  opened : state.assembler.Opened

variable {config : AssemblerConfig} {state : AssemblerRun}

theorem AssemblerRun.Kept.emit (kept : state.Kept config) {added : List BatchEventPayload}
    {result : Option BatchPayload × BatchAssembler}
    (sorts : BatchAssembler.Sorts config (state.assembler.events ++ added) result) :
    ({ state.emit result with pushed := state.pushed ++ added } : AssemblerRun).Kept config := by
  refine ⟨?_, ?_, sorts.opened⟩
  · -- The batch moves from the buffer to the ones that are out.
    simp only [AssemblerRun.emit, flatMap_append]
    have moved := sorts.kept.append_right (state.outstanding.flatMap fun batch => batch.events)
    have before := kept.events.append_right added
    refine List.Perm.trans ?_ before
    refine List.Perm.trans ?_ (moved.trans ?_)
    · rw [append_assoc]
      exact perm_append_comm.append_left _
    · rw [append_assoc, append_assoc]
      exact perm_append_comm.append_left _
  · intro batch member
    rcases mem_append.mp member with before | isNew
    · exact kept.assembled batch before
    · exact sorts.assembled batch (Option.mem_toList.mp isNew)

theorem AssemblerRun.Kept.flush (kept : state.Kept config)
    {result : Option BatchPayload × BatchAssembler}
    (sorts : BatchAssembler.Sorts config state.assembler.events result) :
    (state.emit result).Kept config := by
  have emitted := @AssemblerRun.Kept.emit config state kept [] result (by simpa using sorts)
  rw [append_nil] at emitted
  exact emitted

theorem AssemblerRun.Kept.requeue (kept : state.Kept config) {index : Nat} {batch : BatchPayload}
    (isOut : state.outstanding[index]? = some batch) :
    ({ state with
      assembler := state.assembler.requeue batch
      outstanding := state.outstanding.eraseIdx index } : AssemblerRun).Kept config := by
  obtain ⟨inRange, isBatch⟩ := List.getElem?_eq_some_iff.mp isOut
  refine ⟨?_, kept.assembled, BatchAssembler.requeue_opened kept.opened batch⟩
  have picked := (getElem_cons_eraseIdx_perm inRange).flatMap_right
    fun batch : BatchPayload => batch.events
  rw [isBatch, flatMap_cons] at picked
  rw [BatchAssembler.requeue_events, append_assoc]
  refine List.Perm.trans ?_ ((picked.append_left state.assembler.events).trans kept.events)
  rw [← append_assoc, ← append_assoc]
  exact perm_append_comm.append_right _

theorem kept_next (kept : state.Kept config) (op : AssemblerOp) :
    ((assemblerMachine config).next state op).Kept config := by
  cases op with
  | push event now => exact kept.emit (BatchAssembler.push_sorts config kept.opened event now)
  | flushDue now => exact kept.flush (BatchAssembler.flushDue_sorts config kept.opened now)
  | flushSleep => exact kept.flush (BatchAssembler.takeBatch_sorts config kept.opened)
  | flushShutdown => exact kept.flush (BatchAssembler.takeBatch_sorts config kept.opened)
  | requeue index =>
    simp only [Machine.next, assemblerMachine]
    cases isOut : state.outstanding[index]? with
    | none => exact kept
    | some batch => exact kept.requeue isOut

theorem kept_run (config : AssemblerConfig) (ops : List AssemblerOp) :
    ((assemblerMachine config).run .start ops).Kept config := by
  have initial : AssemblerRun.start.Kept config := by
    refine ⟨List.Perm.refl _, ?_, ?_⟩
    · intro batch member
      cases member
    · simp [BatchAssembler.Opened, AssemblerRun.start, BatchAssembler.empty]
  have keeps : ∀ state op, AssemblerRun.Kept config state →
      ((assemblerMachine config).next state op).Kept config :=
    fun _ op kept => kept_next kept op
  exact (assemblerMachine config).invariant_run_of_forall keeps ops initial

end Runs

section Shutdown

variable (config : AssemblerConfig)

def flushes (assembler : BatchAssembler) (count : Nat) : BatchAssembler :=
  (fun next => (next.flushShutdown config).2)^[count] assembler

theorem flushShutdown_eq_none_iff (assembler : BatchAssembler) :
    (assembler.flushShutdown config).1 = none ↔ assembler.events = [] := by
  cases isEvents : assembler.events with
  | nil => simp [BatchAssembler.flushShutdown, BatchAssembler.takeBatch_eq_none config isEvents]
  | cons first rest =>
    obtain ⟨batch, isBatch, -⟩ := BatchAssembler.takeBatch_of_cons config isEvents
    simp [BatchAssembler.flushShutdown, isBatch]

theorem flushShutdown_length {assembler : BatchAssembler} (nonempty : assembler.events ≠ []) :
    (assembler.flushShutdown config).2.events.length < assembler.events.length := by
  cases isEvents : assembler.events with
  | nil => exact absurd isEvents nonempty
  | cons first rest =>
    obtain ⟨batch, -, -, -, left, -⟩ := BatchAssembler.takeBatch_of_cons config isEvents
    rw [BatchAssembler.flushShutdown, left, isEvents, filter_cons_of_neg (by simp)]
    exact Nat.lt_succ_of_le (length_filter_le _ _)

theorem flushes_end (assembler : BatchAssembler) : ∃ count, count ≤ assembler.events.length ∧
      ((flushes config assembler count).flushShutdown config).1 = none ∧
      (flushes config assembler count).events = [] := by
  induction isLength : assembler.events.length using Nat.strong_induction_on
    generalizing assembler with
  | _ length ih =>
    by_cases isEmpty : assembler.events = []
    · exact ⟨0, Nat.zero_le _, (flushShutdown_eq_none_iff config assembler).mpr isEmpty, isEmpty⟩
    · have shorter := flushShutdown_length config isEmpty
      obtain ⟨count, few, ends, drained⟩ := ih _ (isLength ▸ shorter) _ rfl
      exact ⟨count + 1, by omega, ends, drained⟩

/-- In every run, the events pushed are those buffered and those in batches that stayed out; every
batch has events, all of its version; the open batch has an age exactly while it has events; and
flushing until nothing comes empties the buffer. -/
theorem assembler_keeps_events (ops : List AssemblerOp) :
    let state := (assemblerMachine config).run .start ops
    (state.assembler.events ++ state.outstanding.flatMap fun batch => batch.events).Perm
        state.pushed ∧
      (∀ batch ∈ state.emitted, batch.events ≠ [] ∧
        ∀ event ∈ batch.events, event.taxonomyVersion = batch.categoryTaxonomyVersion) ∧
      (state.assembler.openedAt.isSome = true ↔ state.assembler.events ≠ []) ∧
      (∃ count, ((flushes config state.assembler count).flushShutdown config).1 = none) ∧
      ∀ count, ((flushes config state.assembler count).flushShutdown config).1 = none →
        (flushes config state.assembler count).events = [] := by
  intro state
  obtain ⟨events, assembled, opened⟩ := kept_run config ops
  obtain ⟨count, -, ends, -⟩ := flushes_end config state.assembler
  refine ⟨events, ?_, opened, ⟨count, ends⟩, fun count isNone =>
    (flushShutdown_eq_none_iff config _).mp isNone⟩
  intro batch member
  exact ⟨(assembled batch member).nonempty, (assembled batch member).uniform⟩

end Shutdown

end Velvt
