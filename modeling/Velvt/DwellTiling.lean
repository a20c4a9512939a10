import Velvt.CollectionDwells
import Mathlib.Data.List.Chain

/-!
# Dwells tile time

The history of the open dwell alternates between what opens one and what closes it, each step
starting where the one before it ended, whatever the order of the sections and of the instants
that they were given.
-/

namespace Velvt.Collection

open StepMachine AXCollectionAgent List

section Invariant

/-- The history is a chain from a first dwell to the one that is open. -/
structure Tiled (agent : AXCollectionAgent) : Prop where
  chain : agent.log.IsChain DwellStep.Abuts
  first : ∀ step ∈ agent.log.head?, ∃ event, step = .began event
  last : agent.log.getLast?.bind DwellStep.opens = agent.pendingDwellEvent
  fresh : agent.isRunningLocked = true → agent.pendingDwellEvent = none → agent.log = []

/-- A section extends the chain, and its calls report what it adds. -/
structure Continues (agent later : AXCollectionAgent) (calls : List SinkCall) : Prop where
  tiled : Tiled later
  reported : later.log.filterMap DwellStep.call = agent.log.filterMap DwellStep.call ++ calls

variable {agent : AXCollectionAgent}

variable {later : AXCollectionAgent}

theorem Tiled.continues_of_same (tiled : Tiled agent)
    (running : later.isRunningLocked = agent.isRunningLocked)
    (pending : later.pendingDwellEvent = agent.pendingDwellEvent)
    (log : later.log = agent.log) : Continues agent later [] := by
  refine ⟨⟨?_, ?_, ?_, ?_⟩, ?_⟩
  · rw [log]
    exact tiled.chain
  · rw [log]
    exact tiled.first
  · rw [log, pending]
    exact tiled.last
  · rw [running, pending, log]
    exact tiled.fresh
  · rw [log, append_nil]

variable {pending : RawEvent}

theorem Tiled.last_opens (tiled : Tiled agent)
    (isOpen : agent.pendingDwellEvent = some pending) :
    ∃ step, agent.log.getLast? = some step ∧ step.opens = some pending :=
  Option.bind_eq_some_iff.mp (tiled.last.trans isOpen)

theorem abuts_of_opens {step : DwellStep} (opens : step.opens = some pending)
    (closedAt : ℚ) :
    step.Abuts
      (.closed (pending.withDuration (dwellSeconds pending.occurredAt closedAt)) closedAt) := by
  cases step with
  | began event | reopened event =>
    cases opens
    rfl
  | closed event closedAt => cases opens

theorem head_append_of_open {step first : DwellStep} {log more : List DwellStep}
    (last : log.getLast? = some step) (isFirst : first ∈ (log ++ more).head?) :
    first ∈ log.head? := by
  cases log with
  | nil => cases last
  | cons head tail => exact isFirst

theorem Tiled.closes (tiled : Tiled agent)
    (isOpen : agent.pendingDwellEvent = some pending) (closedAt : ℚ)
    (stopped : later.isRunningLocked = false) (none_open : later.pendingDwellEvent = none)
    (log : later.log = agent.log ++
      [.closed (pending.withDuration (dwellSeconds pending.occurredAt closedAt)) closedAt]) :
    Continues agent later
      [.receive (pending.withDuration (dwellSeconds pending.occurredAt closedAt))] := by
  obtain ⟨step, last, opens⟩ := tiled.last_opens isOpen
  refine ⟨⟨?_, ?_, ?_, ?_⟩, ?_⟩
  · rw [log]
    refine tiled.chain.append (isChain_singleton _) ?_
    intro before isLast next isNext
    cases isNext
    rw [Option.mem_def, last] at isLast
    cases isLast
    exact abuts_of_opens opens closedAt
  · intro first isFirst
    rw [log] at isFirst
    exact tiled.first first (head_append_of_open last isFirst)
  · rw [log, List.getLast?_concat, none_open]
    rfl
  · intro running
    rw [stopped] at running
    cases running
  · rw [log, filterMap_append]
    rfl

theorem Tiled.replaces (tiled : Tiled agent) (next : RawEvent)
    (isOpen : agent.pendingDwellEvent = some pending)
    (forward : pending.occurredAt ≤ next.occurredAt) {opening : DwellStep}
    (opens : opening = .began next ∨ opening = .reopened next ∧ pending.SameActivity next)
    (nextOpen : later.pendingDwellEvent = some next)
    (log : later.log = agent.log ++
      [.closed (pending.withDuration (dwellSeconds pending.occurredAt next.occurredAt))
        next.occurredAt, opening]) :
    Continues agent later
      (.receive (pending.withDuration (dwellSeconds pending.occurredAt next.occurredAt)) ::
        opening.call.toList) := by
  obtain ⟨step, last, isPending⟩ := tiled.last_opens isOpen
  refine ⟨⟨?_, ?_, ?_, ?_⟩, ?_⟩
  · rw [log]
    refine tiled.chain.append ?_ ?_
    · rw [isChain_cons_cons]
      refine ⟨?_, isChain_singleton _⟩
      rcases opens with rfl | ⟨rfl, same⟩
      · exact ⟨forward, rfl⟩
      · exact ⟨forward, rfl, same⟩
    · intro before isLast closing isNext
      cases isNext
      rw [Option.mem_def, last] at isLast
      cases isLast
      exact abuts_of_opens isPending next.occurredAt
  · intro first isFirst
    rw [log] at isFirst
    exact tiled.first first (head_append_of_open last isFirst)
  · rw [log, nextOpen]
    rcases opens with rfl | ⟨rfl, -⟩ <;> simp [DwellStep.opens]
  · intro _ none_open
    rw [nextOpen] at none_open
    cases none_open
  · rw [log, filterMap_append]
    rcases opens with rfl | ⟨rfl, -⟩ <;> rfl

theorem Tiled.replacePendingDwell (tiled : Tiled agent) (running : agent.isRunningLocked = true)
    (next : RawEvent) :
    Continues agent (agent.replacePendingDwellLocked next).1
      (agent.replacePendingDwellLocked next).2.calls := by
  cases isOpen : agent.pendingDwellEvent with
  | none =>
    have empty := tiled.fresh running isOpen
    simp only [replacePendingDwellLocked, isOpen]
    refine ⟨⟨?_, ?_, ?_, ?_⟩, ?_⟩
    · simp [empty]
    · simp [empty]
    · simp [empty, DwellStep.opens]
    · intro _ none_open
      cases none_open
    · simp [empty, DwellStep.call, DwellReport.calls]
  | some previous =>
    by_cases same : previous.SameActivity next
    · simp only [replacePendingDwellLocked, isOpen, same, if_true]
      exact tiled.continues_of_same rfl rfl rfl
    · simp only [replacePendingDwellLocked, isOpen, same, if_false]
      refine tiled.replaces _ isOpen ?_ (.inl rfl) rfl rfl
      split
      · exact le_refl _
      · rename_i notEarlier
        exact not_lt.mp notEarlier

theorem Tiled.emits (tiled : Tiled agent) (application : RunningApplication)
    (declared : DeclaredAppMetadata) (activity : FocusedActivity) (instant : ℚ) :
    Continues agent (agent.emit application declared activity instant).1
      (agent.emit application declared activity instant).2.calls := by
  unfold AXCollectionAgent.emit
  split
  · rename_i observed
    have reached : Tiled { agent with observesWindow := true } :=
      ⟨tiled.chain, tiled.first, tiled.last, tiled.fresh⟩
    obtain ⟨after, reported⟩ := reached.replacePendingDwell observed.1
      (eventFor application declared (some activity) instant)
    exact ⟨after, reported⟩
  · exact tiled.continues_of_same rfl rfl rfl

theorem Tiled.begins (tiled : Tiled agent) (application : RunningApplication)
    (declared : DeclaredAppMetadata) (instant : ℚ) :
    Continues agent (agent.beginApplicationDwell application declared instant).1
      (agent.beginApplicationDwell application declared instant).2.calls := by
  unfold AXCollectionAgent.beginApplicationDwell
  split
  · rename_i inFront
    exact tiled.replacePendingDwell inFront.1 _
  · exact tiled.continues_of_same rfl rfl rfl

theorem le_of_dwellSeconds_pos {start finish : ℚ} (positive : 0 < dwellSeconds start finish) :
    start ≤ finish := by
  by_contra backwards
  have none_left : max 0 (finish - start) = 0 :=
    max_eq_left (sub_nonpos.mpr (le_of_not_ge backwards))
  have zero : dwellSeconds start finish = 0 := by
    rw [dwellSeconds, none_left, maximumDwellDuration]
    norm_num
  rw [zero] at positive
  exact lt_irrefl _ positive

theorem Tiled.flushes (tiled : Tiled agent) (instant : ℚ) :
    Continues agent (agent.flushPendingDwell instant).1
      ((agent.flushPendingDwell instant).2.toList.map .receive) := by
  unfold AXCollectionAgent.flushPendingDwell
  split
  · rename_i pending _ isOpen
    split
    · rename_i positive
      simp only [takePendingDwellLocked, isOpen, if_true]
      exact tiled.replaces (pending.reanchored instant) isOpen
        (le_of_dwellSeconds_pos positive) (.inr ⟨rfl, rfl, rfl, rfl, rfl⟩) rfl rfl
    · exact tiled.continues_of_same rfl rfl rfl
  · exact tiled.continues_of_same rfl rfl rfl

theorem Tiled.stops (tiled : Tiled agent) (now : ℚ) :
    Continues agent (agent.stop now).1 ((agent.stop now).2.toList.map .receive) := by
  unfold AXCollectionAgent.stop
  split
  · cases isOpen : agent.pendingDwellEvent with
    | none =>
      simp only [takePendingDwellLocked]
      refine ⟨⟨tiled.chain, tiled.first, tiled.last.trans isOpen, ?_⟩, ?_⟩
      · intro running
        cases running
      · simp
    | some pending =>
      simp only [takePendingDwellLocked, Bool.false_eq_true, if_false]
      exact tiled.closes isOpen now rfl rfl rfl
  · exact tiled.continues_of_same rfl rfl rfl

theorem Tiled.locked (tiled : Tiled agent) (lockSection : LockSection) :
    Continues agent (agent.locked lockSection).1 (agent.locked lockSection).2 := by
  cases lockSection with
  | observe application => exact tiled.continues_of_same rfl rfl rfl
  | registrationFailed application =>
    simp only [AXCollectionAgent.locked, registrationFailed]
    split <;> exact tiled.continues_of_same rfl rfl rfl
  | emit application declared activity instant =>
    exact tiled.emits application declared activity instant
  | beginApplicationDwell application declared instant =>
    exact tiled.begins application declared instant
  | accessibilityObserverFailed processIdentifier =>
    simp only [AXCollectionAgent.locked, accessibilityObserverFailed]
    split <;> exact tiled.continues_of_same rfl rfl rfl
  | flushPendingDwell instant => exact tiled.flushes instant
  | stop now => exact tiled.stops now

end Invariant

section Spans

variable {log : List DwellStep}

theorem start_le_of_abuts {earlier later : DwellStep} (abuts : earlier.Abuts later) :
    earlier.start ≤ later.start := by
  cases earlier with
  | began opened | reopened opened =>
    cases later with
    | closed event closedAt =>
      change event = _ at abuts
      rw [abuts]
      exact le_refl _
    | began event | reopened event => cases abuts
  | closed event closedAt =>
    cases later with
    | began opened =>
      obtain ⟨forward, opensThere⟩ := abuts
      exact forward.trans opensThere.ge
    | reopened opened =>
      obtain ⟨forward, opensThere, -⟩ := abuts
      exact forward.trans opensThere.ge
    | closed other otherAt => cases abuts

theorem starts_sorted (chain : log.IsChain DwellStep.Abuts) :
    log.Pairwise (fun earlier later => earlier.start ≤ later.start) := by
  have sorted : (log.map DwellStep.start).IsChain (· ≤ ·) := by
    rw [isChain_map]
    exact chain.imp fun _ _ => start_le_of_abuts
  exact pairwise_map.mp (isChain_iff_pairwise.mp sorted)

theorem closed_before_later (chain : log.IsChain DwellStep.Abuts) {before after : List DwellStep}
    {event : RawEvent} {closedAt : ℚ} (split : log = before ++ .closed event closedAt :: after) :
    ∀ step ∈ after, closedAt ≤ step.start := by
  rw [split] at chain
  have rest := chain.right_of_append
  cases after with
  | nil =>
    intro step member
    cases member
  | cons next later =>
    have opensThere : closedAt = next.start := by
      have abuts := (isChain_cons_cons.mp rest).1
      cases next with
      | began opened => exact abuts.2.symm
      | reopened opened => exact abuts.2.1.symm
      | closed other otherAt => cases abuts
    have sorted := pairwise_cons.mp (starts_sorted (isChain_cons_cons.mp rest).2)
    intro step member
    rw [opensThere]
    rcases mem_cons.mp member with rfl | behind
    · exact le_refl _
    · exact sorted.1 step behind

end Spans

/-- The chain, and the calls that were decided along it. -/
structure TiledWorld (world : CollectionWorld) : Prop where
  tiled : Tiled world.agent
  decided : world.decided = world.agent.log.filterMap DwellStep.call

theorem TiledWorld.next {world : CollectionWorld} (tiled : TiledWorld world)
    (step : CollectionStep) : TiledWorld (collectionMachine.next world step) := by
  cases step with
  | locked thread lockSection =>
    change TiledWorld (world.lock thread lockSection)
    unfold CollectionWorld.lock
    split
    · obtain ⟨after, reported⟩ := tiled.tiled.locked lockSection
      refine ⟨after, ?_⟩
      rw [reported, ← tiled.decided]
    · exact tiled
  | deliver thread =>
    change TiledWorld (world.deliver thread)
    unfold CollectionWorld.deliver
    split
    · exact tiled
    · exact ⟨tiled.tiled, tiled.decided⟩

theorem tiledWorld_started : TiledWorld .started := by
  refine ⟨⟨isChain_nil, ?_, rfl, fun _ _ => rfl⟩, rfl⟩
  intro step member
  cases member

theorem tiledWorld_run (steps : List CollectionStep) :
    TiledWorld (collectionMachine.run .started steps) := by
  have keeps : ∀ (world : CollectionWorld) step, TiledWorld world →
      TiledWorld (collectionMachine.next world step) := by
    intro world step tiled
    exact tiled.next step
  exact collectionMachine.invariant_run_of_forall keeps steps tiledWorld_started

/-- Whatever the threads do and whatever instants they have read, the history of the open dwell
begins with a began report and alternates from then on: every dwell is closed at most once, by an
event with its start and the whole seconds of its span, and the next one is opened where it was
closed, by a began report or by a flush of the same activity.  No dwell starts before an earlier
one was closed, the last one opened is the open one, and the began and closed reports are those of
the history. -/
theorem dwells_tile_time (steps : List CollectionStep) :
    let world := collectionMachine.run .started steps
    world.agent.log.IsChain DwellStep.Abuts ∧
      (∀ step ∈ world.agent.log.head?, ∃ event, step = .began event) ∧
      (∀ before event closedAt after,
        world.agent.log = before ++ .closed event closedAt :: after →
          ∀ step ∈ after, closedAt ≤ step.start) ∧
      world.agent.log.getLast?.bind DwellStep.opens = world.agent.pendingDwellEvent ∧
      world.decided = world.agent.log.filterMap DwellStep.call := by
  intro world
  obtain ⟨tiled, decided⟩ := tiledWorld_run steps
  exact ⟨tiled.chain, tiled.first, fun before event closedAt after =>
    closed_before_later tiled.chain, tiled.last, decided⟩

end Velvt.Collection
