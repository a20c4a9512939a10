import Velvt.DriftAgreement

/-!
# What the drift gate counts

The gate counts departures: neighbours among the confident rows of the ledger, the first at the
anchor, the second away from it and started inside the window.
-/

namespace Velvt

open List

section Departures

def confidentRows (observations : List (WorkBlockObservation .nanoseconds)) :
    List (WorkBlockObservation .nanoseconds) :=
  observations.filter isConfidentEvidence

def atAnchor (anchor : String) (row : WorkBlockObservation .nanoseconds) : Bool :=
  eqIgnoreAsciiCase row.category anchor

/-- The neighbours of which the first is at the anchor, and the second away from it and started
inside the window. -/
def departures (anchor : String) (windowStart : Int)
    (rows : List (WorkBlockObservation .nanoseconds)) : Nat :=
  (rows.zip rows.tail).countP fun pair =>
    atAnchor anchor pair.1 && !atAnchor anchor pair.2 && decide (windowStart ≤ pair.2.occurredAt)

variable {anchor : String} {windowStart : Int}
  {rows longer early late : List (WorkBlockObservation .nanoseconds)}

theorem departures_cons_cons (first second : WorkBlockObservation .nanoseconds) :
    departures anchor windowStart (first :: second :: rows) =
      departures anchor windowStart (second :: rows) +
        if atAnchor anchor first && !atAnchor anchor second &&
          decide (windowStart ≤ second.occurredAt) then 1 else 0 := by
  simp only [departures, tail_cons, zip_cons_cons, countP_cons]

theorem departures_inside (row : WorkBlockObservation .nanoseconds)
    (inside : ∀ other ∈ late, windowStart ≤ other.occurredAt) :
    departures anchor windowStart (row :: late) =
      FallingEdges.count (atAnchor anchor row) (late.map (atAnchor anchor)) := by
  induction late generalizing row with
  | nil => rfl
  | cons next rest ih =>
    have started := inside next mem_cons_self
    rw [departures_cons_cons, ih next fun other member =>
      inside other (mem_cons_of_mem _ member)]
    simp only [map_cons, FallingEdges.count, started, decide_true, Bool.and_true]
    omega

theorem departures_append (before : ∀ row ∈ early, row.occurredAt < windowStart)
    (inside : ∀ row ∈ late, windowStart ≤ row.occurredAt) :
    departures anchor windowStart (early ++ late) =
      FallingEdges.count (early.getLast?.map (atAnchor anchor) == some true)
        (late.map (atAnchor anchor)) := by
  induction early with
  | nil =>
    cases late with
    | nil => rfl
    | cons first rest =>
      have goesOn := @departures_inside anchor windowStart rest first
        fun row member => inside row (mem_cons_of_mem _ member)
      simpa [FallingEdges.count_false_cons] using goesOn
  | cons row rest ih =>
    cases rest with
    | nil =>
      rw [cons_append, nil_append, departures_inside row inside]
      cases level : atAnchor anchor row <;> simp [level]
    | cons next others =>
      have early := before next (by simp)
      have goesOn := ih fun other member => before other (mem_cons_of_mem _ member)
      rw [cons_append, cons_append, departures_cons_cons]
      rw [cons_append] at goesOn
      simp [goesOn, not_le.mpr early]

theorem DepartureScan.foldl_previous (levels : List Bool) (scan : DepartureScan) :
    (levels.foldl DepartureScan.step scan).previousWasAnchor =
      levels.getLast?.or scan.previousWasAnchor := by
  induction levels using List.reverseRecOn with
  | nil => rfl
  | append_singleton levels level ih =>
    rw [foldl_append, List.getLast?_concat]
    rfl

section

variable (sorted : rows.Pairwise fun first second => first.occurredAt ≤ second.occurredAt)

include sorted

theorem confidentRows_split
    (windowStart : Int) :
    confidentRows rows =
      (rows.filter fun row => decide (row.occurredAt < windowStart)).filter isConfidentEvidence ++
        (rows.filter fun row => decide (windowStart ≤ row.occurredAt)).filter
          isConfidentEvidence := by
  have split := KeyedRows.filter_append_filter
    (fun row : WorkBlockObservation .nanoseconds => row.occurredAt) sorted windowStart
  rw [← filter_append, ← split, confidentRows]

theorem departureScan_departures
    (anchor : String) (windowStart : Int) :
    (departureScan rows anchor windowStart).switchCount =
      min (departures anchor windowStart (confidentRows rows)) u32Max := by
  rw [confidentRows_split sorted windowStart, departures_append, departureScan,
    DepartureScan.foldl_step _ _ (Nat.zero_le _), Nat.zero_add]
  · rfl
  · intro row member
    exact of_decide_eq_true (mem_filter.mp (mem_filter.mp member).1).2
  · intro row member
    exact of_decide_eq_true (mem_filter.mp (mem_filter.mp member).1).2

theorem departureScan_previous
    (anchor : String) (windowStart : Int) :
    (departureScan rows anchor windowStart).previousWasAnchor =
      (confidentRows rows).getLast?.map (atAnchor anchor) := by
  rw [confidentRows_split sorted windowStart, departureScan, DepartureScan.foldl_previous,
    List.getLast?_append, List.getLast?_map, Option.map_or]
  rfl

end

end Departures

section Insertions

/-- The second ledger is the first with rows put in: rows without confidence anywhere, and
confident rows away from the anchor directly after such rows. -/
inductive Padded (anchor : String) (rows : List (WorkBlockObservation .nanoseconds)) :
    List (WorkBlockObservation .nanoseconds) → Prop
  | same : Padded anchor rows rows
  | unconfident {before after : List (WorkBlockObservation .nanoseconds)}
      {row : WorkBlockObservation .nanoseconds} (padded : Padded anchor rows (before ++ after))
      (weak : isConfidentEvidence row = false) : Padded anchor rows (before ++ row :: after)
  | stillAway {before after : List (WorkBlockObservation .nanoseconds)}
      {previous row : WorkBlockObservation .nanoseconds}
      (padded : Padded anchor rows (before ++ previous :: after))
      (previousConfident : isConfidentEvidence previous = true)
      (previousAway : atAnchor anchor previous = false)
      (confident : isConfidentEvidence row = true) (away : atAnchor anchor row = false) :
      Padded anchor rows (before ++ previous :: row :: after)

variable {anchor : String} {windowStart : Int}
  {rows longer : List (WorkBlockObservation .nanoseconds)}
  {previous row : WorkBlockObservation .nanoseconds}

theorem departures_stillAway (before after : List (WorkBlockObservation .nanoseconds))
    (previousAway : atAnchor anchor previous = false) (away : atAnchor anchor row = false) :
    departures anchor windowStart (before ++ previous :: row :: after) =
      departures anchor windowStart (before ++ previous :: after) := by
  induction before with
  | nil =>
    cases after with
    | nil => simp [departures, previousAway]
    | cons next rest => simp [departures_cons_cons, previousAway, away]
  | cons first before ih =>
    cases before with
    | nil =>
      simp only [cons_append, nil_append] at ih ⊢
      rw [departures_cons_cons, departures_cons_cons first previous, ih]
    | cons second before =>
      simp only [cons_append] at ih ⊢
      rw [departures_cons_cons, departures_cons_cons first second, ih]

theorem Padded.departures_eq (padded : Padded anchor rows longer) :
    departures anchor windowStart (confidentRows longer) =
      departures anchor windowStart (confidentRows rows) := by
  induction padded with
  | same => rfl
  | @unconfident before after row _ weak ih =>
    rw [← ih]
    simp only [confidentRows, filter_append, filter_cons, weak, Bool.false_eq_true, if_false]
  | @stillAway before after previous row _ previousConfident previousAway confident away ih =>
    rw [← ih]
    simp only [confidentRows, filter_append, filter_cons, previousConfident, confident, if_true]
    exact departures_stillAway _ _ previousAway away

end Insertions

theorem WorkBlock.observations_sorted (block : WorkBlock) :
    block.observations.Pairwise fun first second => first.occurredAt ≤ second.occurredAt := by
  rw [WorkBlock.observations, pairwise_map]
  exact block.orderedRows_sorted.imp fun ahead => fromTimestamp_le.mpr ahead

/-- The gate reads the departures of its own anchor. -/
theorem gateReading_switchCount {surroundings : Surroundings} {block : WorkBlock}
    {record : WorkBlockRecord .nanoseconds} {now : Int} {anchor : String}
    (named : (gateReading surroundings block record now).anchorCategory = some anchor) :
    dominantCategory block.observations = some anchor ∧
      (gateReading surroundings block record now).switchCount =
        (departureScan block.observations anchor
          (now - Duration.seconds driftWindowSeconds)).switchCount := by
  generalize isReading : gateReading surroundings block record now = reading at named
  simp only [gateReading] at isReading
  split at isReading
  · subst isReading
    cases named
  split at isReading
  · subst isReading
    cases named
  split at isReading
  · subst isReading
    cases named
  split at isReading
  · subst isReading
    cases named
  split at isReading
  · subst isReading
    cases named
  next isAnchor dominant =>
  have reads {verdict : GateVerdict}
      (isVerdict : ⟨verdict, some isAnchor, (departureScan block.observations isAnchor
        (now - Duration.seconds driftWindowSeconds)).switchCount⟩ = reading) :
      dominantCategory block.observations = some anchor ∧
        reading.switchCount = (departureScan block.observations anchor
          (now - Duration.seconds driftWindowSeconds)).switchCount := by
    subst isVerdict
    cases named
    exact ⟨dominant, rfl⟩
  split at isReading
  · exact reads isReading
  split at isReading
  · exact reads isReading
  split at isReading
  · exact reads isReading
  split at isReading <;> exact reads isReading

theorem evaluateDrift_at_anchor {manager : WorkBlockManager} {block : WorkBlock}
    {record : WorkBlockRecord .nanoseconds} {now : Int} {anchor : String}
    (found : manager.store.block record.blockId = some block)
    (dominant : dominantCategory block.observations = some anchor)
    (here : (departureScan block.observations anchor
      (now - Duration.seconds driftWindowSeconds)).previousWasAnchor = some true) :
    evaluateDrift record now manager = (.ok none, manager.updated record.blockId (.recordDecision
        ((gateReading manager.surroundings block record now).decision record now))) := by
  have backoff : backoffState now manager = (.ok (manager.surroundings.backoff now), manager) := rfl
  have observations : manager.store.observations record.blockId = block.observations := by
    simp [WorkBlockStore.observations, found]
  unfold evaluateDrift gateReading
  by_cases warmup : elapsedSeconds record now < driftMinElapsedSeconds
  · simp only [if_pos warmup]
    rfl
  by_cases late : record.plannedDurationSeconds - elapsedSeconds record now <
      driftMinRemainingSeconds
  · simp only [if_neg warmup, if_pos late]
    rfl
  simp only [if_neg warmup, if_neg late, ManagerM.bind_apply, ManagerM.query_apply,
    intervention_of_block found, Option.isSome_map]
  by_cases capped : block.interventionRow.isSome = true
  · simp only [if_pos capped]
    rfl
  simp only [if_neg capped, ManagerM.bind_apply, backoff]
  by_cases suppressed : (manager.surroundings.backoff now).suppressed = true
  · simp only [if_pos suppressed]
    rfl
  simp only [if_neg suppressed, ManagerM.bind_apply, ManagerM.query_apply, observations, dominant]
  by_cases few : (departureScan block.observations anchor
      (now - Duration.seconds driftWindowSeconds)).switchCount < driftMinSwitches
  · simp only [if_pos few]
    rfl
  · simp only [if_neg few, if_pos here]
    rfl

/-- The gate counts the departures of the confident rows, up to the largest 32-bit number; rows
put in without moving the anchor leave its count as it is; and while the last confident row is at
the anchor it offers, withholds and holds nothing. -/
theorem drift_gate_counts_departures :
    (∀ (block : WorkBlock) (anchor : String) (windowStart : Int),
      (departureScan block.observations anchor windowStart).switchCount =
        min (departures anchor windowStart (confidentRows block.observations)) u32Max) ∧
    (∀ (surroundings : Surroundings) (block : WorkBlock)
      (record : WorkBlockRecord .nanoseconds) (now : Int) (anchor : String),
      (gateReading surroundings block record now).anchorCategory = some anchor →
        dominantCategory block.observations = some anchor ∧
          (gateReading surroundings block record now).switchCount =
            (departureScan block.observations anchor
              (now - Duration.seconds driftWindowSeconds)).switchCount) ∧
    (∀ (block longer : WorkBlock) (anchor : String) (now : Int),
      Padded anchor block.observations longer.observations →
        (departureScan longer.observations anchor
            (now - Duration.seconds driftWindowSeconds)).switchCount =
          (departureScan block.observations anchor
            (now - Duration.seconds driftWindowSeconds)).switchCount) ∧
    (∀ (manager : WorkBlockManager) (block : WorkBlock)
      (record : WorkBlockRecord .nanoseconds) (now : Int) (anchor : String)
      (last : WorkBlockObservation .nanoseconds),
      manager.store.block record.blockId = some block →
      dominantCategory block.observations = some anchor →
      (confidentRows block.observations).getLast? = some last → atAnchor anchor last = true →
        (gateReading manager.surroundings block record now).verdict.inserts = false ∧
          evaluateDrift record now manager =
            (.ok none, manager.updated record.blockId (.recordDecision
              ((gateReading manager.surroundings block record now).decision record now)))) := by
  refine ⟨?_, ?_, ?_, ?_⟩
  · intro block anchor windowStart
    exact departureScan_departures block.observations_sorted anchor windowStart
  · intro surroundings block record now anchor named
    exact gateReading_switchCount named
  · intro block longer anchor now padded
    rw [departureScan_departures block.observations_sorted,
      departureScan_departures longer.observations_sorted, padded.departures_eq]
  · intro manager block record now anchor last found dominant isLast here
    have previous : (departureScan block.observations anchor
        (now - Duration.seconds driftWindowSeconds)).previousWasAnchor = some true := by
      rw [departureScan_previous block.observations_sorted, isLast, Option.map_some, here]
    refine ⟨?_, evaluateDrift_at_anchor found dominant previous⟩
    by_contra inserts
    obtain ⟨named, cleared⟩ := gateReading_cleared (Bool.not_eq_false _ ▸ inserts)
    have sameAnchor : named = anchor := Option.some.inj (cleared.dominant.symm.trans dominant)
    rw [sameAnchor] at cleared
    exact cleared.departed previous

def flappingRows : Nat → List (WorkBlockObservation .seconds)
  | 0 => []
  | looks + 1 =>
    ⟨1000, some 1000, "work", .classified, .high⟩ ::
      ⟨1000, some 1000, "mail", .classified, .high⟩ :: flappingRows looks

def flappingBlock (looks : Nat) : WorkBlock where
  record := ⟨0, .active, none, none, .medium, 3600, 0, none, 0, none, false, none, .manual, 0, 0⟩
  observationRows := ⟨0, some 1000, "work", .classified, .high⟩ :: flappingRows looks
  resultRow := none
  interventionRow := none
  decisionRows := []

theorem flappingBlock_observations (looks : Nat) : (flappingBlock looks).observations =
      WorkBlockObservation.loaded ⟨0, some 1000, "work", .classified, .high⟩ ::
        (flappingRows looks).map WorkBlockObservation.loaded := by
  have late (row : WorkBlockObservation .seconds) (member : row ∈ flappingRows looks) :
      row.occurredAt = 1000 := by
    induction looks with
    | zero => cases member
    | succ looks ih =>
      rcases mem_cons.mp member with rfl | later
      · rfl
      rcases mem_cons.mp later with rfl | later
      · rfl
      · exact ih later
  have sorted : (flappingBlock looks).observationRows.Pairwise
      fun first second => first.occurredAt ≤ second.occurredAt := by
    refine pairwise_cons.mpr ⟨?_, pairwise_of_forall_mem_list ?_⟩
    · intro row member
      rw [late row member]
      decide
    · intro first isFirst second isSecond
      rw [late first isFirst, late second isSecond]
  rw [WorkBlock.observations, WorkBlock.orderedRows, sorted.insertionSort_eq]
  rfl

theorem observedSeconds_flapping (looks : Nat) :
    observedSeconds ((flappingRows looks).map WorkBlockObservation.loaded) = [] := by
  induction looks with
  | zero => rfl
  | succ looks ih => exact ih

theorem departures_flapping (looks : Nat) (row : WorkBlockObservation .nanoseconds) :
    departures "work" (fromTimestamp 400)
      (row :: confidentRows ((flappingRows looks).map WorkBlockObservation.loaded)) = looks := by
  induction looks generalizing row with
  | zero => rfl
  | succ looks ih =>
    have work : isConfidentEvidence (WorkBlockObservation.loaded
      ⟨1000, some 1000, "work", .classified, .high⟩) = true := by decide
    have mail : isConfidentEvidence (WorkBlockObservation.loaded
      ⟨1000, some 1000, "mail", .classified, .high⟩) = true := by decide
    simp only [flappingRows, map_cons, confidentRows, filter_cons, work, mail, if_true] at ih ⊢
    rw [departures_cons_cons, departures_cons_cons, ih]
    have atWork : atAnchor "work" (WorkBlockObservation.loaded
      ⟨1000, some 1000, "work", .classified, .high⟩) = true := by decide
    have away : atAnchor "work" (WorkBlockObservation.loaded
      ⟨1000, some 1000, "mail", .classified, .high⟩) = false := by decide
    simp [atWork, away]

/-- A block of more departures than a 32-bit number counts. -/
theorem countless_departures_are_cut :
    ∃ looks, dominantCategory (flappingBlock looks).observations = some "work" ∧
      (departureScan (flappingBlock looks).observations "work" (fromTimestamp 400)).switchCount ≠
        departures "work" (fromTimestamp 400)
          (confidentRows (flappingBlock looks).observations) := by
  refine ⟨u32Max + 1, ?_, ?_⟩
  · generalize u32Max + 1 = looks
    rw [dominantCategory, flappingBlock_observations, observedSeconds, filterMap_cons,
      ← observedSeconds, observedSeconds_flapping]
    decide
  · rw [departureScan_departures (flappingBlock _).observations_sorted,
      flappingBlock_observations]
    generalize isLooks : u32Max + 1 = looks
    have counted := departures_flapping looks
      (WorkBlockObservation.loaded ⟨0, some 1000, "work", .classified, .high⟩)
    have first : confidentRows (WorkBlockObservation.loaded
        ⟨0, some 1000, "work", .classified, .high⟩ ::
          (flappingRows looks).map WorkBlockObservation.loaded) =
        WorkBlockObservation.loaded ⟨0, some 1000, "work", .classified, .high⟩ ::
          confidentRows ((flappingRows looks).map WorkBlockObservation.loaded) :=
      filter_cons_of_pos (by decide)
    rw [first, counted]
    omega

end Velvt
