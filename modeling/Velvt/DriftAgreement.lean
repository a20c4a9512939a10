import Velvt.DecisionLog
import Velvt.FallingEdges
import Velvt.KeyedRows
import Velvt.WorkBlockLedger

/-!
# The offer and the result

The gate counts departures when it makes an offer, and the result counts them again when the block
ends.
-/

namespace Velvt

open StepMachine List BlockUpdate

/-- The observations the departure loop of the gate reads: the last confident one
before the window, and the confident ones inside it. -/
def readObservations (observations : List (WorkBlockObservation .nanoseconds))
    (windowStart : Int) : List (WorkBlockObservation .nanoseconds) :=
  ((observations.filter fun observation =>
      decide (observation.occurredAt < windowStart)).filter
    isConfidentEvidence).getLast?.toList ++
  (observations.filter fun observation =>
    decide (windowStart ≤ observation.occurredAt)).filter isConfidentEvidence

theorem DepartureScan.foldl_step (levels : List Bool) (scan : DepartureScan)
    (fits : scan.switchCount ≤ u32Max) :
    (levels.foldl DepartureScan.step scan).switchCount = min (scan.switchCount +
        FallingEdges.count (scan.previousWasAnchor == some true) levels) u32Max := by
  induction levels generalizing scan with
  | nil => simp [FallingEdges.count, fits]
  | cons level levels ih =>
    have stepFits : (scan.step level).switchCount ≤ u32Max := by
      simp only [DepartureScan.step]
      split
      · exact min_le_right _ _
      · exact fits
    rw [foldl_cons, ih _ stepFits]
    cases wasAnchor : scan.previousWasAnchor == some true <;> cases level <;>
      simp [DepartureScan.step, FallingEdges.count, wasAnchor, saturatingAdd]
    omega

theorem departureScan_switchCount (observations : List (WorkBlockObservation .nanoseconds))
    (anchor : String) (windowStart : Int) :
    (departureScan observations anchor windowStart).switchCount =
      min (FallingEdges.count false ((readObservations observations windowStart).map
        fun observation => eqIgnoreAsciiCase observation.category anchor)) u32Max := by
  simp only [departureScan, readObservations]
  rw [DepartureScan.foldl_step _ _ (Nat.zero_le _), Nat.zero_add, map_append]
  cases seed : ((observations.filter fun observation =>
      decide (observation.occurredAt < windowStart)).filter isConfidentEvidence).getLast? with
  | none => simp
  | some last =>
    cases wasAnchor : eqIgnoreAsciiCase last.category anchor <;>
      simp [FallingEdges.count, wasAnchor]

theorem ResultScan.foldl_step (dominant : String) (entries : List (String × Nat))
    (scan : ResultScan) (fits : scan.switchAways ≤ u32Max) :
    (entries.foldl (ResultScan.step (some dominant)) scan).switchAways = min (scan.switchAways +
        FallingEdges.count (scan.hasSeenDominant && !scan.wasAwayFromDominant)
          (entries.map fun entry => entry.1 == dominant)) u32Max := by
  induction entries generalizing scan with
  | nil => simp [FallingEdges.count, fits]
  | cons entry entries ih =>
    have stepFits : (ResultScan.step (some dominant) scan entry).switchAways ≤ u32Max := by
      simp only [ResultScan.step]
      split
      · exact fits
      split
      · exact min_le_right _ _
      · exact fits
    rw [foldl_cons, ih _ stepFits]
    cases isDominant : entry.1 == dominant <;> cases hasSeen : scan.hasSeenDominant <;>
      cases wasAway : scan.wasAwayFromDominant <;>
      simp [ResultScan.step, FallingEdges.count, isDominant, hasSeen, wasAway, saturatingAdd]
    omega

theorem aggregateResult_switchAwayCount (record : WorkBlockRecord .nanoseconds)
    (phase : WorkBlockPhase) (elapsed : Nat)
    (observations : List (WorkBlockObservation .nanoseconds)) (coveredSeconds : Nat)
    {dominant : String} (isDominant : dominantCategory observations = some dominant) :
    (aggregateResult record phase elapsed observations coveredSeconds).switchAwayCount =
      min (FallingEdges.count false ((observedSeconds observations).map
        fun entry => entry.1 == dominant)) u32Max := by
  have found : (maxBySeconds (categorySeconds (observedSeconds observations))).map Prod.fst =
      some dominant := isDominant
  simp only [aggregateResult, found]
  rw [ResultScan.foldl_step _ _ _ (Nat.zero_le _)]
  simp

/-- A row of the ledger, and the same row later: nothing changes but its end. -/
def SameDwell (row later : WorkBlockObservation .seconds) : Prop :=
  later = { row with endedAt := later.endedAt }

theorem SameDwell.refl (row : WorkBlockObservation .seconds) : SameDwell row row :=
  rfl

theorem SameDwell.trans {first middle last : WorkBlockObservation .seconds}
    (before : SameDwell first middle) (after : SameDwell middle last) :
    SameDwell first last := by
  unfold SameDwell at *
  rw [after, before]

theorem sameDwell_closeRow (stored : Int) (row : WorkBlockObservation .seconds) :
    SameDwell row (BlockUpdate.closeRow stored row) := by
  unfold SameDwell BlockUpdate.closeRow
  split <;> rfl

namespace WorkBlock

variable {surroundings : Surroundings} {op : Operation} {block after : WorkBlock}

/-- The ledger keeps its rows, and more may follow them. -/
def Grows (block after : WorkBlock) : Prop :=
  ∃ kept added, after.observationRows = kept ++ added ∧
    List.Forall₂ SameDwell block.observationRows kept

theorem Grows.refl (block : WorkBlock) : block.Grows block :=
  ⟨block.observationRows, [], (append_nil _).symm, forall₂_same.mpr fun row _ => .refl row⟩

theorem Grows.trans {first middle last : WorkBlock} (before : first.Grows middle)
    (after : middle.Grows last) : first.Grows last := by
  obtain ⟨kept, added, middleRows, same⟩ := before
  obtain ⟨laterKept, laterAdded, lastRows, laterSame⟩ := after
  have keptSame := forall₂_take kept.length laterSame
  rw [middleRows, take_left] at keptSame
  refine ⟨laterKept.take kept.length, laterKept.drop kept.length ++ laterAdded, ?_, ?_⟩
  · rw [lastRows, ← append_assoc, take_append_drop]
  · exact KeyedRows.forall₂_trans (fun _ _ _ before after => before.trans after) same keptSame

theorem grows_of_advance (accounted : block.Accounted)
    (advance : Advance surroundings op block after) : block.Grows after := by
  have closed (stored : Int) : List.Forall₂ SameDwell block.observationRows
      (block.observationRows.map (BlockUpdate.closeRow stored)) := by
    rw [forall₂_map_right_iff]
    exact forall₂_same.mpr fun row _ => sameDwell_closeRow stored row
  rcases rows_of_advance accounted advance with same | ⟨stored, rows⟩ | ⟨-, stored, row, rows⟩
  · exact ⟨block.observationRows, [], by rw [same, append_nil],
      forall₂_same.mpr fun row _ => .refl row⟩
  · exact ⟨_, [], by rw [rows, append_nil], closed stored⟩
  · exact ⟨_, [row], rows, closed stored⟩

/-- The result of a block counts the departures of the ledger it ended with. -/
def Resulted (block : WorkBlock) : Prop :=
  ∀ result, block.resultRow = some result →
    ∀ dominant, dominantCategory block.observations = some dominant →
      result.switchAwayCount =
        min (FallingEdges.count false ((observedSeconds block.observations).map
          fun entry => entry.1 == dominant)) u32Max

theorem Resulted.of_noResult (noResult : block.resultRow = none) : block.Resulted := by
  intro result isResult
  rw [noResult] at isResult
  cases isResult

theorem observations_congr (rows : after.observationRows = block.observationRows) :
    after.observations = block.observations := by
  simp only [observations, orderedRows, rows]

theorem resultAt_switchAwayCount (block : WorkBlock) (surroundings : Surroundings)
    (phase : WorkBlockPhase) (endedAt : Int) {dominant : String}
    (isDominant : dominantCategory block.observations = some dominant) :
    (block.resultAt surroundings phase endedAt).switchAwayCount =
      min (FallingEdges.count false ((observedSeconds block.observations).map
        fun entry => entry.1 == dominant)) u32Max :=
  aggregateResult_switchAwayCount block.record.loaded phase
    (elapsedSeconds block.record.loaded endedAt) block.observations
    (reportedCoverageSeconds
      (surroundings.reportedDwells block.record.loaded.startedAt endedAt) block.observations
      block.record.loaded.startedAt endedAt) isDominant

theorem Resulted.of_advance (resulted : block.Resulted) (accounted : block.Accounted)
    (advance : Advance surroundings op block after) : after.Resulted := by
  cases advance with
  | unchanged => exact resulted
  | cardSeen => exact resulted
  | replied => exact resulted
  | paused running =>
    refine .of_noResult ?_
    rw [pausing_apply _ _ running.active]
    simpa using accounted.noResult running.live
  | resumed now pausedAt isResume paused =>
    rw [setActive_apply _ _ paused]
    exact .of_noResult (accounted.noResult (by simp_all [WorkBlockPhase.isLive]))
  | recovered now isRestart running =>
    refine .of_noResult ?_
    rw [recovering_apply _ _ running.live]
    simpa using accounted.noResult running.live
  | recoveredPaused now isRestart paused =>
    have live : block.phase.isLive = true := by simp_all [WorkBlockPhase.isLive]
    rw [markRecovered_apply _ live]
    exact .of_noResult (accounted.noResult live)
  | continued _ _ _ _ _ _ running =>
    exact .of_noResult (accounted.noResult running.live)
  | judged _ _ _ _ _ _ running =>
    refine .of_noResult ?_
    rw [judging_resultRow, returning_resultRow]
    exact accounted.noResult running.live
  | finished phase endedAt live =>
    rw [finishing_apply _ _ _ live (accounted.noResult live)]
    intro result isResult dominant isDominant
    cases isResult
    exact resultAt_switchAwayCount _ surroundings phase endedAt isDominant

/-- The gate read the row, when its window began at an instant: the row is confident,
and no confident row between it and the window began later. -/
def ReadByGate (block : WorkBlock) (windowStart : Int)
    (row : WorkBlockObservation .seconds) : Prop :=
  isConfidentEvidence row = true ∧
    ∀ other ∈ block.observationRows, isConfidentEvidence other = true →
      row.occurredAt < other.occurredAt → windowStart ≤ fromTimestamp other.occurredAt

/-- Of the rows the gate read, every one lasts a second or more by the end, and those
that name the anchor name it in the anchor's letters. -/
structure KeepsEvidence (block ended : WorkBlock) (windowStart : Int) (anchor : String) : Prop where
  lasts : ∀ pair ∈ block.observationRows.zip ended.observationRows,
    block.ReadByGate windowStart pair.1 →
      ∃ endedAt, pair.2.endedAt = some endedAt ∧ pair.2.occurredAt < endedAt
  spelled : ∀ row ∈ block.observationRows, block.ReadByGate windowStart row →
    eqIgnoreAsciiCase row.category anchor = true → row.category = anchor

theorem orderedRows_sorted (block : WorkBlock) :
    block.orderedRows.Pairwise fun first second => first.occurredAt ≤ second.occurredAt :=
  pairwise_insertionSort _ _

/-- What the gate reads is a part of the stored rows. -/
theorem readObservations_rows (block : WorkBlock) (windowStart : Int) :
    ∃ rows : List (WorkBlockObservation .seconds), rows.Sublist block.orderedRows ∧
      readObservations block.observations windowStart = rows.map WorkBlockObservation.loaded ∧
      ∀ row ∈ rows, block.ReadByGate windowStart row := by
  let early := (block.orderedRows.filter fun row =>
    decide (fromTimestamp row.occurredAt < windowStart)).filter isConfidentEvidence
  let inside := (block.orderedRows.filter fun row =>
    decide (windowStart ≤ fromTimestamp row.occurredAt)).filter isConfidentEvidence
  have earlyRows : (block.observations.filter fun observation =>
      decide (observation.occurredAt < windowStart)).filter isConfidentEvidence =
        early.map WorkBlockObservation.loaded := by
    rw [observations, filter_map, filter_map]
    rfl
  have insideRows : (block.observations.filter fun observation =>
      decide (windowStart ≤ observation.occurredAt)).filter isConfidentEvidence =
        inside.map WorkBlockObservation.loaded := by
    rw [observations, filter_map, filter_map]
    rfl
  have sorted := block.orderedRows_sorted
  have loadedSorted : block.orderedRows.Pairwise fun first second =>
      fromTimestamp first.occurredAt ≤ fromTimestamp second.occurredAt :=
    sorted.imp fun ahead => fromTimestamp_le.mpr ahead
  have mem_rows {row : WorkBlockObservation .seconds} :
      row ∈ block.orderedRows ↔ row ∈ block.observationRows := mem_insertionSort _
  refine ⟨early.getLast?.toList ++ inside, ?_, ?_, ?_⟩
  · have split := KeyedRows.filter_append_filter
      (fun row : WorkBlockObservation .seconds => fromTimestamp row.occurredAt) loadedSorted
      windowStart
    rw [split]
    have earlySub : early.Sublist (block.orderedRows.filter fun row =>
        decide (fromTimestamp row.occurredAt < windowStart)) := filter_sublist
    refine List.Sublist.append (List.Sublist.trans ?_ earlySub) filter_sublist
    cases isLast : early.getLast? with
    | none => exact nil_sublist _
    | some last => exact singleton_sublist.mpr (mem_of_getLast? isLast)
  · rw [readObservations, earlyRows, insideRows, map_append, List.getLast?_map]
    cases early.getLast? <;> rfl
  · intro row member
    rcases mem_append.mp member with isSeed | isInside
    · have isLast : early.getLast? = some row := by simpa using isSeed
      have lastMem := mem_of_getLast? isLast
      refine ⟨(mem_filter.mp lastMem).2, fun other otherMem confident behind => ?_⟩
      by_contra late
      have otherEarly : other ∈ early := by
        refine mem_filter.mpr ⟨mem_filter.mpr ⟨mem_rows.mpr otherMem, ?_⟩, confident⟩
        exact decide_eq_true (not_le.mp late)
      have earlySorted : early.Pairwise fun first second =>
          first.occurredAt ≤ second.occurredAt := (sorted.filter _).filter _
      have ahead := KeyedRows.key_le_getLast (fun row => row.occurredAt) earlySorted isLast
        otherEarly
      omega
    · obtain ⟨inWindow, confident⟩ := mem_filter.mp isInside
      refine ⟨confident, fun other _ _ behind => ?_⟩
      have start : windowStart ≤ fromTimestamp row.occurredAt :=
        of_decide_eq_true (mem_filter.mp inWindow).2
      exact start.trans (fromTimestamp_le.mpr behind.le)

theorem observedSeconds_of_kept {rows later : List (WorkBlockObservation .seconds)}
    {anchor : String} (related : List.Forall₂ (fun row later => SameDwell row later ∧
      isConfidentEvidence row = true ∧
      (∃ endedAt, later.endedAt = some endedAt ∧ later.occurredAt < endedAt) ∧
      (eqIgnoreAsciiCase row.category anchor = true → row.category = anchor)) rows later) :
    (observedSeconds (later.map WorkBlockObservation.loaded)).map (fun entry => entry.1 == anchor) =
      rows.map fun row => eqIgnoreAsciiCase row.category anchor := by
  induction related with
  | nil => rfl
  | @cons row kept rows later head rest ih =>
    obtain ⟨same, confident, ⟨endedAt, isEnd, lasts⟩, spelled⟩ := head
    have sameCategory : kept.category = row.category := by rw [same]
    have keptConfident : isConfidentEvidence kept.loaded = true := by
      rw [same]
      exact confident
    have seconds : 0 < positiveSeconds (fromTimestamp endedAt - fromTimestamp kept.occurredAt) := by
      rw [positiveSeconds_sub_fromTimestamp, timestamp_fromTimestamp]
      simp only [u32Max]
      omega
    have sameName : (row.category == anchor) = eqIgnoreAsciiCase row.category anchor := by
      cases named : eqIgnoreAsciiCase row.category anchor with
      | true => simp [spelled named]
      | false =>
        refine beq_eq_false_iff_ne.mpr fun isAnchor => ?_
        rw [isAnchor] at named
        simp [eqIgnoreAsciiCase] at named
    have shown : observedSeconds ((kept :: later).map WorkBlockObservation.loaded) =
        (kept.category, positiveSeconds (fromTimestamp endedAt - fromTimestamp kept.occurredAt)) ::
          observedSeconds (later.map WorkBlockObservation.loaded) := by
      simp only [observedSeconds, map_cons, filterMap_cons,
        WorkBlockObservation.loaded_endedAt, isEnd, Option.map_some, Option.bind_some,
        WorkBlockObservation.loaded_occurredAt, keptConfident, seconds, decide_true,
        Bool.and_self, if_true, WorkBlockObservation.loaded_category]
    rw [shown, map_cons, map_cons, ih, sameCategory, sameName]

/-- The departures that the gate has counted are still in the ended block. -/
theorem KeepsEvidence.count_le {block ended : WorkBlock} {windowStart : Int} {anchor : String}
    (keeps : block.KeepsEvidence ended windowStart anchor) (grows : block.Grows ended) :
    FallingEdges.count false ((readObservations block.observations windowStart).map
        fun observation => eqIgnoreAsciiCase observation.category anchor) ≤
      FallingEdges.count false ((observedSeconds ended.observations).map
        fun entry => entry.1 == anchor) := by
  obtain ⟨kept, added, endedRows, same⟩ := grows
  obtain ⟨read, readSub, isRead, readByGate⟩ := block.readObservations_rows windowStart
  let relation (row later : WorkBlockObservation .seconds) : Prop :=
    SameDwell row later ∧ (block.ReadByGate windowStart row →
      (∃ endedAt, later.endedAt = some endedAt ∧ later.occurredAt < endedAt) ∧
      (eqIgnoreAsciiCase row.category anchor = true → row.category = anchor))
  have related : List.Forall₂ relation block.observationRows kept := by
    rw [forall₂_iff_zip] at same ⊢
    refine ⟨same.1, fun {row later} paired => ⟨same.2 paired, fun isRead => ⟨?_, ?_⟩⟩⟩
    · refine keeps.lasts (row, later) ?_ isRead
      rw [endedRows, ← append_nil block.observationRows, zip_append same.1]
      exact mem_append_left _ paired
    · exact keeps.spelled row (of_mem_zip paired).1 isRead
  have sortedRelated : List.Forall₂ relation block.orderedRows
      (kept.insertionSort fun first second => first.occurredAt ≤ second.occurredAt) := by
    refine KeyedRows.forall₂_insertionSort ?_ related
    intro row later otherRow otherLater sameRow sameOther
    rw [sameRow.1, sameOther.1]
  obtain ⟨readLater, readRelated, readLaterSub⟩ :=
    KeyedRows.forall₂_of_sublist readSub sortedRelated
  have keptSub : (kept.insertionSort fun first second =>
      first.occurredAt ≤ second.occurredAt).Sublist ended.orderedRows := by
    rw [orderedRows, endedRows]
    exact KeyedRows.sublist_insertionSort_of_sublist (sublist_append_left _ _)
  have readKept : List.Forall₂ (fun row later => SameDwell row later ∧
      isConfidentEvidence row = true ∧
      (∃ endedAt, later.endedAt = some endedAt ∧ later.occurredAt < endedAt) ∧
      (eqIgnoreAsciiCase row.category anchor = true → row.category = anchor))
      read readLater := by
    rw [forall₂_iff_zip] at readRelated ⊢
    refine ⟨readRelated.1, fun {row later} paired => ?_⟩
    obtain ⟨sameRow, keepsRow⟩ := readRelated.2 paired
    have isReadByGate := readByGate row (of_mem_zip paired).1
    exact ⟨sameRow, isReadByGate.1, keepsRow isReadByGate⟩
  have levels : (readObservations block.observations windowStart).map
      (fun observation => eqIgnoreAsciiCase observation.category anchor) =
        (observedSeconds (readLater.map WorkBlockObservation.loaded)).map
          fun entry => entry.1 == anchor := by
    rw [observedSeconds_of_kept readKept, isRead, map_map]
    rfl
  rw [levels]
  have observedSub : (observedSeconds (readLater.map WorkBlockObservation.loaded)).Sublist
      (observedSeconds ended.observations) :=
    ((readLaterSub.trans keptSub).map _).filterMap _
  exact FallingEdges.count_le_of_sublist (observedSub.map _) false

end WorkBlock

theorem WorkBlockManager.Owned.grows_run {manager : WorkBlockManager}
    (owned : manager.Owned) (ops : List Operation) {blockId : Uuid} {block : WorkBlock}
    (found : manager.store.block blockId = some block) :
    ∃ after, (managerMachine.run manager ops).store.block blockId = some after ∧
      block.Grows after := by
  induction ops generalizing manager block with
  | nil => exact ⟨block, found, .refl block⟩
  | cons op ops ih =>
    obtain ⟨next, intention, nextFound, advance⟩ := block_step op owned.accounted found
    have accounted : (block.withIntention intention).Accounted :=
      owned.accounted block (WorkBlockStore.mem_of_block found)
    obtain ⟨after, afterFound, grows⟩ := ih (owned.next op) nextFound
    have nextGrows := WorkBlock.grows_of_advance accounted advance
    exact ⟨after, afterFound, WorkBlock.Grows.trans nextGrows grows⟩

theorem WorkBlockManager.resulted_run (focus : Option (Int → Bool))
    (demotionRow : Option (DemotionStateRecord .seconds)) (rawEvents : List RawEventRow)
    (ops : List Operation) :
    ∀ block ∈ (managerMachine.run (opened focus demotionRow rawEvents) ops).store.blocks,
      block.Resulted :=
  Owned.blocks_run (fun _ _ resulted => resulted) (fun _ _ _ => .of_noResult rfl)
    (fun _ _ _ _ accounted resulted advance => resulted.of_advance accounted advance)
    (owned_opened focus demotionRow rawEvents) (by simp [opened]) ops

/-- Where the gate inserts a row under a block, and the block ends with the category the
row names as its dominant one, its result counts at least the departures that the row
counts, if of the rows the gate read every one lasts a second or more by the end and
those that name the anchor name it in the anchor's letters. -/
theorem offered_departures_are_in_the_result (focus : Option (Int → Bool))
    (demotionRow : Option (DemotionStateRecord .seconds)) (rawEvents : List RawEventRow)
    (before : List Operation) (op : Operation) (after : List Operation)
    (blockId : Uuid) (asked offered ended : WorkBlock)
    (row : WorkBlockIntervention .seconds) (result : WorkBlockResult)
    (isAsked : (managerMachine.run (WorkBlockManager.opened focus demotionRow rawEvents)
      before).store.block blockId = some asked)
    (noRow : asked.interventionRow = none)
    (isOffered : (managerMachine.run (WorkBlockManager.opened focus demotionRow rawEvents)
      (before ++ [op])).store.block blockId = some offered)
    (isRow : offered.interventionRow = some row)
    (isEnded : (managerMachine.run (WorkBlockManager.opened focus demotionRow rawEvents)
      (before ++ op :: after)).store.block blockId = some ended)
    (isResult : ended.resultRow = some result)
    (sameAnchor : dominantCategory ended.observations = some row.anchorCategory)
    (keeps : offered.KeepsEvidence ended
      (asked.clampedInstant op.instant - Duration.seconds driftWindowSeconds)
      row.anchorCategory) :
    row.switchCount ≤ result.switchAwayCount := by
  have askedOwned := (WorkBlockManager.owned_opened focus demotionRow rawEvents).run before
  have resulted := WorkBlockManager.resulted_run focus demotionRow rawEvents
    (before ++ op :: after)
  rw [Machine.run_append, Machine.run_cons, Machine.run_nil] at isOffered
  rw [Machine.run_append, Machine.run_cons] at isEnded resulted
  obtain ⟨next, intention, nextFound, advance⟩ := block_step op askedOwned.accounted isAsked
  obtain rfl := Option.some.inj (nextFound.symm.trans isOffered)
  have accounted : (asked.withIntention intention).Accounted :=
    askedOwned.accounted asked (WorkBlockStore.mem_of_block isAsked)
  obtain ⟨later, laterFound, grows⟩ :=
    (askedOwned.next op).grows_run after isOffered
  obtain rfl := Option.some.inj (laterFound.symm.trans isEnded)
  have counted := resulted _ (WorkBlockStore.mem_of_block isEnded) result isResult _ sameAnchor
  rcases WorkBlock.row_before accounted advance isRow with ⟨old, wasRow, -⟩ | inserted
  · have isOld : asked.interventionRow = some old := wasRow
    rw [noRow] at isOld
    cases isOld
  obtain ⟨reading, judged, anchor, sameRows, cleared, rfl, switchCount, -⟩ := inserted.cleared
  have sameObservations := WorkBlock.observations_congr sameRows
  have counts := cleared.switchCount
  rw [departureScan_switchCount, sameObservations] at counts
  rw [switchCount, counts, counted]
  exact min_le_min_right _ (keeps.count_le grows)

def reportAt (category : String) (second : Int) : Operation :=
  .observeSafeCategory category .classified .high (Duration.seconds second)
    (Duration.seconds second)

def twoDepartures : List Operation :=
  [.start ⟨none, 1800, none, .medium⟩ 1 0, reportAt "editor" 10, reportAt "mail" 100,
    reportAt "editor" 110, reportAt "mail" 150, reportAt "editor" 160]

/-- The third departure is still open when the block ends, and no closed report says how
long it lasted: its row closes where it began, and the result leaves it out. -/
theorem open_departure_is_not_in_the_result :
    let opened := WorkBlockManager.opened none none []
    (managerMachine.run opened (twoDepartures ++ [reportAt "chat" 200])).store.blocks.map
        (fun block => block.interventionRow.map fun row =>
          (row.outcome, row.anchorCategory, row.switchCount)) =
      [some (.offered, "editor", 3)] ∧
    (managerMachine.run opened (twoDepartures ++ reportAt "chat" 200 ::
        [.endBlock 1 (Duration.seconds 300)])).store.blocks.map
        (fun block => (dominantCategory block.observations,
          block.resultRow.map WorkBlockResult.switchAwayCount)) =
      [(some "editor", some 2)] := by
  refine ⟨by decide +kernel, by decide +kernel⟩

/-- The third departure lasts half a minute. -/
theorem closed_departure_is_in_the_result :
    let opened := WorkBlockManager.opened none none []
    let after : List Operation := [reportAt "editor" 230, .endBlock 1 (Duration.seconds 300)]
    ∃ offered ended row result,
      (managerMachine.run opened (twoDepartures ++ [reportAt "chat" 200])).store.block 1 =
        some offered ∧
      (managerMachine.run opened (twoDepartures ++ reportAt "chat" 200 :: after)).store.block
        1 = some ended ∧
      offered.interventionRow = some row ∧ ended.resultRow = some result ∧
      row.switchCount ≤ result.switchAwayCount := by
  intro opened after
  have asks : ((managerMachine.run opened twoDepartures).store.block 1).any (fun block =>
      block.interventionRow.isNone) = true := by decide +kernel
  have ends : ((managerMachine.run opened (twoDepartures ++ [reportAt "chat" 200])).store.block
      1).any (fun offered =>
        offered.interventionRow.any (fun row => row.anchorCategory == "editor") &&
        offered.observationRows.all (fun row =>
          !eqIgnoreAsciiCase row.category "editor" || row.category == "editor") &&
        ((managerMachine.run opened (twoDepartures ++ reportAt "chat" 200 ::
          after)).store.block 1).any fun ended =>
            ended.resultRow.isSome && dominantCategory ended.observations == some "editor" &&
            (offered.observationRows.zip ended.observationRows).all fun pair =>
              pair.2.endedAt.any fun endedAt => decide (pair.2.occurredAt < endedAt)) = true := by
    decide +kernel
  simp only [Option.any_eq_true, Bool.and_eq_true, all_eq_true, beq_iff_eq,
    Option.isNone_iff_eq_none, Option.isSome_iff_exists, Bool.or_eq_true,
    Bool.not_eq_true', decide_eq_true_eq] at asks ends
  obtain ⟨asked, askedFound, noRow⟩ := asks
  obtain ⟨offered, offeredFound, ⟨⟨row, isRow, isAnchor⟩, spelled⟩, ended, endedFound,
    ⟨⟨result, isResult⟩, dominant⟩, lasts⟩ := ends
  have keeps (windowStart : Int) : offered.KeepsEvidence ended windowStart
      row.anchorCategory := by
    refine ⟨fun pair member _ => lasts pair member, fun other member _ named => ?_⟩
    rw [isAnchor] at named ⊢
    rcases spelled other member with differs | same
    · rw [differs] at named
      cases named
    · exact same
  exact ⟨offered, ended, row, result, offeredFound, endedFound, isRow, isResult,
    offered_departures_are_in_the_result none none [] twoDepartures (reportAt "chat" 200)
      after 1 asked offered ended row result askedFound noRow offeredFound isRow endedFound
      isResult (by rw [dominant, isAnchor]) (keeps _)⟩

end Velvt
