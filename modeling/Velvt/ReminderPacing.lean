import Mathlib.Data.Int.ConditionallyCompleteOrder
import Velvt.CategoryPromptLedger
import Velvt.KeyedRows

/-!
# Reminders and the sweep of their ledger

The backoff reads the reminders of the last thirty days, and the sweep deletes older ones.
-/

namespace Velvt.CategoryLedger

open StepMachine List

namespace CategoryPromptNotificationRecord

instance : Std.Total NewestFirst where
  total first second := by
    simp only [NewestFirst]
    omega

instance : IsTrans CategoryPromptNotificationRecord NewestFirst where
  trans first second third newer older := by
    simp only [NewestFirst] at *
    omega

end CategoryPromptNotificationRecord

section Tables

variable {cutoff : Int} {swept unswept : NotificationTable}

namespace NotificationTable

def since (cutoff : Int) (table : NotificationTable) : List CategoryPromptNotificationRecord :=
  table.rows.filter fun row => decide (cutoff ≤ row.postedAt)

/-- A reminder is on a local date of its instant. -/
def Dated (table : NotificationTable) : Prop :=
  ∀ row ∈ table.rows, row.localDate ≤ (row.postedAt + 64800) / 86400

theorem takeWhile_recent (table : NotificationTable) (cutoff : Int) :
    ((table.rows.insertionSort CategoryPromptNotificationRecord.NewestFirst).takeWhile
      fun row => decide (cutoff ≤ row.postedAt)) =
        (table.since cutoff).insertionSort CategoryPromptNotificationRecord.NewestFirst := by
  rw [KeyedRows.takeWhile_eq_filter (pairwise_insertionSort _ _),
    KeyedRows.filter_insertionSort, since]
  intro first second newer posted
  simp only [CategoryPromptNotificationRecord.NewestFirst, decide_eq_true_eq] at *
  omega

theorem since_since (table : NotificationTable) {later : Int} (ordered : cutoff ≤ later) :
    table.since later = (table.since cutoff).filter fun row => decide (later ≤ row.postedAt) := by
  rw [since, since, filter_filter]
  apply filter_congr
  intro row _
  rw [Bool.eq_iff_iff]
  simp only [Bool.and_eq_true, decide_eq_true_eq]
  omega

def windowStart (now : Int) : Int := -((2592000000000000 - now) / 1000000000)

theorem horizon_le_iff {now second : Int} :
    now - Duration.days reminderBackoffWindowDays ≤ fromTimestamp second ↔
      windowStart now ≤ second := by
  have days : Duration.days reminderBackoffWindowDays = 2592000000000000 := by decide
  rw [days, fromTimestamp, windowStart]
  omega

theorem le_windowStart {now : Int} (back : cutoff ≤ timestamp now - 2592000) :
    cutoff ≤ windowStart now := by
  simp only [timestamp, windowStart] at *
  omega

theorem reminderRun_recent (table : NotificationTable) (now : Int) :
    reminderRun (table.recentNotifications reminderBackoffUnopened) now =
      ((table.since (windowStart now)).insertionSort
        CategoryPromptNotificationRecord.NewestFirst).take reminderBackoffUnopened := by
  simp only [reminderRun, recentNotifications, horizon_le_iff]
  rw [← take_takeWhile, table.takeWhile_recent, take_take, Nat.min_self]

theorem latestDate_eq (table : NotificationTable) (some : table.since cutoff ≠ []) :
    table.latestDate = (((table.since cutoff).insertionSort
      CategoryPromptNotificationRecord.NewestFirst).head?).map (·.localDate) := by
  have recent := table.takeWhile_recent cutoff
  have first : (table.recentNotifications 1).head? =
      (table.rows.insertionSort CategoryPromptNotificationRecord.NewestFirst).head? := by
    rw [recentNotifications, List.head?_take, if_neg Nat.one_ne_zero]
  rw [latestDate, first]
  congr 1
  rw [← recent]
  cases sorted : table.rows.insertionSort CategoryPromptNotificationRecord.NewestFirst with
  | nil => rfl
  | cons row rows =>
    rw [sorted, takeWhile_cons] at recent
    rw [takeWhile_cons]
    split
    · rfl
    next old =>
      rw [if_neg old] at recent
      have none := (perm_insertionSort CategoryPromptNotificationRecord.NewestFirst
        (table.since cutoff)).symm
      rw [← recent] at none
      exact absurd none.eq_nil some

end NotificationTable

/-- Two tables agree on the reminders since a cutoff. -/
structure AgreeSince (cutoff : Int) (swept unswept : NotificationTable) : Prop where
  since : swept.since cutoff = unswept.since cutoff
  sweptDated : swept.Dated
  unsweptDated : unswept.Dated

namespace AgreeSince

variable (agree : AgreeSince cutoff swept unswept)

include agree

theorem later {later : Int} (ordered : cutoff ≤ later) : AgreeSince later swept unswept where
  since := by
    rw [NotificationTable.since_since _ ordered, NotificationTable.since_since _ ordered,
      agree.since]
  sweptDated := agree.sweptDated
  unsweptDated := agree.unsweptDated

theorem paused {now : Int} (back : cutoff ≤ timestamp now - 2592000) :
    remindersPaused (swept.recentNotifications reminderBackoffUnopened) now =
      remindersPaused (unswept.recentNotifications reminderBackoffUnopened) now := by
  have run : reminderRun (swept.recentNotifications reminderBackoffUnopened) now =
      reminderRun (unswept.recentNotifications reminderBackoffUnopened) now := by
    rw [swept.reminderRun_recent, unswept.reminderRun_recent,
      (agree.later (NotificationTable.le_windowStart back)).since]
  simp only [remindersPaused, run]

theorem openLatest (instant : Int) :
    AgreeSince cutoff (swept.openLatest instant) (unswept.openLatest instant) := by
  have kept (table : NotificationTable) : (table.openLatest instant).since cutoff =
      (table.since cutoff).map (NotificationTable.openRow table.latestDate instant) := by
    simp only [NotificationTable.since, NotificationTable.openLatest, filter_map,
      Function.comp_def, NotificationTable.openRow_postedAt]
  have dated (table : NotificationTable) (isDated : table.Dated) :
      (table.openLatest instant).Dated := by
    intro row member
    obtain ⟨old, isOld, rfl⟩ := mem_map.mp member
    simpa using isDated old isOld
  refine ⟨?_, dated swept agree.sweptDated, dated unswept agree.unsweptDated⟩
  rw [kept, kept, agree.since]
  by_cases empty : unswept.since cutoff = []
  · rw [empty]
    rfl
  · have sweptSome : swept.since cutoff ≠ [] := agree.since ▸ empty
    rw [swept.latestDate_eq sweptSome, unswept.latestDate_eq empty, agree.since]

theorem mem_dates {now offset : Int} (back : cutoff ≤ timestamp now - 2592000) :
    reminderDate now offset ∈ swept.rows.map (·.localDate) ↔
      reminderDate now offset ∈ unswept.rows.map (·.localDate) := by
  have recent (table : NotificationTable) (dated : table.Dated) :
      reminderDate now offset ∈ table.rows.map (·.localDate) ↔
        reminderDate now offset ∈ (table.since cutoff).map (·.localDate) := by
    simp only [NotificationTable.since, mem_map, mem_filter, decide_eq_true_eq]
    constructor
    · rintro ⟨row, member, same⟩
      refine ⟨row, ⟨member, ?_⟩, same⟩
      have onDate := dated row member
      rw [same] at onDate
      simp only [reminderDate, LocalTime.localDate, toLocal, clampOffset] at onDate
      omega
    · rintro ⟨row, ⟨member, -⟩, same⟩
      exact ⟨row, member, same⟩
  rw [recent swept agree.sweptDated, recent unswept agree.unsweptDated, agree.since]

theorem add {row : CategoryPromptNotificationRecord}
    (onDate : row.localDate ≤ (row.postedAt + 64800) / 86400)
    (sweptFresh : row.localDate ∉ swept.rows.map (·.localDate))
    (unsweptFresh : row.localDate ∉ unswept.rows.map (·.localDate)) :
    AgreeSince cutoff (swept.add row sweptFresh) (unswept.add row unsweptFresh) := by
  have dated (table : NotificationTable) (isDated : table.Dated)
      (fresh : row.localDate ∉ table.rows.map (·.localDate)) : (table.add row fresh).Dated := by
    intro other member
    rcases mem_append.mp member with old | new
    · exact isDated other old
    · rw [mem_singleton.mp new]
      exact onDate
  refine ⟨?_, dated swept agree.sweptDated sweptFresh,
    dated unswept agree.unsweptDated unsweptFresh⟩
  have since := agree.since
  simp only [NotificationTable.since] at since
  simp only [NotificationTable.since, NotificationTable.add, filter_append, since]

theorem claim {now offset : Int} (back : cutoff ≤ timestamp now - 2592000)
    (entryCount policyVersion : Nat) :
    Option.Rel (fun first second => first.1 = second.1 ∧ AgreeSince cutoff first.2 second.2)
      (swept.claim (reminderDate now offset) entryCount policyVersion now)
      (unswept.claim (reminderDate now offset) entryCount policyVersion now) := by
  unfold NotificationTable.claim
  by_cases allowed : notificationAllowed (reminderDate now offset) entryCount policyVersion
  · rw [if_pos allowed, if_pos allowed]
    have same := @AgreeSince.mem_dates _ _ _ agree now offset back
    by_cases present : reminderDate now offset ∈ unswept.rows.map (·.localDate)
    · rw [dif_pos (same.mpr present), dif_pos present]
      exact .some ⟨rfl, agree⟩
    · have absent : reminderDate now offset ∉ swept.rows.map (·.localDate) :=
        fun member => present (same.mp member)
      rw [dif_neg absent, dif_neg present]
      refine .some ⟨rfl, agree.add ?_ absent present⟩
      simp only [reminderDate, LocalTime.localDate, toLocal, clampOffset]
      omega
  · rw [if_neg allowed, if_neg allowed]
    exact .none

theorem deleteExpired {instant : Int} (before : cutoff ≤ timestamp instant) (limit : Nat) :
    AgreeSince (timestamp instant) (swept.deleteExpired instant limit) unswept := by
  refine ⟨?_, ?_, agree.unsweptDated⟩
  · rw [← (agree.later before).since]
    simp only [NotificationTable.since, NotificationTable.deleteExpired, filter_filter]
    apply filter_congr
    intro row member
    rw [Bool.and_eq_left_iff_imp]
    intro posted
    rw [Bool.not_eq_true', ← Bool.not_eq_true, contains_iff_mem]
    intro expired
    obtain ⟨old, isOld, same⟩ := mem_map.mp expired
    have among := (mem_insertionSort _).mp (mem_of_mem_take isOld)
    obtain ⟨isRow, early⟩ := mem_filter.mp among
    -- The date belongs to one row.
    obtain rfl := inj_on_of_nodup_map swept.distinct isRow member same
    simp only [decide_eq_true_eq] at posted early
    omega
  · exact fun row member => agree.sweptDated row (mem_of_mem_filter member)

end AgreeSince

end Tables

section Ledgers

variable {cutoff : Int} {swept unswept : PromptLedger}

/-- Two ledgers agree on everything but the reminders before a cutoff. -/
structure Agree (cutoff : Int) (swept unswept : PromptLedger) : Prop where
  tables : swept.tables = unswept.tables
  notifications : AgreeSince cutoff swept.notifications unswept.notifications

/-- Two answers are the same, and the ledgers after them agree. -/
def AgreeAfter {Answer : Type*} (cutoff : Int) (first second : Answer × PromptLedger) : Prop :=
  first.1 = second.1 ∧ Agree cutoff first.2 second.2

theorem rel_map {First Second : Type*} {before : First → First → Prop}
    {after : Second → Second → Prop} {change other : First → Second} {first second : Option First}
    (related : Option.Rel before first second)
    (keeps : ∀ one two, before one two → after (change one) (other two)) :
    Option.Rel after (first.map change) (second.map other) := by
  cases related with
  | none => exact .none
  | some both => exact .some (keeps _ _ both)

theorem rel_answers {Answer : Type*} {first second : Option (Answer × PromptLedger)}
    (related : Option.Rel (AgreeAfter cutoff) first second) :
    first.map Prod.fst = second.map Prod.fst := by
  cases related with
  | none => rfl
  | some both => exact congrArg some both.1

namespace Agree

variable (agree : Agree cutoff swept unswept)

include agree

theorem paused {now : Int} (back : cutoff ≤ timestamp now - 2592000) :
    swept.paused now = unswept.paused now :=
  agree.notifications.paused back

theorem withTables (tables : CardTables) :
    Agree cutoff { swept with tables := tables } { unswept with tables := tables } :=
  ⟨rfl, agree.notifications⟩

theorem claimNotification {now : Int} (back : cutoff ≤ timestamp now - 2592000) (offset : Int)
    (keys : List String) (entryCount : Nat) :
    Option.Rel (AgreeAfter cutoff)
      (swept.claimNotification (reminderDate now offset) keys entryCount now)
      (unswept.claimNotification (reminderDate now offset) keys entryCount now) := by
  have claims := @AgreeSince.claim _ _ _ agree.notifications now offset back entryCount
    categoryPromptPolicyVersion
  apply rel_map claims
  rintro ⟨claimed, notifications⟩ ⟨_, others⟩ ⟨rfl, agreeNext⟩
  refine ⟨rfl, ?_, agreeNext⟩
  simp only [agree.tables]

variable {request : PromptRequest}

theorem remind (back : cutoff ≤ timestamp request.now - 2592000)
    (utcOffsetSeconds : Option Int) (counted : List CategoryPromptEntry) (keys : List String)
    (counts : ListCounts) :
    Option.Rel (AgreeAfter cutoff) (swept.remind request utcOffsetSeconds counted keys counts)
      (unswept.remind request utcOffsetSeconds counted keys counts) := by
  cases utcOffsetSeconds with
  | none => exact .some ⟨rfl, agree⟩
  | some offset =>
    simp only [PromptLedger.remind, agree.paused back]
    split
    · apply rel_map (agree.claimNotification back offset keys counts.total)
      rintro ⟨claimed, next⟩ ⟨_, other⟩ ⟨rfl, agreeNext⟩
      exact ⟨rfl, agreeNext⟩
    · exact .some ⟨rfl, agree⟩

theorem evaluateListed
    (back : cutoff ≤ timestamp request.now - 2592000) (utcOffsetSeconds : Option Int)
    (listed : List Candidate) :
    AgreeAfter cutoff (swept.evaluateListed request utcOffsetSeconds listed)
      (unswept.evaluateListed request utcOffsetSeconds listed) := by
  simp only [PromptLedger.evaluateListed, agree.tables]
  split
  next => exact ⟨rfl, agree⟩
  next entries recorded _ =>
    split
    · exact ⟨rfl, agree.withTables recorded⟩
    · split
      next => exact ⟨rfl, agree.withTables recorded⟩
      next promptId carded _ =>
        have reminds := (agree.withTables carded).remind back utcOffsetSeconds
          (entries.take Rules.triageMaxEntries) (listed.map Candidate.entryKey)
          (ListCounts.of (listed.take Rules.triageMaxEntries))
        generalize PromptLedger.remind { swept with tables := carded } request utcOffsetSeconds
          (entries.take Rules.triageMaxEntries) (listed.map Candidate.entryKey)
          (ListCounts.of (listed.take Rules.triageMaxEntries)) = first at reminds ⊢
        generalize PromptLedger.remind { unswept with tables := carded } request utcOffsetSeconds
          (entries.take Rules.triageMaxEntries) (listed.map Candidate.entryKey)
          (ListCounts.of (listed.take Rules.triageMaxEntries)) = second at reminds ⊢
        cases reminds with
        | none => exact ⟨rfl, agree.withTables carded⟩
        | some both =>
          obtain ⟨same, agreeNext⟩ := both
          refine ⟨?_, agreeNext⟩
          simp only [same]

theorem evaluate (back : cutoff ≤ timestamp request.now - 2592000) (utcOffsetSeconds : Option Int) :
    AgreeAfter cutoff (swept.evaluate request utcOffsetSeconds)
      (unswept.evaluate request utcOffsetSeconds) := by
  unfold PromptLedger.evaluate
  split
  · exact ⟨rfl, agree⟩
  · exact ⟨rfl, agree⟩
  · exact ⟨rfl, agree⟩
  · exact ⟨rfl, agree⟩
  · exact agree.evaluateListed back utcOffsetSeconds _

theorem acknowledge (promptId : String) (response : CategoryPrompts.CategoryPromptResponse)
    (now : Int) : Agree cutoff (swept.acknowledge promptId response now)
      (unswept.acknowledge promptId response now) := by
  refine ⟨congrArg (·.acknowledge promptId now) agree.tables, ?_⟩
  cases response with
  | opened => exact agree.notifications.openLatest now
  | notNow => exact agree.notifications

end Agree

end Ledgers

section Runs

def PromptCall.instant : PromptCall → Int
  | .pendingPrompt request _ => request.now
  | .currentCard request => request.now
  | .acknowledge _ _ now => now
  | .sweepEntries now _ => now
  | .sweepNotifications now _ => now

def PromptCall.isKept : PromptCall → Bool
  | .sweepNotifications _ _ => false
  | .pendingPrompt _ _ | .currentCard _ | .acknowledge _ _ _ | .sweepEntries _ _ => true

/-- The answers to the calls that are not sweeps of the reminders. -/
def answered (ledger : PromptLedger) (call : PromptCall) : List PromptAnswer :=
  if call.isKept then [promptMachine.answer ledger call] else []

/-- At an instant no reminder before the cutoff matters any more. -/
def AgreeAt (clock : Int) (swept unswept : PromptLedger) : Prop :=
  ∃ cutoff, cutoff ≤ timestamp clock - 2592000 ∧ Agree cutoff swept unswept

variable {swept unswept : PromptLedger} {clock : Int}

theorem AgreeAt.later (agree : AgreeAt clock swept unswept) {now : Int} (after : clock ≤ now) :
    AgreeAt now swept unswept := by
  obtain ⟨cutoff, back, agreeSince⟩ := agree
  exact ⟨cutoff, back.trans (Int.sub_le_sub_right (timestamp_mono after) _), agreeSince⟩

theorem agree_kept (call : PromptCall) (isKept : call.isKept = true)
    (agree : AgreeAt call.instant swept unswept) :
    promptMachine.answer swept call = promptMachine.answer unswept call ∧
      AgreeAt call.instant (promptMachine.next swept call) (promptMachine.next unswept call) := by
  obtain ⟨cutoff, back, agreeSince⟩ := agree
  cases call with
  | pendingPrompt request offset =>
    obtain ⟨same, agreeNext⟩ := agreeSince.evaluate back (some offset)
    exact ⟨same, cutoff, back, agreeNext⟩
  | currentCard request =>
    obtain ⟨same, agreeNext⟩ := agreeSince.evaluate back none
    exact ⟨same, cutoff, back, agreeNext⟩
  | acknowledge promptId response now =>
    exact ⟨rfl, cutoff, back, agreeSince.acknowledge promptId response now⟩
  | sweepEntries now limit =>
    refine ⟨rfl, cutoff, back, ?_, agreeSince.notifications⟩
    show swept.tables.deleteExpiredEntries _ limit = unswept.tables.deleteExpiredEntries _ limit
    rw [agreeSince.tables]
  | sweepNotifications now limit => cases isKept

theorem agree_sweep {now : Int} (limit : Nat) (agree : AgreeAt now swept unswept) :
    AgreeAt now (promptMachine.next swept (.sweepNotifications now limit)) unswept := by
  obtain ⟨cutoff, back, agreeSince⟩ := agree
  have horizon : timestamp (now - Duration.days categoryPromptNotificationRetentionDays) =
      timestamp now - 2592000 := by
    have days : Duration.days categoryPromptNotificationRetentionDays = 2592000000000000 := by
      decide
    simp only [days, timestamp]
    omega
  refine ⟨timestamp now - 2592000, le_rfl, agreeSince.tables, ?_⟩
  have sweeps := agreeSince.notifications.deleteExpired (horizon ▸ back) limit
  rw [horizon] at sweeps
  exact sweeps

theorem agree_run (calls : List PromptCall) (agree : AgreeAt clock swept unswept)
    (ordered : Machine.Nondecreasing PromptCall.instant clock calls) :
    promptMachine.history answered swept calls =
        promptMachine.history answered unswept (calls.filter PromptCall.isKept) ∧
      AgreeAt (Machine.lastReading PromptCall.instant clock calls) (promptMachine.run swept calls)
        (promptMachine.run unswept (calls.filter PromptCall.isKept)) := by
  induction calls generalizing clock swept unswept with
  | nil => exact ⟨rfl, agree⟩
  | cons call calls induction =>
    obtain ⟨after, rest⟩ := (Machine.nondecreasing_cons _).mp ordered
    have agreeNow := agree.later after
    cases isKept : call.isKept with
    | true =>
      obtain ⟨same, agreeNext⟩ := agree_kept call isKept agreeNow
      obtain ⟨answers, agreeEnd⟩ := induction agreeNext rest
      rw [filter_cons, if_pos isKept]
      refine ⟨?_, agreeEnd⟩
      simp only [Machine.history_cons, answered, isKept, if_true, same] at answers ⊢
      rw [answers]
    | false =>
      rw [filter_cons, isKept]
      cases call with
      | sweepNotifications now limit =>
        obtain ⟨answers, agreeEnd⟩ := induction (agree_sweep limit agreeNow) rest
        exact ⟨answers, agreeEnd⟩
      | pendingPrompt request offset => cases isKept
      | currentCard request => cases isKept
      | acknowledge promptId response now => cases isKept
      | sweepEntries now limit => cases isKept

theorem agreeAt_empty (clock : Int) : AgreeAt clock .empty .empty := by
  have dated : NotificationTable.empty.Dated := fun row member => absurd member not_mem_nil
  exact ⟨timestamp clock - 2592000, le_rfl, rfl, rfl, dated, dated⟩

/-- Whenever the reminders were swept, the answers up to now are the same as without any sweep,
and at every later instant reminders are paused alike, claimed alike, refused alike and handed
over alike. -/
theorem pacing_ignores_sweeps (calls : List PromptCall) (start now : Int)
    (ordered : Machine.Nondecreasing PromptCall.instant start calls)
    (later : Machine.lastReading PromptCall.instant start calls ≤ now) :
    promptMachine.history answered .empty calls =
        promptMachine.history answered .empty (calls.filter PromptCall.isKept) ∧
      (promptMachine.run .empty calls).paused now =
        (promptMachine.run .empty (calls.filter PromptCall.isKept)).paused now ∧
      (∀ offset keys entryCount,
        ((promptMachine.run .empty calls).claimNotification (reminderDate now offset) keys
            entryCount now).map Prod.fst =
          ((promptMachine.run .empty (calls.filter PromptCall.isKept)).claimNotification
            (reminderDate now offset) keys entryCount now).map Prod.fst) ∧
      ∀ request offset, request.now = now →
        ((promptMachine.run .empty calls).evaluate request offset).1 =
          ((promptMachine.run .empty (calls.filter PromptCall.isKept)).evaluate request
            offset).1 := by
  obtain ⟨answers, agreeEnd⟩ := agree_run calls (agreeAt_empty start) ordered
  obtain ⟨cutoff, back, agree⟩ := agreeEnd.later later
  refine ⟨answers, agree.paused back, ?_, ?_⟩
  · intro offset keys entryCount
    exact rel_answers (agree.claimNotification back offset keys entryCount)
  · rintro request offset rfl
    exact (agree.evaluate back offset).1

def requestOn (day : Int) (digit : Char) : PromptRequest where
  now := Duration.days day
  liveBlockExists := some false
  candidates := some [{ kind := .site, stableId := String.ofList (List.replicate 64 digit) }]
  inQuietHoursAt := fun _ => false
  focusActive := false
  minted := String.ofList (List.replicate 64 'b')

/-- A site of its own on each of three days. -/
def threeSites : List PromptCall :=
  [.pendingPrompt (requestOn 0 'a') 0, .pendingPrompt (requestOn 1 'c') 0,
    .pendingPrompt (requestOn 31 'd') 0]

/-- Reminders on three days, with the first two of them swept later. -/
theorem pacing_ignores_a_sweep :
    let swept := threeSites ++ [.sweepNotifications (Duration.days 32) 8]
    (promptMachine.run .empty threeSites).notifications.rows.length = 3 ∧
      (promptMachine.run .empty swept).notifications.rows.length = 1 ∧
      (promptMachine.run .empty swept).paused (Duration.days 32) =
        (promptMachine.run .empty threeSites).paused (Duration.days 32) := by
  intro swept
  have ordered : Machine.Nondecreasing PromptCall.instant 0 swept := by
    simp [swept, threeSites, Machine.Nondecreasing, PromptCall.instant, requestOn, Duration.days,
      Duration.seconds]
  exact ⟨by decide +kernel, by decide +kernel,
    (pacing_ignores_sweeps swept 0 (Duration.days 32) ordered le_rfl).2.1⟩

end Runs

end Velvt.CategoryLedger
