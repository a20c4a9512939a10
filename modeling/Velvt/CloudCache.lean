import Mathlib.Data.List.Sort
import Velvt.Instants
import Velvt.StepMachine
import Velvt.TaskInvariants

/-!
# The cache of the cloud's history and insights

`FetchService` answers from its tables while they are fresh and asks the cloud otherwise.  Its
tasks call the tables, the network and the locks one call at a time, and an invalidation may come
between any two.  Every request, with what its reply carries, bears the moment at which it was
sent: the code does not look at it, the theorems do.
-/

namespace Velvt.Cloud

open StepMachine TaskPrograms

inductive HistoryStatus
  | ready
  | noData
  deriving DecidableEq

/-- One day of the cloud's history.  The service reads of it no more than the day and the
status. -/
structure DailySummary where
  date : Int
  status : HistoryStatus
  details : String

structure InsightPayload where
  date : Int
  text : String
  deriving DecidableEq

/-- A lookup in one of the tables. -/
structure Lookup where
  date : Int
  moment : Nat
  deriving DecidableEq

/-- A payload with the moment at which the request was sent that fetched it, and with the
lookup that found it, if it was found in the cache. -/
structure Fetched (Payload : Type) where
  payload : Payload
  sentAt : Nat
  found : Option Lookup
  deriving DecidableEq

/-- An answer with the moment at which it was given. -/
structure Answered (Answer : Type) where
  answer : Answer
  moment : Nat
  deriving DecidableEq

inductive HistorySource
  | localHistory
  | cloud

structure HistoryPayload where
  days : Nat
  source : HistorySource
  summaries : List (Fetched DailySummary)

/-- A row of `history_cache`.  A payload that does not parse counts as none. -/
structure HistoryCacheEntry where
  date : Int
  payload : Option DailySummary
  ttl : Int
  sentAt : Nat

/-- A row of `insight_cache`; a negative one says that the cloud has no insight. -/
structure InsightCacheEntry where
  date : Int
  payload : Option InsightPayload
  ttl : Int
  isNegative : Bool
  sentAt : Nat

inductive FetchError
  | http
  | invalidResponse
  | apiError (status : Nat)
  | persistence

/-- A reply whose body has been parsed, or could not be. -/
structure HttpResponse (Body : Type) where
  status : Nat
  body : Option Body

def cloudHistoryMaxDays : Nat := 7

/-- `Utc::now().date_naive()`, as the number of the day. -/
def utcDate (now : Int) : Int := timestamp now / 86400

def cloudHistoryDates (now : Int) (days : Nat) : List Int :=
  (List.range (min days cloudHistoryMaxDays)).map fun back => utcDate now - back

def hasAReadyDay (history : HistoryPayload) : Bool :=
  history.summaries.any fun day => day.payload.status == .ready

def cloudHistory (summaries : List (Fetched DailySummary)) : HistoryPayload where
  days := min summaries.length 4294967295
  source := .cloud
  summaries := summaries.insertionSort fun first second =>
    first.payload.date ≤ second.payload.date

structure FetchConfig where
  historyTtl : Int
  insightTtl : Int
  insightNegativeTtl : Int
  hasPushAdapter : Bool

/-- What a task can call, with the type of the answer. -/
inductive FetchCall : Type → Type
  | utcNow : FetchCall Int
  | readHistoryCached (date : Int) : FetchCall (Option (HistoryCacheEntry × Nat))
  | readInsightCached (date : Int) : FetchCall (Option (InsightCacheEntry × Nat))
  | lockHistory (days : Nat) : FetchCall Unit
  | unlockHistory (days : Nat) : FetchCall Unit
  | lockInsight (date : Int) : FetchCall Unit
  | unlockInsight (date : Int) : FetchCall Unit
  /-- The request leaves; the answer is the moment. -/
  | send : FetchCall Nat
  | receiveHistory : FetchCall (Except FetchError (HttpResponse (List DailySummary)))
  | receiveInsight : FetchCall (Except FetchError (HttpResponse InsightPayload))
  | upsertHistory (entry : HistoryCacheEntry) : FetchCall (Except FetchError Unit)
  | upsertInsight (entry : InsightCacheEntry) : FetchCall (Except FetchError Unit)
  | pushHistory (history : HistoryPayload) : FetchCall Unit
  | pushInsight (insight : InsightPayload) : FetchCall Unit
  /-- The caller of a read has its answer. -/
  | answerHistory (history : HistoryPayload) : FetchCall Unit
  | answerInsight (insight : Fetched (Option InsightPayload)) : FetchCall Unit

/-- A task that may end in an error. -/
abbrev FetchTask := ExceptT FetchError (Program FetchCall)

section Tasks

variable {Answer : Type}

def outside (operation : FetchCall Answer) : FetchTask Answer :=
  ExceptT.mk do
    let answer ← Program.ask operation
    pure (.ok answer)

def fallible (operation : FetchCall (Except FetchError Answer)) : FetchTask Answer :=
  ExceptT.mk (Program.ask operation)

def withLock (lock unlock : FetchCall Unit) (section_ : FetchTask Answer) : FetchTask Answer :=
  ExceptT.mk do
    Program.ask lock
    let result ← section_.run
    Program.ask unlock
    pure result

/-- All summaries of the dates from the cache, unless one is missing or does not parse. -/
def allHistoryCached : List Int → FetchTask (Option (List (Fetched DailySummary)))
  | [] => return some []
  | date :: dates => do
      match ← outside (.readHistoryCached date) with
      | none => return none
      | some (entry, moment) =>
        match entry.payload with
        | none => return none
        | some summary => do
            let cached ← allHistoryCached dates
            return cached.map fun cached =>
              { payload := summary, sentAt := entry.sentAt, found := some ⟨date, moment⟩ } :: cached

def fetchHistoryFromApi : FetchTask (List (Fetched DailySummary)) := do
  let sentAt ← outside .send
  let response ← fallible .receiveHistory
  if response.status ≠ 200 then
    throw (.apiError response.status)
  else
    match response.body with
    | none => throw .invalidResponse
    | some summaries =>
      return summaries.map fun summary =>
        { payload := summary, sentAt := sentAt, found := none }

def upsertEach (expiresAt : Int) : List (Fetched DailySummary) → FetchTask Unit
  | [] => return ()
  | summary :: summaries => do
      fallible (.upsertHistory
        { date := summary.payload.date
          payload := some summary.payload
          ttl := timestamp expiresAt
          sentAt := summary.sentAt })
      upsertEach expiresAt summaries

variable (config : FetchConfig)

def pushHistory (history : HistoryPayload) : FetchTask Unit :=
  if config.hasPushAdapter && hasAReadyDay history then outside (.pushHistory history)
  else return ()

def pushInsight (insight : InsightPayload) : FetchTask Unit :=
  if config.hasPushAdapter then outside (.pushInsight insight) else return ()

/-- The part of `daily_history` behind the lock. -/
def fetchHistory (days : Nat) (dates : List Int) : FetchTask HistoryPayload :=
  withLock (.lockHistory days) (.unlockHistory days) do
    match ← allHistoryCached dates with
    | some summaries => return cloudHistory summaries
    | none => do
        let summaries ← fetchHistoryFromApi
        let now ← outside .utcNow
        upsertEach (now + Duration.seconds config.historyTtl) summaries
        pushHistory config (cloudHistory summaries)
        return cloudHistory summaries

def dailyHistory (days : Nat) : FetchTask HistoryPayload := do
  let days := min days cloudHistoryMaxDays
  let now ← outside .utcNow
  let dates := cloudHistoryDates now days
  match ← allHistoryCached dates with
  | some summaries => return cloudHistory summaries
  | none => fetchHistory config days dates

def cachedDailyHistory (days : Nat) : FetchTask (Option HistoryPayload) := do
  let now ← outside .utcNow
  let cached ← allHistoryCached (cloudHistoryDates now days)
  return cached.map cloudHistory

/-- What the cache says about an insight: the insight, or that there is none. -/
def insightCached (date : Int) : FetchTask (Option (Fetched (Option InsightPayload))) := do
  match ← outside (.readInsightCached date) with
  | none => return none
  | some (entry, moment) =>
    if entry.isNegative then
      return some { payload := none, sentAt := entry.sentAt, found := some ⟨date, moment⟩ }
    else
      return entry.payload.map fun insight =>
        { payload := some insight, sentAt := entry.sentAt, found := some ⟨date, moment⟩ }

def fetchInsightFromApi : FetchTask (Fetched (Option InsightPayload)) := do
  let sentAt ← outside .send
  let response ← fallible .receiveInsight
  if response.status = 200 then
    match response.body with
    | none => throw .invalidResponse
    | some insight => return { payload := some insight, sentAt := sentAt, found := none }
  else if response.status = 404 then
    return { payload := none, sentAt := sentAt, found := none }
  else
    throw (.apiError response.status)

/-- The part of `daily_insight` behind the lock. -/
def fetchInsight (date : Int) : FetchTask (Fetched (Option InsightPayload)) :=
  withLock (.lockInsight date) (.unlockInsight date) do
    match ← insightCached date with
    | some answer => return answer
    | none => do
        let now ← outside .utcNow
        let fetched ← fetchInsightFromApi
        match fetched.payload with
        | some insight => do
            fallible (.upsertInsight
              { date := date
                payload := some insight
                ttl := timestamp (now + Duration.seconds config.insightTtl)
                isNegative := false
                sentAt := fetched.sentAt })
            pushInsight config insight
            return fetched
        | none => do
            fallible (.upsertInsight
              { date := date
                payload := none
                ttl := timestamp (now + Duration.seconds config.insightNegativeTtl)
                isNegative := true
                sentAt := fetched.sentAt })
            return fetched

def dailyInsight (date : Int) : FetchTask (Fetched (Option InsightPayload)) := do
  match ← insightCached date with
  | some answer => return answer
  | none => fetchInsight config date

def refreshAll (days : Nat) : Program FetchCall Unit := do
  let _ ← (dailyHistory config days).run
  let now ← Program.ask .utcNow
  let _ ← (dailyInsight config (utcDate now)).run
  pure ()

end Tasks

section Readers

variable (config : FetchConfig)

/-- A caller of `daily_history`. -/
def readHistory (days : Nat) : Program FetchCall Unit := do
  match ← (dailyHistory config days).run with
  | .ok history => Program.ask (.answerHistory history)
  | .error _ => pure ()

/-- A caller of `cached_daily_history`. -/
def readCachedHistory (days : Nat) : Program FetchCall Unit := do
  match ← (cachedDailyHistory days).run with
  | .ok (some history) => Program.ask (.answerHistory history)
  | _ => pure ()

/-- A caller of `daily_insight`. -/
def readInsight (date : Int) : Program FetchCall Unit := do
  match ← (dailyInsight config date).run with
  | .ok insight => Program.ask (.answerInsight insight)
  | .error _ => pure ()

end Readers

/-- What an invalidation drops. -/
inductive InvalidationTarget
  | historyDate (date : Int)
  | historyAll
  | insightDate (date : Int)
  | insightAll
  deriving DecidableEq

namespace InvalidationTarget

def coversHistory (date : Int) : InvalidationTarget → Bool
  | .historyDate dropped => dropped == date
  | .historyAll => true
  | _ => false

def coversInsight (date : Int) : InvalidationTarget → Bool
  | .insightDate dropped => dropped == date
  | .insightAll => true
  | _ => false

end InvalidationTarget

/-- An invalidation that has completed. -/
structure Invalidation where
  target : InvalidationTarget
  moment : Nat
  deriving DecidableEq

/-- What the tasks share: the tables, the locks that are held, and what has happened so far. -/
structure FetchShared where
  history : List HistoryCacheEntry
  insights : List InsightCacheEntry
  historyLocks : List Nat
  insightLocks : List Int
  /-- How many lookups, requests and invalidations there have been. -/
  moment : Nat
  invalidations : List Invalidation
  historyAnswers : List (Answered HistoryPayload)
  insightAnswers : List (Answered (Fetched (Option InsightPayload)))

/-- What the surroundings decide about one call. -/
structure FetchInput where
  now : Int
  /-- A lookup times out or fails. -/
  lookupFails : Bool
  storeFails : Bool
  historyReply : Except FetchError (HttpResponse (List DailySummary))
  insightReply : Except FetchError (HttpResponse InsightPayload)

namespace FetchShared

variable (input : FetchInput) (shared : FetchShared)

def command (written : FetchShared) : Option (Except FetchError Unit × FetchShared) :=
  if input.storeFails then some (.error .persistence, shared) else some (.ok (), written)

/-- `invalidate` and `invalidate_all`. -/
def invalidate (target : InvalidationTarget) : FetchShared :=
  if input.storeFails then
    shared
  else
    { shared with
      history := shared.history.filter fun entry => !(target.coversHistory entry.date)
      insights := shared.insights.filter fun entry => !(target.coversInsight entry.date)
      moment := shared.moment + 1
      invalidations :=
        shared.invalidations ++ [{ target := target, moment := shared.moment + 1 }] }

end FetchShared

def performFetch : Handler FetchCall FetchShared FetchInput
  | _, input, shared, .utcNow => some (input.now, shared)
  | _, input, shared, .readHistoryCached date =>
    let found := shared.history.find? fun entry =>
      entry.date == date && timestamp input.now < entry.ttl
    some (if input.lookupFails then none else found.map fun entry => (entry, shared.moment + 1),
      { shared with moment := shared.moment + 1 })
  | _, input, shared, .readInsightCached date =>
    let found := shared.insights.find? fun entry =>
      entry.date == date && timestamp input.now < entry.ttl
    some (if input.lookupFails then none else found.map fun entry => (entry, shared.moment + 1),
      { shared with moment := shared.moment + 1 })
  | _, _, shared, .lockHistory days =>
    if shared.historyLocks.contains days then none
    else some ((), { shared with historyLocks := days :: shared.historyLocks })
  | _, _, shared, .unlockHistory days =>
    some ((), { shared with historyLocks := shared.historyLocks.erase days })
  | _, _, shared, .lockInsight date =>
    if shared.insightLocks.contains date then none
    else some ((), { shared with insightLocks := date :: shared.insightLocks })
  | _, _, shared, .unlockInsight date =>
    some ((), { shared with insightLocks := shared.insightLocks.erase date })
  | _, _, shared, .send => some (shared.moment + 1, { shared with moment := shared.moment + 1 })
  | _, input, shared, .receiveHistory => some (input.historyReply, shared)
  | _, input, shared, .receiveInsight => some (input.insightReply, shared)
  | _, input, shared, .upsertHistory entry =>
    shared.command input
      { shared with
        history := entry :: shared.history.filter fun other => other.date != entry.date }
  | _, input, shared, .upsertInsight entry =>
    shared.command input
      { shared with
        insights := entry :: shared.insights.filter fun other => other.date != entry.date }
  | _, _, shared, .pushHistory _ => some ((), shared)
  | _, _, shared, .pushInsight _ => some ((), shared)
  | _, _, shared, .answerHistory history =>
    some ((), { shared with historyAnswers := shared.historyAnswers ++ [⟨history, shared.moment⟩] })
  | _, _, shared, .answerInsight insight =>
    some ((), { shared with insightAnswers := shared.insightAnswers ++ [⟨insight, shared.moment⟩] })

inductive FetchOperation
  | dailyHistory (days : Nat)
  | cachedDailyHistory (days : Nat)
  | dailyInsight (date : Int)
  | refreshAll (days : Nat)
  /-- One task makes its next call. -/
  | advance (task : Nat)
  | invalidate (target : InvalidationTarget)

abbrev FetchWorld := World FetchCall FetchShared

namespace FetchWorld

/-- The service at its start, with what an earlier run has left in the tables. -/
def opened (history : List HistoryCacheEntry) (insights : List InsightCacheEntry) : FetchWorld where
  shared :=
    { history := history
      insights := insights
      historyLocks := []
      insightLocks := []
      moment := 0
      invalidations := []
      historyAnswers := []
      insightAnswers := [] }
  tasks := []

def next (config : FetchConfig) (world : FetchWorld) (operation : FetchOperation)
    (input : FetchInput) : FetchWorld :=
  match operation with
  | .dailyHistory days => world.spawn (readHistory config days)
  | .cachedDailyHistory days => world.spawn (readCachedHistory days)
  | .dailyInsight date => world.spawn (readInsight config date)
  | .refreshAll days => world.spawn (Cloud.refreshAll config days)
  | .advance task => World.advance performFetch world task input
  | .invalidate target => { world with shared := world.shared.invalidate input target }

end FetchWorld

def fetchMachine (config : FetchConfig) :
    Machine FetchWorld (FetchOperation × FetchInput) Unit where
  step world operation := ((), world.next config operation.1 operation.2)

end Velvt.Cloud
