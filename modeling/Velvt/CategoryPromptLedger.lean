import Mathlib.Data.Finset.Dedup
import Velvt.CategoryAnswers
import Velvt.LocalTime
import Velvt.TriageList

/-!
# The ledger of the needs-a-category prompt

The manager of the card and the daily reminder over its three tables: the entries that need a
category, the cards that covered them, and the reminders that were handed over.  The list and the
gates are part of a request; `none` there is a failure of their store.
-/

namespace Velvt.CategoryLedger

open Rules StepMachine
open CategoryPrompts (CategoryPrompt CategoryPromptCard CategoryPromptNotification
  CategoryPromptResponse)

def categoryPromptPolicyVersion : Nat := 1

def reminderBackoffUnopened : Nat := 3

def reminderBackoffPauseDays : Int := 7

def categoryPromptEntryRetentionDays : Int := 14

def categoryPromptNotificationRetentionDays : Int := 30

def reminderBackoffWindowDays : Int := categoryPromptNotificationRetentionDays

/-- One entry of the list: its kind and its key. -/
structure Candidate where
  kind : TriageEntryKind
  stableId : String

def kindName : TriageEntryKind → String
  | .application => "application"
  | .site => "site"

def Candidate.entryKey (candidate : Candidate) : String :=
  kindName candidate.kind ++ ":" ++ candidate.stableId

structure ListCounts where
  sites : Nat
  applications : Nat

def ListCounts.of (candidates : List Candidate) : ListCounts :=
  let sites := candidates.countP fun candidate => candidate.kind = .site
  { sites := sites, applications := candidates.length - sites }

def ListCounts.total (counts : ListCounts) : Nat := counts.sites + counts.applications

def countedText (count : Nat) (singular plural : String) : String :=
  if count = 1 then "1 " ++ singular else toString count ++ " " ++ plural

def countedEntries (counts : ListCounts) : String :=
  if counts.sites = 0 then countedText counts.applications "app" "apps"
  else if counts.applications = 0 then countedText counts.sites "site" "sites"
  else countedText counts.sites "site" "sites" ++ " and " ++
    countedText counts.applications "app" "apps"

def needsSentence (counts : ListCounts) : String :=
  countedEntries counts ++ " you used this week " ++
    (if counts.total = 1 then "doesn't" else "don't") ++ " have a category yet."

def cardReach (counts : ListCounts) : String :=
  if counts.applications = 0 then
    if counts.sites = 1 then "every page of that site" else "every page of each site"
  else if counts.sites = 0 then
    if counts.applications = 1 then "every window of that app" else "every window of each app"
  else "every page of a site and every window of an app"

def cardCopy (counts : ListCounts) : CategoryPromptCard where
  title := "Needs a category"
  body := needsSentence counts ++ " Choose once and it covers " ++ cardReach counts ++ "."
  primaryAction := if counts.total = 1 then "Choose a category" else "Choose categories"
  secondaryAction := "Not now"
  entryCount := counts.total

def notificationTitle (counts : ListCounts) : String :=
  if counts.applications = 0 then
    if counts.sites = 1 then "A site needs a category" else "A few sites need a category"
  else if counts.sites = 0 then
    if counts.applications = 1 then "An app needs a category" else "A few apps need a category"
  else "A few things need a category"

def notificationCopy (counts : ListCounts) : CategoryPromptNotification where
  title := notificationTitle counts
  body := needsSentence counts ++ " Choose once in Velvt."

/-- One row of `category_prompt_entry`. -/
structure CategoryPromptEntry where
  entryKey : String
  firstListedAt : Int
  lastListedAt : Int
  acknowledgedAt : Option Int
  notifiedAt : Option Int

/-- One row of `category_prompt_card_entry`. -/
structure CategoryPromptCardEntry where
  promptId : String
  entryKey : String
  counted : Bool

/-- The entries and the cards that covered them.  Rows are in the order of their ids. -/
structure CardTables where
  entries : List CategoryPromptEntry
  cards : List CategoryPromptCardEntry

def entryKeyAllowed (key : String) : Bool :=
  ((key.toList.take 12 == "application:".toList && key.length == 76) ||
      (key.toList.take 5 == "site:".toList && key.length == 69)) &&
    ((key.toList.dropWhile fun character => character != ':').drop 1).all fun character =>
      "0123456789abcdef".toList.contains character

/-- The statements of `record_listed`, key after key. -/
def recordEntries (instant : Int) :
    List String → List CategoryPromptEntry →
      Option (List CategoryPromptEntry × List CategoryPromptEntry)
  | [], rows => some ([], rows)
  | key :: keys, rows =>
    if entryKeyAllowed key then
      let fresh : CategoryPromptEntry :=
        { entryKey := key
          firstListedAt := timestamp instant
          lastListedAt := timestamp instant
          acknowledgedAt := none
          notifiedAt := none }
      let upserted := TableRows.upsert (·.entryKey) fresh
        (fun row => { row with lastListedAt := timestamp instant }) rows
      (upserted.find? fun row => row.entryKey == key).bind fun entry =>
        (recordEntries instant keys upserted).map fun recorded =>
          (entry :: recorded.1, recorded.2)
    else
      none

def fileCounted (entries : List CategoryPromptEntry) (promptId : String) :
    List String → List CategoryPromptCardEntry → Option (List CategoryPromptCardEntry)
  | [], cards => some cards
  | key :: keys, cards =>
    if entries.any (fun entry => entry.entryKey == key) &&
        !cards.any (fun row => row.promptId == promptId && row.entryKey == key) then
      fileCounted entries promptId keys
        (cards ++ [{ promptId := promptId, entryKey := key, counted := true }])
    else
      none

def fileUncounted (entries : List CategoryPromptEntry) (promptId : String) :
    List String → List CategoryPromptCardEntry → Option (List CategoryPromptCardEntry)
  | [], cards => some cards
  | key :: keys, cards =>
    if cards.any (fun row => row.promptId == promptId && row.entryKey == key) then
      fileUncounted entries promptId keys cards
    else if entries.any (fun entry => entry.entryKey == key) then
      fileUncounted entries promptId keys
        (cards ++ [{ promptId := promptId, entryKey := key, counted := false }])
    else
      none

namespace CardTables

variable (tables : CardTables)

def recordListed (keys : List String) (instant : Int) :
    Option (List CategoryPromptEntry × CardTables) :=
  (recordEntries instant keys tables.entries).map fun recorded =>
    (recorded.1, { tables with entries := recorded.2 })

def latestCard : Option String := tables.cards.getLast?.map (·.promptId)

/-- The latest card covers exactly these keys, each of them counted. -/
def countsExactly (promptId : String) (keys : List String) : Bool :=
  decide (((tables.cards.filter fun row => row.promptId == promptId && row.counted).map
    (·.entryKey)).toFinset = keys.toFinset)

def mintCard (counted : List String) (minted : String) : Option CardTables :=
  let kept := tables.cards.filter fun row => decide (tables.latestCard = some row.promptId)
  (fileCounted tables.entries minted counted kept).map fun cards => { tables with cards := cards }

def cardFor (counted uncounted : List String) (minted : String) :
    Option (String × CardTables) :=
  let card : Option (String × CardTables) :=
    match tables.latestCard with
    | some latest =>
      if tables.countsExactly latest counted then some (latest, tables)
      else (tables.mintCard counted minted).map fun filed => (minted, filed)
    | none => (tables.mintCard counted minted).map fun filed => (minted, filed)
  card.bind fun (promptId, filed) =>
    (fileUncounted filed.entries promptId uncounted filed.cards).map fun cards =>
      (promptId, { filed with cards := cards })

def acknowledge (promptId : String) (instant : Int) : CardTables :=
  { tables with
    entries := TableRows.update
      (fun row => row.acknowledgedAt.isNone && tables.cards.any fun card =>
        card.promptId == promptId && card.entryKey == row.entryKey)
      (fun row => { row with acknowledgedAt := some (timestamp instant) }) tables.entries }

/-- A reminder stamps the entries that were listed when it was claimed. -/
def stampNotified (keys : List String) (instant : Int) : CardTables :=
  { tables with
    entries := TableRows.update
      (fun row => row.notifiedAt.isNone && keys.contains row.entryKey)
      (fun row => { row with notifiedAt := some (timestamp instant) }) tables.entries }

/-- `delete_expired_entries`: the rows of a swept entry go with it. -/
def deleteExpiredEntries (cutoff : Int) (limit : Nat) : CardTables :=
  let expired := (((tables.entries.filter fun row =>
    decide (row.lastListedAt < timestamp cutoff)).insertionSort
      fun first second => first.lastListedAt ≤ second.lastListedAt).take limit).map (·.entryKey)
  { entries := tables.entries.filter fun row => !expired.contains row.entryKey
    cards := tables.cards.filter fun row => !expired.contains row.entryKey }

end CardTables

/-- One row of `category_prompt_notification`. -/
structure CategoryPromptNotificationRecord where
  localDate : Int
  postedAt : Int
  entryCount : Nat
  policyVersion : Nat
  openedAt : Option Int

/-- `ORDER BY posted_at DESC, local_date DESC`. -/
def CategoryPromptNotificationRecord.NewestFirst
    (first second : CategoryPromptNotificationRecord) : Prop :=
  second.postedAt < first.postedAt ∨
    (second.postedAt = first.postedAt ∧ second.localDate ≤ first.localDate)
  deriving Decidable

/-- The reminders, with at most one on a local date. -/
structure NotificationTable where
  rows : List CategoryPromptNotificationRecord
  distinct : (rows.map (·.localDate)).Nodup

/-- The checks of the table: a year of four digits, one to eight entries, and a version. -/
def notificationAllowed (localDate : Int) (entryCount policyVersion : Nat) : Bool :=
  decide (-719528 ≤ localDate ∧ localDate ≤ 2932896) &&
    decide (1 ≤ entryCount ∧ entryCount ≤ 8) && decide (1 ≤ policyVersion)

namespace NotificationTable

def empty : NotificationTable where
  rows := []
  distinct := .nil

variable (table : NotificationTable)

def recentNotifications (limit : Nat) : List CategoryPromptNotificationRecord :=
  (table.rows.insertionSort CategoryPromptNotificationRecord.NewestFirst).take limit

def add (row : CategoryPromptNotificationRecord)
    (fresh : row.localDate ∉ table.rows.map (·.localDate)) : NotificationTable where
  rows := table.rows ++ [row]
  distinct := by
    rw [List.map_append]
    refine List.nodup_append.mpr ⟨table.distinct, List.nodup_singleton _, ?_⟩
    rintro date member other isNew rfl
    rw [List.mem_singleton.mp isNew] at member
    exact fresh member

/-- `INSERT … ON CONFLICT(local_date) DO NOTHING`, with whether a row was inserted. -/
def claim (localDate : Int) (entryCount policyVersion : Nat) (instant : Int) :
    Option (Bool × NotificationTable) :=
  if notificationAllowed localDate entryCount policyVersion then
    let row : CategoryPromptNotificationRecord :=
      { localDate := localDate
        postedAt := timestamp instant
        entryCount := entryCount
        policyVersion := policyVersion
        openedAt := none }
    if fresh : localDate ∈ table.rows.map (·.localDate) then some (false, table)
    else some (true, table.add row fresh)
  else
    none

/-- An answer that opens the list is kept with the reminder it can only have followed. -/
def openRow (latest : Option Int) (instant : Int) (row : CategoryPromptNotificationRecord) :
    CategoryPromptNotificationRecord :=
  if latest = some row.localDate ∧ row.openedAt = none ∧ row.postedAt ≤ timestamp instant then
    { row with openedAt := some (timestamp instant) }
  else row

@[simp]
theorem openRow_localDate (latest : Option Int) (instant : Int)
    (row : CategoryPromptNotificationRecord) :
    (openRow latest instant row).localDate = row.localDate := by
  unfold openRow
  split <;> rfl

@[simp]
theorem openRow_postedAt (latest : Option Int) (instant : Int)
    (row : CategoryPromptNotificationRecord) :
    (openRow latest instant row).postedAt = row.postedAt := by
  unfold openRow
  split <;> rfl

def latestDate : Option Int := (table.recentNotifications 1).head?.map (·.localDate)

def openLatest (instant : Int) : NotificationTable where
  rows := table.rows.map (openRow table.latestDate instant)
  distinct := by
    have dates : (table.rows.map (openRow table.latestDate instant)).map (·.localDate) =
        table.rows.map (·.localDate) := by
      simp [Function.comp_def]
    rw [dates]
    exact table.distinct

/-- The local dates of the oldest reminders posted before a cutoff. -/
def expiredDates (cutoff : Int) (limit : Nat) : List Int :=
  (((table.rows.filter fun row => decide (row.postedAt < timestamp cutoff)).insertionSort
    fun first second => first.postedAt ≤ second.postedAt).take limit).map (·.localDate)

/-- `delete_expired_notifications`. -/
def deleteExpired (cutoff : Int) (limit : Nat) : NotificationTable where
  rows := table.rows.filter fun row => !(table.expiredDates cutoff limit).contains row.localDate
  distinct := table.distinct.sublist (List.filter_sublist.map _)

end NotificationTable

def reminderRun (recent : List CategoryPromptNotificationRecord) (now : Int) :
    List CategoryPromptNotificationRecord :=
  let horizon := now - Duration.days reminderBackoffWindowDays
  (recent.takeWhile fun reminder =>
    decide (horizon ≤ fromTimestamp reminder.postedAt)).take reminderBackoffUnopened

def remindersPaused (recent : List CategoryPromptNotificationRecord) (now : Int) : Bool :=
  let run := reminderRun recent now
  match run with
  | [] => false
  | latest :: _ =>
    decide (run.length = reminderBackoffUnopened) &&
      run.all (fun reminder => reminder.openedAt.isNone) &&
      decide (now < fromTimestamp latest.postedAt + Duration.days reminderBackoffPauseDays)

/-- The tables of the prompt. -/
structure PromptLedger where
  tables : CardTables
  notifications : NotificationTable

def PromptLedger.empty : PromptLedger where
  tables := { entries := [], cards := [] }
  notifications := .empty

/-- One request for the prompt, with what the manager asks for and the id a new card would
get. -/
structure PromptRequest where
  now : Int
  liveBlockExists : Option Bool
  candidates : Option (List Candidate)
  /-- `in_quiet_hours_at`, for the offset it is asked at. -/
  inQuietHoursAt : Int → Bool
  focusActive : Bool
  minted : String

inductive PromptAnswer
  | persistenceFailed
  | prompt (reply : CategoryPrompt)
  | done

def noPrompt : CategoryPrompt where
  promptID := none
  card := none
  notification := none

def CategoryPromptEntry.isNew (entry : CategoryPromptEntry) : Bool :=
  entry.notifiedAt.isNone && entry.acknowledgedAt.isNone

def reminderDate (now utcOffsetSeconds : Int) : Int :=
  LocalTime.localDate (toLocal now (clampOffset utcOffsetSeconds))

namespace PromptLedger

variable (ledger : PromptLedger)

def paused (now : Int) : Bool :=
  remindersPaused (ledger.notifications.recentNotifications reminderBackoffUnopened) now

def claimNotification (localDate : Int) (keys : List String) (entryCount : Nat) (now : Int) :
    Option (Bool × PromptLedger) :=
  (ledger.notifications.claim localDate entryCount categoryPromptPolicyVersion now).map
    fun (claimed, notifications) =>
      (claimed,
        { tables := if claimed then ledger.tables.stampNotified keys now else ledger.tables
          notifications := notifications })

/-- The reminder that comes with a card, where one may be claimed. -/
def remind (request : PromptRequest) (utcOffsetSeconds : Option Int)
    (counted : List CategoryPromptEntry) (keys : List String) (counts : ListCounts) :
    Option (Option CategoryPromptNotification × PromptLedger) :=
  match utcOffsetSeconds with
  | none => some (none, ledger)
  | some offset =>
    if counted.any CategoryPromptEntry.isNew &&
        !request.inQuietHoursAt (clampOffset offset) && !request.focusActive &&
        !ledger.paused request.now then
      (ledger.claimNotification (reminderDate request.now offset) keys counts.total
        request.now).map fun (claimed, next) =>
          (if claimed then some (notificationCopy counts) else none, next)
    else
      some (none, ledger)

/-- The rest of `evaluate` for a list that is not empty. -/
def evaluateListed (request : PromptRequest) (utcOffsetSeconds : Option Int)
    (listed : List Candidate) : PromptAnswer × PromptLedger :=
  let keys := listed.map Candidate.entryKey
  match ledger.tables.recordListed keys request.now with
  | none => (.persistenceFailed, ledger)
  | some (entries, recorded) =>
    let counted := entries.take triageMaxEntries
    if counted.all fun entry => entry.acknowledgedAt.isSome then
      (.prompt noPrompt, { ledger with tables := recorded })
    else
      match recorded.cardFor (keys.take triageMaxEntries) (keys.drop triageMaxEntries)
          request.minted with
      | none => (.persistenceFailed, { ledger with tables := recorded })
      | some (promptId, carded) =>
        let counts := ListCounts.of (listed.take triageMaxEntries)
        match ({ ledger with tables := carded } : PromptLedger).remind request
            utcOffsetSeconds counted keys counts with
        | none => (.persistenceFailed, { ledger with tables := carded })
        | some (notification, next) =>
          (.prompt
            { promptID := some promptId
              card := some (cardCopy counts)
              notification := notification }, next)

def evaluate (request : PromptRequest) (utcOffsetSeconds : Option Int) :
    PromptAnswer × PromptLedger :=
  match request.liveBlockExists, request.candidates with
  | none, _ => (.persistenceFailed, ledger)
  | some true, _ => (.prompt noPrompt, ledger)
  | some false, none => (.persistenceFailed, ledger)
  | some false, some [] => (.prompt noPrompt, ledger)
  | some false, some (first :: rest) =>
    ledger.evaluateListed request utcOffsetSeconds (first :: rest)

def acknowledge (promptId : String) (response : CategoryPromptResponse) (now : Int) :
    PromptLedger :=
  { tables := ledger.tables.acknowledge promptId now
    notifications :=
      match response with
      | .opened => ledger.notifications.openLatest now
      | .notNow => ledger.notifications }

end PromptLedger

/-- The calls of the manager, and the sweeps of both retention targets. -/
inductive PromptCall
  | pendingPrompt (request : PromptRequest) (utcOffsetSeconds : Int)
  | currentCard (request : PromptRequest)
  | acknowledge (promptId : String) (response : CategoryPromptResponse) (now : Int)
  | sweepEntries (now : Int) (limit : Nat)
  | sweepNotifications (now : Int) (limit : Nat)

def promptMachine : Machine PromptLedger PromptCall PromptAnswer where
  step ledger
    | .pendingPrompt request offset => ledger.evaluate request (some offset)
    | .currentCard request => ledger.evaluate request none
    | .acknowledge promptId response now => (.done, ledger.acknowledge promptId response now)
    | .sweepEntries now limit =>
      (.done, { ledger with
        tables := ledger.tables.deleteExpiredEntries
          (now - Duration.days categoryPromptEntryRetentionDays) limit })
    | .sweepNotifications now limit =>
      (.done, { ledger with
        notifications := ledger.notifications.deleteExpired
          (now - Duration.days categoryPromptNotificationRetentionDays) limit })

end Velvt.CategoryLedger
