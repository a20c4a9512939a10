import Velvt.Dashboard
import Velvt.LargestRemainder

/-!
# The daily chart

What the dashboard says of one local day: the chart of its time, and the summary that is built on
this Mac.  A number of seconds is far from the bound of its machine integer, since no two instants
are further apart than the years of a date.
-/

namespace Velvt.Dashboard

def tinySegmentSeconds : Nat := 30

def minorSegmentPercent : Nat := 1

def maxDisplayBuckets : Nat := 12

def earlySignalRequiredSeconds : Nat := 60

def sessionGapSeconds : Int := 30 * 60

def localReadyMinActiveSeconds : Nat := earlySignalRequiredSeconds

def dwellSeamSeconds : Int := 1

inductive LocalDashboardCoverage
  | noData
  | partialCoverage
  | good
  deriving DecidableEq

inductive LocalDailyActivityState
  | noData
  | stillBuilding
  | lowConfidence
  | ready

/-- How a letter, an id and a date are read and written. -/
structure ChartTexts where
  /-- `char::to_uppercase`. -/
  toUppercase : Char → String
  /-- `Uuid::parse_str`. -/
  parseUuid : String → Option Uuid
  /-- `NaiveDate::to_string`. -/
  dateText : Int → String

structure LocalDailyActivitySegment where
  id : String
  label : String
  representativeEventId : Option Uuid
  stableId : Option String
  suggestedName : Option String
  aliasConfirmed : Bool
  category : String
  durationSeconds : Nat
  percentage : Nat
  confidence : ClassificationConfidence
  explanation : Option String

structure LocalDailyActivityDay where
  id : String
  date : Int
  state : LocalDailyActivityState
  activeSeconds : Nat
  coverage : LocalDashboardCoverage
  segments : List LocalDailyActivitySegment

structure DisplayBucket where
  label : String
  representativeEventId : Option String
  stableId : Option String
  suggestedName : Option String
  aliasConfirmed : Bool
  category : String
  seconds : Nat
  confidence : ClassificationConfidence

/-- `BTreeMap<(String, String), DisplayBucket>`, in the order of its keys. -/
abbrev BucketMap := List ((String × String) × DisplayBucket)

/-- The order of the keys. -/
def KeyBefore (first second : String × String) : Prop :=
  first.1 < second.1 ∨ first.1 = second.1 ∧ first.2 < second.2
  deriving Decidable

/-- Changes the bucket of a key, after putting in a fresh one where there is none. -/
def upsertBucket (key : String × String) (fresh : DisplayBucket)
    (change : DisplayBucket → DisplayBucket) : BucketMap → BucketMap
  | [] => [(key, change fresh)]
  | (other, bucket) :: rest =>
    if other = key then (other, change bucket) :: rest
    else if KeyBefore key other then (key, change fresh) :: (other, bucket) :: rest
    else (other, bucket) :: upsertBucket key fresh change rest

def spanSeconds (span : Int × Int) : Nat := (max (numSeconds (span.2 - span.1)) 0).toNat

def DisplayBucket.grow (seconds : Nat) (confidence : ClassificationConfidence)
    (bucket : DisplayBucket) : DisplayBucket :=
  { bucket with
    seconds := bucket.seconds + seconds
    confidence := weakerConfidence bucket.confidence confidence }

/-- An event adds its seconds to the bucket of its stable id and category. -/
def bucketEvent (texts : ChartTexts) (buckets : BucketMap) (event : RawEventEntry)
    (seconds : Nat) : BucketMap :=
  let category := if event.confident then event.category else "UNCLASSIFIED"
  let label :=
    if event.confident then
      (event.localDisplayLabel.filter fun label => trimText label != "").getD
        (friendlyCategory texts.toUppercase category)
    else "Unclassified"
  let confidence := parseConfidence event.classificationConfidence
  upsertBucket (event.stableId, category)
    { label := label
      representativeEventId := some event.eventId
      stableId := some event.stableId
      suggestedName := event.localNameSuggestion
      aliasConfirmed := event.classificationSource == "user_rule"
      category := category
      seconds := 0
      confidence := confidence }
    (DisplayBucket.grow seconds confidence) buckets

def addBuckets (texts : ChartTexts) (start finish : Int) :
    BucketMap → List RawEventEntry → BucketMap
  | buckets, [] => buckets
  | buckets, event :: later =>
    match measuredSpan event (firstInstant later) start finish with
    | none => addBuckets texts start finish buckets later
    | some span =>
      let seconds := spanSeconds span
      if seconds = 0 ∨ eqIgnoreAsciiCase event.category "SYSTEM" then
        addBuckets texts start finish buckets later
      else
        addBuckets texts start finish (bucketEvent texts buckets event seconds) later

/-- More seconds first, and labels in order. -/
def LargerBucket (left right : DisplayBucket) : Prop :=
  right.seconds < left.seconds ∨ right.seconds = left.seconds ∧ left.label ≤ right.label
  deriving Decidable

def DisplayBucket.isTiny (bucket : DisplayBucket) (activeSeconds : Nat) : Bool :=
  decide (bucket.seconds < tinySegmentSeconds) ||
    (decide (0 < activeSeconds) &&
      decide (bucket.seconds * 100 < activeSeconds * minorSegmentPercent))

def selectBuckets (activeSeconds : Nat) : List DisplayBucket → Nat → List DisplayBucket →
    List DisplayBucket × Nat
  | selected, otherSeconds, [] => (selected, otherSeconds)
  | selected, otherSeconds, bucket :: rest =>
    if bucket.isTiny activeSeconds ∨ maxDisplayBuckets ≤ selected.length then
      selectBuckets activeSeconds selected (otherSeconds + bucket.seconds) rest
    else
      selectBuckets activeSeconds (selected ++ [bucket]) otherSeconds rest

def otherBucket (otherSeconds : Nat) : DisplayBucket where
  label := "Other"
  representativeEventId := none
  stableId := none
  suggestedName := none
  aliasConfirmed := false
  category := "OTHER"
  seconds := otherSeconds
  confidence := .none

/-- The buckets of the chart, `Other` last. -/
def displayBuckets (activeSeconds : Nat) (buckets : List DisplayBucket) : List DisplayBucket :=
  let (selected, otherSeconds) := selectBuckets activeSeconds [] 0 buckets
  if 0 < otherSeconds then selected ++ [otherBucket otherSeconds] else selected

def bucketPercentages (buckets : List DisplayBucket) (totalSeconds : Nat) : List Nat :=
  if totalSeconds = 0 then List.replicate buckets.length 0
  else LargestRemainder.apportion 100 totalSeconds (buckets.map (·.seconds))

def activeSeconds (segments : List LocalTimelineSegment) : Nat :=
  ((segments.filter fun segment => !eqIgnoreAsciiCase segment.category "SYSTEM").map
    segmentSeconds).sum

def meaningfulSegments (segments : List LocalTimelineSegment) : List LocalTimelineSegment :=
  segments.filter fun segment => isMeaningfulCategory segment.category

def dayCoverage (classifiedSeconds activeSeconds : Nat) (truncated : Bool) :
    LocalDashboardCoverage :=
  if activeSeconds = 0 then .noData
  else if truncated ∨ 4 * classifiedSeconds < 3 * activeSeconds then .partialCoverage
  else .good

/-- `max_by_key`: of equal ones the last. -/
def longestSegment (segments : List LocalTimelineSegment) : Option LocalTimelineSegment :=
  segments.foldl (fun longest segment =>
    match longest with
    | none => some segment
    | some best => if segmentSeconds best ≤ segmentSeconds segment then some segment else longest)
    none

def twoDigits (value : Nat) : String :=
  if value < 10 then "0" ++ toString value else toString value

def clockLabel (instant : Int) : String :=
  let seconds := (timestamp instant % 86400).toNat
  twoDigits (seconds / 3600) ++ ":" ++ twoDigits (seconds / 60 % 60)

def confidenceLabel : ClassificationConfidence → String
  | .high => "high"
  | .medium => "medium"
  | .low => "low"
  | .none => "no"

def bucketExplanation (texts : ChartTexts) (clusters : List LocalSwitchingCluster)
    (longest : Option LocalTimelineSegment) (category : String) : Option String :=
  ((clusters.find? fun cluster => cluster.categories.contains category).map fun cluster =>
      cluster.explanation ++ " Evidence window " ++ clockLabel cluster.startedAt ++ "–" ++
        clockLabel cluster.endedAt ++ " UTC; category confidence is " ++
        confidenceLabel cluster.confidence ++ ".").or
    ((longest.filter fun segment => segment.category == category).map fun segment =>
      "One sustained " ++ toAsciiLowercase (friendlyCategory texts.toUppercase category) ++
        " block lasted " ++ plainDuration (segmentSeconds segment) ++ "; evidence window " ++
        clockLabel segment.startedAt ++ "–" ++ clockLabel segment.endedAt ++ " UTC with " ++
        confidenceLabel segment.confidence ++ " confidence.")

def renderedSegment (texts : ChartTexts) (date : Int) (clusters : List LocalSwitchingCluster)
    (longest : Option LocalTimelineSegment) (bucket : DisplayBucket) (percentage index : Nat) :
    LocalDailyActivitySegment where
  id := texts.dateText date ++ "-segment-" ++ toString index ++ "-" ++
    toAsciiLowercase bucket.category
  label := bucket.label
  representativeEventId := bucket.representativeEventId.bind texts.parseUuid
  stableId := bucket.stableId
  suggestedName := bucket.suggestedName
  aliasConfirmed := bucket.aliasConfirmed
  category := bucket.category
  durationSeconds := bucket.seconds
  percentage := percentage
  confidence := bucket.confidence
  explanation := bucketExplanation texts clusters longest bucket.category

def dayBuckets (texts : ChartTexts) (events : List RawEventEntry) (start finish : Int) :
    List DisplayBucket :=
  ((addBuckets texts start finish [] (events.insertionSort Earlier)).map Prod.snd).insertionSort
    LargerBucket

def aggregateDay (texts : ChartTexts) (date : Int) (events : List RawEventEntry)
    (start finish : Int) (isToday truncated : Bool) : LocalDailyActivityDay :=
  let segments := buildSegments events start finish
  let active := activeSeconds segments
  let classified := ((meaningfulSegments segments).map segmentSeconds).sum
  let coverage := dayCoverage classified active truncated
  let selected := displayBuckets active (dayBuckets texts events start finish)
  let clusters := groupSwitchingClusters texts.toUppercase (buildTransitions segments)
  let longest := longestSegment (meaningfulSegments segments)
  { id := texts.dateText date
    date := date
    state :=
      if active = 0 then .noData
      else if isToday ∧ active < earlySignalRequiredSeconds then .stillBuilding
      else if coverage ≠ .good then .lowConfidence
      else .ready
    activeSeconds := active
    coverage := coverage
    segments := (selected.zip (bucketPercentages selected active)).zipIdx.map
      fun ((bucket, percentage), index) =>
        renderedSegment texts date clusters longest bucket percentage index }

inductive HistoryStatus
  | ready
  | noData

/-- The fields of a `DailySummary` that this Mac fills in. -/
structure LocalDailySummary where
  date : Int
  status : HistoryStatus
  eventCount : Nat
  confidenceLevel : ConfidenceLevel
  activeSeconds : Nat
  focusedSeconds : Nat
  meaningfulSwitchCount : Nat
  longestUninterruptedSeconds : Nat

def noDataSummary (date : Int) : LocalDailySummary where
  date := date
  status := .noData
  eventCount := 0
  confidenceLevel := .none
  activeSeconds := 0
  focusedSeconds := 0
  meaningfulSwitchCount := 0
  longestUninterruptedSeconds := 0

def segmentIsConfident (segment : LocalTimelineSegment) : Bool :=
  isConfident segment.category .classified segment.confidence

def workLane (category : String) : String :=
  if ["FOCUS_WORK", "TASK_MANAGEMENT"].contains category then "focus_work"
  else if category = "REFERENCE" then "development_work"
  else if category = "COMMUNICATION" then "communication"
  else if ["PASSIVE_CONSUMPTION", "SOCIAL_FEED"].contains category then "consumption"
  else category

/-- The loop of `longest_confident_run_seconds`, with the longest run, the last one and the
segment that it ends with. -/
def longestRunFrom (longest run : Nat) (previous : Option LocalTimelineSegment) :
    List LocalTimelineSegment → Nat
  | [] => longest
  | segment :: rest =>
    if segmentIsConfident segment then
      let continues := previous.any fun previous =>
        previous.category == segment.category &&
          decide (numSeconds (segment.startedAt - previous.endedAt) ≤ dwellSeamSeconds)
      let run := (if continues then run else 0) + segmentSeconds segment
      longestRunFrom (max longest run) run (some segment) rest
    else
      longestRunFrom longest run none rest

def longestConfidentRunSeconds (segments : List LocalTimelineSegment) : Nat :=
  longestRunFrom 0 0 none segments

def measuredCount (start finish : Int) : List RawEventEntry → Nat
  | [] => 0
  | event :: later =>
    (if (measuredSpan event (firstInstant later) start finish).isSome then 1 else 0) +
      measuredCount start finish later

def localDailySummary (date : Int) (events : List RawEventEntry) (start finish : Int) :
    LocalDailySummary :=
  let segments := buildSegments events start finish
  let active := activeSeconds segments
  if active < localReadyMinActiveSeconds then noDataSummary date
  else
    let confident := segments.filter segmentIsConfident
    { date := date
      status := .ready
      eventCount := measuredCount start finish (events.insertionSort Earlier)
      confidenceLevel := .low
      activeSeconds := active
      focusedSeconds := ((confident.filter fun segment =>
        ["focus_work", "development_work"].contains (workLane segment.category)).map
          segmentSeconds).sum
      meaningfulSwitchCount := ((confident.zip confident.tail).filter fun pair =>
        workLane pair.1.category != workLane pair.2.category &&
          decide (numSeconds (pair.2.startedAt - pair.1.endedAt) ≤ sessionGapSeconds)).length
      longestUninterruptedSeconds := longestConfidentRunSeconds segments }

end Velvt.Dashboard
