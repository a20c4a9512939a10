import Velvt.IntervalMerging
import Velvt.WorkBlockCopy

/-!
# The local dashboard

What the dashboard derives from the stored events: the timeline of a window, its transitions and
the clusters of them.  An event is stored with whole seconds, and the bounds of a window are
instants.  `toUppercase` is `char::to_uppercase`.
-/

namespace Velvt.Dashboard

def minWindowSeconds : Nat := 60

def maxWindowSeconds : Nat := 60 * 60

def maxWindowEvents : Nat := 512

def maxEventDurationSeconds : Int := 30 * 60

def switchingClusterRuleVersion : Nat := 1

def switchingClusterMinTransitions : Nat := 3

def switchingClusterWindowSeconds : Int := 5 * 60

/-- The fields of a stored event that the dashboard reads. -/
structure RawEventEntry where
  eventId : String
  stableId : String
  localDisplayLabel : Option String
  localNameSuggestion : Option String
  category : String
  classificationStatus : String
  classificationConfidence : String
  classificationSource : String
  /-- In whole seconds. -/
  occurredAt : Int
  durationSeconds : Nat

def RawEventEntry.instant (event : RawEventEntry) : Int := fromTimestamp event.occurredAt

/-- `ORDER BY occurred_at`. -/
def Earlier (first second : RawEventEntry) : Prop := first.occurredAt ≤ second.occurredAt
  deriving Decidable

def eventsBetween (buffer : List RawEventEntry) (start finish : Int) (limit : Nat) :
    List RawEventEntry :=
  if finish ≤ start ∨ limit = 0 then []
  else
    ((buffer.filter fun event => decide (timestamp start ≤ event.occurredAt) &&
      decide (event.occurredAt ≤ timestamp finish)).insertionSort Earlier).take limit

def toAsciiUppercase (text : String) : String :=
  String.ofList (text.toList.map Char.toUpper)

def RawEventEntry.confident (event : RawEventEntry) : Bool :=
  event.classificationStatus == "classified" &&
    ["high", "medium"].contains event.classificationConfidence

def safeCategory (event : RawEventEntry) : String :=
  if event.confident then toAsciiUppercase event.category else "UNCLASSIFIED"

def isMeaningfulCategory (category : String) : Bool :=
  !(["UNCLASSIFIED", "SYSTEM", "IDLE", "UNLOGGED"].contains (toAsciiUppercase category))

def parseConfidence (value : String) : ClassificationConfidence :=
  if value = "high" then .high
  else if value = "medium" then .medium
  else if value = "low" then .low
  else .none

def confidenceRank : ClassificationConfidence → Nat
  | .none => 0
  | .low => 1
  | .medium => 2
  | .high => 3

def weakerConfidence (left right : ClassificationConfidence) : ClassificationConfidence :=
  if confidenceRank left ≤ confidenceRank right then left else right

structure LocalTimelineSegment where
  id : String
  startedAt : Int
  endedAt : Int
  category : String
  confidence : ClassificationConfidence

/-- `i64::MAX`. -/
def i64Max : Nat := 9223372036854775807

/-- The reported duration, as `measured_span` reads it. -/
def reportedDuration (event : RawEventEntry) : Int :=
  if event.durationSeconds ≤ i64Max then event.durationSeconds else 1800

/-- The part of the window that an event was on screen, given the instant of the next. -/
def measuredSpan (event : RawEventEntry) (next : Option Int) (windowStart windowEnd : Int) :
    Option (Int × Int) :=
  let startedAt := max event.instant windowStart
  let nextAt := next.getD windowEnd
  let measuredEnd :=
    if 0 < event.durationSeconds then event.instant + Duration.seconds (reportedDuration event)
    else nextAt
  let endedAt := min (min measuredEnd nextAt) windowEnd
  if startedAt < endedAt then some (startedAt, endedAt) else none

def firstInstant (events : List RawEventEntry) : Option Int :=
  events.head?.map RawEventEntry.instant

def addSpan (segments : List LocalTimelineSegment) (event : RawEventEntry) (span : Int × Int) :
    List LocalTimelineSegment :=
  let category := safeCategory event
  let confidence := parseConfidence event.classificationConfidence
  let fresh : LocalTimelineSegment :=
    { id := "segment-" ++ toString (timestamp span.1) ++ "-" ++ toString segments.length
      startedAt := span.1
      endedAt := span.2
      category := category
      confidence := confidence }
  match segments.getLast? with
  | none => [fresh]
  | some previous =>
    if previous.category = category ∧ span.1 ≤ previous.endedAt then
      segments.dropLast ++
        [{ previous with
          endedAt := max previous.endedAt span.2
          confidence := weakerConfidence previous.confidence confidence }]
    else
      segments ++ [fresh]

/-- The loop of `build_segments`, over events that are sorted. -/
def addSegments (windowStart windowEnd : Int) :
    List LocalTimelineSegment → List RawEventEntry → List LocalTimelineSegment
  | segments, [] => segments
  | segments, event :: later =>
    match measuredSpan event (firstInstant later) windowStart windowEnd with
    | none => addSegments windowStart windowEnd segments later
    | some span => addSegments windowStart windowEnd (addSpan segments event span) later

def buildSegments (events : List RawEventEntry) (windowStart windowEnd : Int) :
    List LocalTimelineSegment :=
  addSegments windowStart windowEnd [] (events.insertionSort Earlier)

def segmentSeconds (segment : LocalTimelineSegment) : Nat :=
  (max (numSeconds (segment.endedAt - segment.startedAt)) 0).toNat

/-- The window of a snapshot, and its timeline. -/
structure LocalDashboardSnapshot where
  generatedAt : Int
  windowStart : Int
  windowEnd : Int
  segments : List LocalTimelineSegment

/-- The part of `snapshot` that reads the window. -/
def snapshot (buffer : List RawEventEntry) (now : Int) (requestedWindowSeconds : Nat) :
    LocalDashboardSnapshot :=
  let windowSeconds := max minWindowSeconds (min requestedWindowSeconds maxWindowSeconds)
  let windowStart := now - Duration.seconds windowSeconds
  let events := eventsBetween buffer (windowStart - Duration.seconds maxEventDurationSeconds) now
    maxWindowEvents
  { generatedAt := now
    windowStart := windowStart
    windowEnd := now
    segments := buildSegments events windowStart now }

structure LocalTransitionMarker where
  id : String
  occurredAt : Int
  fromCategory : String
  toCategory : String
  confidence : ClassificationConfidence

def buildTransitions (segments : List LocalTimelineSegment) : List LocalTransitionMarker :=
  let meaningful := segments.filter fun segment => isMeaningfulCategory segment.category
  let changes := (meaningful.zip meaningful.tail).filter fun pair =>
    !eqIgnoreAsciiCase pair.1.category pair.2.category
  changes.zipIdx.map fun (pair, index) =>
    { id := "transition-" ++ toString (timestamp pair.2.startedAt) ++ "-" ++ toString index
      occurredAt := pair.2.startedAt
      fromCategory := pair.1.category
      toCategory := pair.2.category
      confidence := weakerConfidence pair.1.confidence pair.2.confidence }

structure LocalSwitchingCluster where
  id : String
  ruleVersion : Nat
  startedAt : Int
  endedAt : Int
  transitionCount : Nat
  categories : List String
  confidence : ClassificationConfidence
  explanation : String

/-- The words of a text, as `split_whitespace` reads them. -/
def splitWhitespace (text : List Char) : List (List Char) :=
  (text.splitOnP isWhiteSpace).filter fun word => !word.isEmpty

def friendlyCategory (toUppercase : Char → String) (category : String) : String :=
  let spaced := (toAsciiLowercase category).toList.map fun letter =>
    if letter = '_' then ' ' else letter
  let words := match splitWhitespace spaced with
    | [] => []
    | [] :: rest => "" :: rest.map String.ofList
    | (first :: letters) :: rest =>
      (toUppercase first ++ String.ofList letters) :: rest.map String.ofList
  " ".intercalate words

def friendlyList (toUppercase : Char → String) (categories : List String) : String :=
  let values := categories.map fun value =>
    toAsciiLowercase (friendlyCategory toUppercase value)
  match values with
  | [] => "classified activity"
  | [one] => one
  | [first, second] => first ++ " and " ++ second
  | values => ", ".intercalate values.dropLast ++ ", and " ++ values.getLastD ""

def plainDuration (seconds : Nat) : String :=
  if seconds < 60 then toString seconds ++ " seconds"
  else
    let minutes := (seconds + 30) / 60
    toString minutes ++ " minute" ++ if minutes = 1 then "" else "s"

/-- The transitions from one on that are no more than the window of a cluster later. -/
def switchingWindow (transitions : List LocalTransitionMarker) (start : Nat) : Option (Nat × Nat) :=
  match transitions.drop start with
  | [] => none
  | first :: later =>
    let finish := start + (later.takeWhile fun transition =>
      decide (numSeconds (transition.occurredAt - first.occurredAt) ≤
        switchingClusterWindowSeconds)).length
    if switchingClusterMinTransitions ≤ finish + 1 - start then some (start, finish) else none

def switchingGroups (transitions : List LocalTransitionMarker) : List (Nat × Nat) :=
  IntervalMerging.merge ((List.range transitions.length).filterMap (switchingWindow transitions))

def switchedCategories (transitions : List LocalTransitionMarker) : List String :=
  (transitions.flatMap fun transition => [transition.fromCategory, transition.toCategory]).foldl
    (fun categories category =>
      if categories.contains category then categories else categories ++ [category]) []

def switchingCluster (toUppercase : Char → String) (transitions : List LocalTransitionMarker)
    (group : Nat × Nat) (clusterIndex : Nat) : LocalSwitchingCluster :=
  let slice := (transitions.drop group.1).take (group.2 + 1 - group.1)
  let startedAt := (slice.head?.map (·.occurredAt)).getD 0
  let endedAt := (slice.getLast?.map (·.occurredAt)).getD 0
  let seconds := (max (numSeconds (endedAt - startedAt)) 0).toNat
  let categories := switchedCategories slice
  { id := "cluster-" ++ toString (timestamp startedAt) ++ "-" ++ toString clusterIndex
    ruleVersion := switchingClusterRuleVersion
    startedAt := startedAt
    endedAt := endedAt
    transitionCount := slice.length
    categories := categories
    confidence := slice.foldl (fun value transition => weakerConfidence value transition.confidence)
      .high
    explanation := toString slice.length ++ " switches in " ++ plainDuration seconds ++
      " between " ++ friendlyList toUppercase categories ++ "." }

def groupSwitchingClusters (toUppercase : Char → String)
    (transitions : List LocalTransitionMarker) : List LocalSwitchingCluster :=
  (switchingGroups transitions).zipIdx.map fun (group, index) =>
    switchingCluster toUppercase transitions group index

end Velvt.Dashboard
