import Mathlib.Data.List.Sort
import Velvt.WorkBlockTiming

/-!
# Evidence functions of the work block

Which observations count, where an open observation ends at a block boundary,
how much of a block a reported dwell covered, which category is the anchor, and
how many departures from it the drift gate counts.
-/

namespace Velvt

def toAsciiLowercase (text : String) : String :=
  String.ofList (text.toList.map Char.toLower)

def eqIgnoreAsciiCase (first second : String) : Bool :=
  toAsciiLowercase first == toAsciiLowercase second

def isConfident (category : String) (status : ClassificationStatus)
    (confidence : ClassificationConfidence) : Bool :=
  status == .classified &&
    (confidence == .high || confidence == .medium) &&
    !(["system", "unclassified", "unlogged"].contains (toAsciiLowercase category))

variable {resolution : Resolution}

/-- True when an observation is strong enough to count as evidence. -/
def isConfidentEvidence (observation : WorkBlockObservation resolution) : Bool :=
  isConfident observation.category observation.classificationStatus
    observation.classificationConfidence

/-- The category, status and confidence a snapshot shows for the latest
observation. -/
def currentEvidence (observation : Option (WorkBlockObservation resolution)) :
    Option String × ClassificationStatus × ClassificationConfidence :=
  match observation with
  | none => (none, .unclassified, .none)
  | some observation =>
    let isSafe := observation.classificationStatus == .classified &&
      (observation.classificationConfidence == .high ||
        observation.classificationConfidence == .medium)
    (if isSafe then some observation.category else none,
      observation.classificationStatus, observation.classificationConfidence)

/-- Where the open row's own dwell ended, no later than the boundary. -/
def reportedEnd (openRow : WorkBlockObservation .nanoseconds)
    (reported : List ReportedDwell) (boundary : Int) : Int :=
  let ends := reported.filter fun dwell =>
    dwell.category == openRow.category &&
      dwell.classificationStatus == openRow.classificationStatus &&
      dwell.classificationConfidence == openRow.classificationConfidence
  let ends := ends.map fun dwell => min dwell.endedAt boundary
  let ends := ends.filter fun endedAt => decide (openRow.occurredAt < endedAt)
  ends.max?.getD openRow.occurredAt

/-- A half-open span of time, as its two ends. -/
abbrev Span := Int × Int

/-- The order of `Vec::sort` on spans. -/
def spanBefore (first second : Span) : Prop :=
  first.1 < second.1 ∨ (first.1 = second.1 ∧ first.2 ≤ second.2)
  deriving Decidable

/-- The merging loop: `last` is the span being extended. -/
def mergeInto (last : Span) : List Span → List Span
  | [] => [last]
  | (start, finish) :: rest =>
    if start ≤ last.2 then
      mergeInto (last.1, max last.2 finish) rest
    else
      last :: mergeInto (start, finish) rest

/-- Clips each span to `[from, until)`, drops the empty ones, and merges the
rest into sorted, disjoint spans. -/
def mergedSpans (spans : List Span) (fromInstant untilInstant : Int) : List Span :=
  let clipped := spans.map fun span =>
    (max span.1 fromInstant, min span.2 untilInstant)
  let clipped := clipped.filter fun span => decide (span.1 < span.2)
  match clipped.insertionSort spanBefore with
  | [] => []
  | first :: rest => mergeInto first rest

/-- Seconds shared by two spans, as one pass of the coverage loop adds
them. -/
def overlapSeconds (left right : Span) : Int :=
  let start := max left.1 right.1
  let finish := min left.2 right.2
  if start < finish then numSeconds (finish - start) else 0

/-- The passes of the coverage loop that keep one `seen` span: the seconds they
add, and the `running` spans left when the loop moves to the next one. -/
def coverOne (left : Span) : List Span → Int × List Span
  | [] => (0, [])
  | right :: rest =>
    if left.2 < right.2 then
      (overlapSeconds left right, right :: rest)
    else
      let later := coverOne left rest
      (overlapSeconds left right + later.1, later.2)

def coveredLoop : List Span → List Span → Int
  | [], _ => 0
  | left :: rest, running =>
    let passes := coverOne left running
    passes.1 + coveredLoop rest passes.2

/-- Seconds of `[startedAt, endedAt)` that a reported dwell covered with
confident evidence while the block had a ledger row open. -/
def reportedCoverageSeconds (reported : List ReportedDwell)
    (observations : List (WorkBlockObservation .nanoseconds)) (startedAt endedAt : Int) : Nat :=
  let confident := reported.filter fun dwell =>
    isConfident dwell.category dwell.classificationStatus dwell.classificationConfidence
  let seen := mergedSpans
    (confident.map fun dwell => (dwell.occurredAt, dwell.endedAt))
    startedAt endedAt
  let running := mergedSpans
    (observations.filterMap fun observation =>
      observation.endedAt.map fun observationEnd =>
        (observation.occurredAt, observationEnd))
    startedAt endedAt
  (min (max (coveredLoop seen running) 0) u32Max).toNat

/-- The seconds map of both category counts: each entry of `durations` is added
to its category, saturating. -/
def addSeconds (totals : List (String × Nat)) (category : String) (seconds : Nat) :
    List (String × Nat) :=
  if totals.any (fun entry => entry.1 == category) then
    totals.map fun entry =>
      if entry.1 == category then (entry.1, saturatingAdd entry.2 seconds) else entry
  else
    totals ++ [(category, saturatingAdd 0 seconds)]

def categorySeconds (durations : List (String × Nat)) : List (String × Nat) :=
  durations.foldl (fun totals entry => addSeconds totals entry.1 entry.2) []

/-- True when `max_by` moves on from `best` to `entry`: more seconds, or as many
and a name no later in the alphabet.  Names are distinct, so the iteration order
of the hash map does not show. -/
def outranks (best entry : String × Nat) : Bool :=
  decide (best.2 < entry.2) || (best.2 == entry.2 && !decide (best.1 < entry.1))

def maxBySeconds (totals : List (String × Nat)) : Option (String × Nat) :=
  totals.foldl (fun best entry =>
    match best with
    | none => some entry
    | some best => if outranks best entry then some entry else some best) none

/-- Closed, confident observations of at least one second, with their
lengths. -/
def observedSeconds (observations : List (WorkBlockObservation .nanoseconds)) :
    List (String × Nat) :=
  observations.filterMap fun observation =>
    observation.endedAt.bind fun endedAt =>
      let seconds := positiveSeconds (endedAt - observation.occurredAt)
      if isConfidentEvidence observation && decide (0 < seconds) then
        some (observation.category, seconds)
      else
        none

/-- The category holding the most confidently observed time so far. -/
def dominantCategory (observations : List (WorkBlockObservation .nanoseconds)) :
    Option String :=
  (maxBySeconds (categorySeconds (observedSeconds observations))).map Prod.fst

/-- The state of the departure loop of the drift gate. -/
structure DepartureScan where
  previousWasAnchor : Option Bool
  switchCount : Nat

def DepartureScan.step (scan : DepartureScan) (isAnchor : Bool) : DepartureScan where
  previousWasAnchor := some isAnchor
  switchCount :=
    if !isAnchor && scan.previousWasAnchor == some true then
      saturatingAdd scan.switchCount 1
    else
      scan.switchCount

/-- The departure loop of the drift gate: confident observations inside the
window, seeded from the last confident one before it. -/
def departureScan (observations : List (WorkBlockObservation .nanoseconds))
    (anchor : String) (windowStart : Int) : DepartureScan :=
  let before := observations.filter fun observation =>
    decide (observation.occurredAt < windowStart)
  let inside := observations.filter fun observation =>
    decide (windowStart ≤ observation.occurredAt)
  let isAnchor := fun observation : WorkBlockObservation .nanoseconds =>
    eqIgnoreAsciiCase observation.category anchor
  let seed := (before.filter isConfidentEvidence).getLast?.map isAnchor
  ((inside.filter isConfidentEvidence).map isAnchor).foldl DepartureScan.step ⟨seed, 0⟩

end Velvt
