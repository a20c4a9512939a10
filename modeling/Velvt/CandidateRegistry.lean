import Mathlib.Data.List.Basic

/-!
# The registry of antecedents

A closed list of what may precede an episode. For the features of one episode, an antecedent is
present, absent, or not observed at all.
-/

namespace Velvt.Antecedents

def CATEGORIES : List String :=
  ["FOCUS_WORK", "PASSIVE_CONSUMPTION", "SOCIAL_FEED", "COMMUNICATION", "TASK_MANAGEMENT",
    "REFERENCE", "SYSTEM", "UNLOGGED"]

def CANDIDATE_REGISTRY_VERSION : Nat := 1

def TIME_OF_DAY_BINS : Nat := 8

def CATEGORY_COUNT : Nat := CATEGORIES.length

def BLOCK_ELAPSED_BINS : Nat := 4

def BLOCK_PHASES : List String := ["active", "paused", "completed", "abandoned", "expired"]

def INTERVENTION_OUTCOMES : List String :=
  ["offered", "accepted_action", "returned", "not_helpful", "wrong_classification",
    "was_focused", "dismissed", "delivery_suppressed_dnd", "no_response"]

def RUN_INDEX_BINS : Nat := 3

def GAP_BINS : Nat := 3

def OUTCOME_COUNT : Nat := 1

def HORIZON_COUNT : Nat := 1

def OUTCOME_ID : String := "no_confident_anchor_within_horizon"

def HORIZON_SECONDS : Int := 600

inductive Presence where
  | present
  | absent
  | unobserved
deriving DecidableEq

/-- What the registry reads of an episode. -/
structure EpisodeFeatures where
  localHour : Nat
  weekend : Bool
  precedingCategory : Option Nat
  precedingTransition : Option (Nat × Nat)
  blockElapsedSeconds : Int
  focusActive : Bool
  priorBlockPhase : Option Nat
  priorInterventionOutcome : Option Nat
  runIndex : Nat
  gapSeconds : Option Int
deriving DecidableEq

/-- One registered antecedent. -/
inductive Candidate where
  | timeOfDay (bin : Nat)
  | dayType (weekend : Bool)
  | precedingCategory (category : Nat)
  | precedingTransition (source target : Nat)
  | blockElapsed (bin : Nat)
  | focusActive (active : Bool)
  | priorBlockPhase (phase : Nat)
  | priorInterventionOutcome (outcome : Nat)
  | runIndex (bin : Nat)
  | gap (bin : Nat)
deriving DecidableEq

def BLOCK_ELAPSED_EDGES : List Int := [600, 1500, 2700]

def RUN_INDEX_EDGES : List Nat := [3, 8]

def GAP_EDGES : List Int := [60, 300]

def binI64 (value : Int) (edges : List Int) : Nat :=
  edges.foldl (fun bin edge => if edge ≤ value then bin + 1 else bin) 0

def binU32 (value : Nat) (edges : List Nat) : Nat :=
  edges.foldl (fun bin edge => if edge ≤ value then bin + 1 else bin) 0

def twoDigits (number : Nat) : String :=
  if number < 10 then "0" ++ toString number else toString number

namespace Candidate

def id : Candidate → String
  | timeOfDay bin => "tod_" ++ twoDigits (bin * 3) ++ "_" ++ twoDigits (bin * 3 + 3)
  | dayType weekend => "daytype_" ++ if weekend then "weekend" else "weekday"
  | precedingCategory category => "prevcat_" ++ CATEGORIES.getD category ""
  | precedingTransition source target =>
    "prevtrans_" ++ CATEGORIES.getD source "" ++ "__" ++ CATEGORIES.getD target ""
  | blockElapsed bin => "elapsed_" ++ toString bin
  | focusActive active => "focus_" ++ if active then "active" else "inactive"
  | priorBlockPhase phase => "priorphase_" ++ BLOCK_PHASES.getD phase ""
  | priorInterventionOutcome outcome => "prioroutcome_" ++ INTERVENTION_OUTCOMES.getD outcome ""
  | runIndex bin => "runidx_" ++ toString bin
  | gap bin => "gap_" ++ toString bin

def fromBool (isMatch : Bool) : Presence :=
  if isMatch then .present else .absent

def presence (candidate : Candidate) (features : EpisodeFeatures) : Presence :=
  match candidate with
  | timeOfDay bin => fromBool (features.localHour / 3 == bin)
  | dayType weekend => fromBool (features.weekend == weekend)
  | precedingCategory category =>
    match features.precedingCategory with
    | some observed => fromBool (observed == category)
    | none => .unobserved
  | precedingTransition source target =>
    match features.precedingTransition with
    | some observed => fromBool (observed == (source, target))
    | none => .unobserved
  | blockElapsed bin =>
    fromBool (binI64 features.blockElapsedSeconds BLOCK_ELAPSED_EDGES == bin)
  | focusActive active => fromBool (features.focusActive == active)
  | priorBlockPhase phase =>
    match features.priorBlockPhase with
    | some observed => fromBool (observed == phase)
    | none => .unobserved
  | priorInterventionOutcome outcome =>
    match features.priorInterventionOutcome with
    | some observed => fromBool (observed == outcome)
    | none => .unobserved
  | runIndex bin => fromBool (binU32 features.runIndex RUN_INDEX_EDGES == bin)
  | gap bin =>
    match features.gapSeconds with
    | some seconds => fromBool (binI64 seconds GAP_EDGES == bin)
    | none => .unobserved

end Candidate

def registry : List Candidate :=
  (List.range TIME_OF_DAY_BINS).map .timeOfDay ++
  [.dayType false, .dayType true] ++
  (List.range CATEGORY_COUNT).map .precedingCategory ++
  (List.range CATEGORY_COUNT).flatMap (fun source =>
    (List.range CATEGORY_COUNT).map (.precedingTransition source)) ++
  (List.range BLOCK_ELAPSED_BINS).map .blockElapsed ++
  [.focusActive false, .focusActive true] ++
  (List.range BLOCK_PHASES.length).map .priorBlockPhase ++
  (List.range INTERVENTION_OUTCOMES.length).map .priorInterventionOutcome ++
  (List.range RUN_INDEX_BINS).map .runIndex ++
  (List.range GAP_BINS).map .gap

def CANDIDATE_COUNT : Nat :=
  TIME_OF_DAY_BINS + 2 + CATEGORY_COUNT + CATEGORY_COUNT * CATEGORY_COUNT + BLOCK_ELAPSED_BINS + 2 +
    BLOCK_PHASES.length + INTERVENTION_OUTCOMES.length + RUN_INDEX_BINS + GAP_BINS

/-- The size of the family that every analysis is corrected for. -/
def FAMILY_SIZE : Nat := CANDIDATE_COUNT * OUTCOME_COUNT * HORIZON_COUNT

theorem length_registry : registry.length = FAMILY_SIZE := by
  decide +kernel

end Velvt.Antecedents
