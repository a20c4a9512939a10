import Velvt.WorkBlockEvidence

/-!
# Reviewed copy of the work block

Every sentence the work-block manager renders, with the seed that picks the wording of an offer.
Categories are the ASCII names of the taxonomy, so capitalizing one is capitalizing its first ASCII
letter.
-/

namespace Velvt

def driftActionId : String := "protect_next_10"

def softRestartActionId : String := "soft_restart_10"

def softRestartLabel : String := "Want back in? 10-minute soft restart."

def driftProtectMinutes : Nat := 10

def driftWindowSeconds : Nat := 10 * 60

def driftTitles : List String :=
  ["Your work block is running",
    "You are in a work block",
    "Your work block has time left",
    "The block you started is open"]

/-- `replace('_', " ")` followed by `to_ascii_lowercase`. -/
def spacedLowercase (category : String) : String :=
  toAsciiLowercase (category.map fun letter => if letter == '_' then ' ' else letter)

def friendlyCategory (category : String) : String :=
  let words := ((spacedLowercase category).splitToList Char.isWhitespace).filter
    (fun word => !word.isEmpty)
  match words with
  | [] => ""
  | first :: rest => " ".intercalate (first.capitalize :: rest)

def roundedMinutes (seconds : Nat) : Nat := saturatingAdd seconds 30 / 60

def plainMinutes (minutes : Nat) : String :=
  if minutes = 1 then "1 minute" else s!"{minutes} minutes"

def copySeedFrom (parts : List (List UInt8)) : UInt64 :=
  parts.flatten.foldl
    (fun hash byte => (hash ^^^ byte.toUInt64) * 0x00000100000001b3)
    0xcbf29ce484222325

/-- The bytes of an integer of `width` bytes, least significant first. -/
def leBytes (width : Nat) (value : Int) : List UInt8 :=
  (List.range width).map fun index =>
    UInt8.ofNat ((value / (256 : Int) ^ index) % 256).toNat

/-- The canonical text of an identifier: 32 hexadecimal digits in five
groups. -/
def Uuid.text (id : Uuid) : String :=
  let digits := (List.range 32).map fun index =>
    Nat.digitChar (id.toNat / 16 ^ (31 - index) % 16)
  let group (start length : Nat) := String.ofList ((digits.drop start).take length)
  "-".intercalate [group 0 8, group 8 4, group 12 4, group 16 4, group 20 12]

def copySeed (blockId : Uuid) (switchCount : Nat) (offeredAt : Int) : UInt64 :=
  copySeedFrom
    [(Uuid.text blockId).toUTF8.toList, leBytes 4 switchCount, leBytes 8 (timestamp offeredAt)]

def driftTitle (seed : UInt64) : String :=
  driftTitles.getD (seed % 4).toNat ""

def driftBody (seed : UInt64) (switchCount : Nat) (anchor : String) : String :=
  let minutes := driftWindowSeconds / 60
  let anchor := spacedLowercase anchor
  let protect := driftProtectMinutes
  match ((seed / 4) % 4).toNat with
  | 0 => s!"Velvt observed {switchCount} switches away from {anchor} in the last {minutes} minutes. Protect the next {protect} minutes for the work you chose."
  | 1 => s!"{switchCount} switches away from {anchor} in the last {minutes} minutes. The next {protect} minutes can be held for the work you chose."
  | 2 => s!"In the last {minutes} minutes, Velvt counted {switchCount} switches away from {anchor}. Hold the next {protect} minutes for the work you chose."
  | _ => s!"Velvt counted {switchCount} switches away from {anchor} over the last {minutes} minutes. The next {protect} minutes are yours to protect."

def statusLine (phase : WorkBlockPhase) (intensity : WorkBlockIntensity)
    (category : Option String) (status : ClassificationStatus) : String :=
  match phase with
  | .paused => "Paused. Resume when you are ready."
  | .completed => "The planned work block is complete."
  | .abandoned =>
    "This block ended early; the result uses only observed activity."
  | .expired =>
    "The block expired while timing was uncertain; the result is marked accordingly."
  | .idle => "Choose one bounded block to begin."
  | .active =>
    if status != .classified || category.isNone then
      "The current activity is unclear; Velvt is not guessing."
    else
      let category := friendlyCategory (category.getD "")
      match intensity with
      | .light => s!"Current category: {category}."
      | .medium => s!"Current safe category: {category}."
      | .intense =>
        s!"Current category: {category}. Intense mode uses the same calm evidence rules."

def lowCoverageResultCopy : String :=
  "Too much of this block was outside what Velvt can categorize. There's nothing honest to say about it."

def blockResultCopy (coverage : WorkBlockCoverage) (anchor : Option String)
    (switchAways recoveries longestSeconds coveredSeconds elapsedSeconds : Nat) :
    String :=
  if coverage = .insufficient then lowCoverageResultCopy else
  match anchor with
  | none => lowCoverageResultCopy
  | some anchor =>
    let anchor := toAsciiLowercase (friendlyCategory anchor)
    let longest := plainMinutes (roundedMinutes longestSeconds)
    if switchAways = 0 then
      let coveredMinutes := roundedMinutes coveredSeconds
      let covered := plainMinutes coveredMinutes
      if coveredMinutes < roundedMinutes elapsedSeconds then
        s!"You stayed on {anchor} for all {covered} of this block that Velvt could categorize."
      else
        s!"You stayed on {anchor} for all {covered} of this block."
    else
      let left := if switchAways = 1 then "once" else s!"{switchAways} times"
      if recoveries = 0 then
        s!"You left {anchor} {left} and the block ended somewhere else. Longest run: {longest}."
      else
        let cameBack :=
          if switchAways = 1 then "came back" else s!"came back {recoveries} of them"
        s!"You left {anchor} {left} and {cameBack}. The longest single run was {longest}."

def recoveryLabel : Option WorkBlockPurpose → String
  | some .deepWork => "Protect the next 10 minutes for deep work."
  | some .study => "Protect the next 10 minutes for study."
  | some .creativePractice => "Protect the next 10 minutes for creative practice."
  | some .healthyTechUse => "Protect the next 10 minutes for healthy tech use."
  | some .workLifeBoundary =>
    "Protect the next 10 minutes for your work-life boundary."
  | none => "Protect the next 10 minutes."

def dndReconciliationCopy (completedUnderDnd : Bool) (heldCount : Nat) :
    Option String :=
  let held :=
    match heldCount with
    | 0 => none
    | 1 => some "Velvt held 1 nudge and delivered nothing mid-block"
    | count => some s!"Velvt held {count} nudges and delivered nothing mid-block"
  match completedUnderDnd, held with
  | true, some held =>
    some s!"Do Not Disturb was on and the block completed as planned; {held}."
  | true, none => some "Do Not Disturb was on and the block completed as planned."
  | false, some held => some s!"Do Not Disturb was on for part of this block; {held}."
  | false, none => none

def demotionDisclosureCopy : String :=
  "Velvt is getting these nudges wrong too often, so it has gone quiet: no nudges will be sent for now, and you can resume them at any time."

/-- White space, as `str::trim` reads it. -/
def isWhiteSpace (letter : Char) : Bool :=
  let code := letter.toNat
  (9 ≤ code && code ≤ 13) || code == 0x20 || code == 0x85 || code == 0xA0 ||
    code == 0x1680 || (0x2000 ≤ code && code ≤ 0x200A) || code == 0x2028 ||
    code == 0x2029 || code == 0x202F || code == 0x205F || code == 0x3000

def trimText (text : String) : String :=
  let front := text.toList.dropWhile isWhiteSpace
  String.ofList (front.reverse.dropWhile isWhiteSpace).reverse

def normalizeIntention (intention : Option String) :
    Except WorkBlockError (Option String) :=
  match intention with
  | none => .ok none
  | some value =>
    let trimmed := trimText value
    if trimmed.isEmpty then
      .ok none
    else if 120 < trimmed.length || trimmed.contains '\n' || trimmed.contains '\r' then
      .error .invalidRequest
    else
      .ok (some trimmed)

end Velvt
