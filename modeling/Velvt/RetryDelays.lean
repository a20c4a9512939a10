import Mathlib.Data.Rat.Floor
import Velvt.UploadTasks
import Velvt.WorkBlockCopy

/-!
# The delays of retries

How long a batch is put off: by the `Retry-After` header where there is one, otherwise by the
host's backoff.  The delay passes through a standard duration, a signed duration and an instant;
only an instant that does not fit makes the code panic.  `parseFromRfc2822` stands for the date
parser, and the rounding of floating-point numbers is a parameter with its laws.
-/

namespace Velvt

open Option

/-- The first and the last instant of `DateTime<Utc>`, in nanoseconds. -/
def dateTimeMin : Int := -8334601228800 * 1000000000

def dateTimeMax : Int := 8210266876799 * 1000000000 + 999999999

/-- The longest `TimeDelta`: as many milliseconds as 63 bits hold. -/
def timeDeltaMax : Int := 9223372036854775807 * 1000000

/-- `DateTime<Utc>`. -/
structure UtcInstant where
  nanos : Int
  notBefore : dateTimeMin ≤ nanos
  notAfter : nanos ≤ dateTimeMax

/-- `TimeDelta`. -/
structure TimeDelta where
  nanos : Int
  notBelow : -timeDeltaMax ≤ nanos
  notAbove : nanos ≤ timeDeltaMax

namespace TimeDelta

def fromStd (duration : Nat) : Option TimeDelta :=
  if fits : (duration : Int) ≤ timeDeltaMax then
    some ⟨duration, by simp only [timeDeltaMax]; omega, fits⟩
  else
    none

def toStd (delta : TimeDelta) : Option Nat :=
  if 0 ≤ delta.nanos then some delta.nanos.toNat else none

/-- `TimeDelta::minutes(15)`. -/
def quarterHour : TimeDelta where
  nanos := Duration.seconds (15 * 60)
  notBelow := by decide
  notAbove := by decide

end TimeDelta

namespace UtcInstant

def signedDurationSince (instant earlier : UtcInstant) : TimeDelta where
  nanos := instant.nanos - earlier.nanos
  notBelow := by
    have bounds := instant.notBefore
    have bounds' := earlier.notAfter
    simp only [dateTimeMin, dateTimeMax, timeDeltaMax] at bounds bounds' ⊢
    omega
  notAbove := by
    have bounds := instant.notAfter
    have bounds' := earlier.notBefore
    simp only [dateTimeMin, dateTimeMax, timeDeltaMax] at bounds bounds' ⊢
    omega

/-- `DateTime + TimeDelta`, which panics outside the range. -/
def add (instant : UtcInstant) (delta : TimeDelta) : Option UtcInstant :=
  if fits : dateTimeMin ≤ instant.nanos + delta.nanos ∧
      instant.nanos + delta.nanos ≤ dateTimeMax then
    some ⟨instant.nanos + delta.nanos, fits.1, fits.2⟩
  else
    none

end UtcInstant

section Delays

def u64Max : Nat := 18446744073709551615

def isAsciiDigit (letter : Char) : Bool := 48 ≤ letter.toNat && letter.toNat ≤ 57

/-- `str::parse::<u64>`. -/
def parseU64 (text : String) : Option Nat :=
  let digits :=
    match text.toList with
    | '+' :: rest => rest
    | letters => letters
  if digits.isEmpty || !digits.all isAsciiDigit then
    none
  else
    let number := digits.foldl (fun number digit => 10 * number + (digit.toNat - 48)) 0
    if number ≤ u64Max then some number else none

variable (parseFromRfc2822 : String → Option UtcInstant)

/-- The delay that a `Retry-After` header asks for, in nanoseconds. -/
def parseRetryAfter (now : UtcInstant) (value : String) : Option Nat :=
  match parseU64 (trimText value) with
  | some seconds => some (seconds * 1000000000)
  | none =>
    (parseFromRfc2822 value).map fun retryAt =>
      (retryAt.signedDurationSince now).toStd.getD 0

/-- How floating-point numbers are rounded, and seconds turned into nanoseconds. -/
structure FloatRounding where
  round : ℚ → ℚ
  roundMono : Monotone round
  /-- Whole numbers up to 53 bits are kept. -/
  roundWhole : ∀ number : Nat, number ≤ 2 ^ 53 → round number = number
  /-- `Duration::from_secs_f64`. -/
  fromSecsF64 : ℚ → Nat
  fromSecsMono : Monotone fromSecsF64
  fromSecsWhole : ∀ number : Nat, number ≤ 2 ^ 53 → fromSecsF64 number = number * 1000000000

/-- The literals `0.9` and `1.1`. -/
def lowestJitter : ℚ := 8106479329266893 / 9007199254740992

def highestJitter : ℚ := 2476979795053773 / 2251799813685248

/-- `2_u32.saturating_pow`. -/
def saturatingPowTwo (exponent : Nat) : Nat :=
  if exponent < 32 then 2 ^ exponent else u32Max

/-- The backoff of each host.  The base and the cap are whole seconds; a host that is absent has
no attempts. -/
structure HostBackoff where
  base : Nat
  cap : Nat
  attempts : String → Nat

namespace HostBackoff

def production : HostBackoff where
  base := 30
  cap := 15 * 60
  attempts := fun _ => 0

def setAttempt (backoff : HostBackoff) (host : String) (attempt : Nat) : HostBackoff :=
  { backoff with attempts := Function.update backoff.attempts host attempt }

variable (float : FloatRounding)

def backoffSeconds (backoff : HostBackoff) (attempt : Nat) : Nat :=
  min (min (backoff.base * saturatingPowTwo attempt) u64Max) backoff.cap

def jittered (backoff : HostBackoff) (attempt : Nat) (jitter : ℚ) : Nat :=
  float.fromSecsF64 (min
    (float.round (float.round (backoff.backoffSeconds attempt) *
      max lowestJitter (min jitter highestJitter)))
    (float.round backoff.cap))

/-- `next_delay`, in nanoseconds. -/
def nextDelay (backoff : HostBackoff) (host : String) (retryAfter : Option String)
    (now : UtcInstant) (jitter : ℚ) : Nat × HostBackoff :=
  match retryAfter.bind (parseRetryAfter parseFromRfc2822 now) with
  | some delay => (delay, backoff)
  | none =>
    let attempt := backoff.attempts host
    (backoff.jittered float attempt jitter, backoff.setAttempt host (saturatingAdd attempt 1))

end HostBackoff

/-- What the store is given for the host and the batch. -/
structure RetrySchedule where
  attemptCount : Nat
  nextAttemptAt : UtcInstant

/-- The branches of a rate-limited batch, and of a retryable one, which has no header.  They panic
where there is no schedule.  `firstNow` is the clock as the header is read, and `attempt` the
stored count. -/
def scheduleRetry (float : FloatRounding) (backoff : HostBackoff) (host : String) (attempt : Nat)
    (retryAfter : Option String) (firstNow now : UtcInstant) (jitter : ℚ) :
    Option (RetrySchedule × HostBackoff) :=
  let (delay, backoff) := (backoff.setAttempt host attempt).nextDelay parseFromRfc2822 float host
    retryAfter firstNow jitter
  (now.add ((TimeDelta.fromStd delay).getD TimeDelta.quarterHour)).map fun nextAttemptAt =>
    ({ attemptCount := saturatingAdd attempt 1, nextAttemptAt := nextAttemptAt }, backoff)

end Delays

section Backoff

variable {float : FloatRounding} {backoff : HostBackoff}

theorem saturatingPowTwo_mono {exponent later : Nat} (ordered : exponent ≤ later) :
    saturatingPowTwo exponent ≤ saturatingPowTwo later := by
  simp only [saturatingPowTwo]
  split
  next small =>
    split
    · exact Nat.pow_le_pow_right (by decide) ordered
    · calc
        2 ^ exponent ≤ 2 ^ 31 := Nat.pow_le_pow_right (by decide) (by omega)
        _ ≤ u32Max := by decide
  next large =>
    rw [if_neg (by omega)]

namespace HostBackoff

theorem backoffSeconds_le_cap (attempt : Nat) :
    backoff.backoffSeconds attempt ≤ backoff.cap :=
  min_le_right _ _

theorem backoffSeconds_mono {attempt later : Nat} (ordered : attempt ≤ later) :
    backoff.backoffSeconds attempt ≤ backoff.backoffSeconds later := by
  have power := Nat.mul_le_mul_left backoff.base (saturatingPowTwo_mono ordered)
  exact min_le_min_right _ (min_le_min_right _ power)

theorem jittered_le_cap (small : backoff.cap ≤ 2 ^ 53) (attempt : Nat) (jitter : ℚ) :
    backoff.jittered float attempt jitter ≤ backoff.cap * 1000000000 := by
  calc
    backoff.jittered float attempt jitter ≤ float.fromSecsF64 (float.round backoff.cap) :=
      float.fromSecsMono (min_le_right _ _)
    _ = backoff.cap * 1000000000 := by
      rw [float.roundWhole _ small, float.fromSecsWhole _ small]

theorem jittered_mono (small : backoff.cap ≤ 2 ^ 53) {attempt later : Nat} {jitter other : ℚ}
    (ordered : attempt ≤ later) (atLeast : jitter ≤ other) :
    backoff.jittered float attempt jitter ≤ backoff.jittered float later other := by
  have few (attempt : Nat) : backoff.backoffSeconds attempt ≤ 2 ^ 53 :=
    (backoffSeconds_le_cap attempt).trans small
  have seconds : (backoff.backoffSeconds attempt : ℚ) ≤ backoff.backoffSeconds later :=
    Nat.cast_le.mpr (backoffSeconds_mono ordered)
  have clamped : max lowestJitter (min jitter highestJitter) ≤
      max lowestJitter (min other highestJitter) :=
    max_le_max_left _ (min_le_min_right _ atLeast)
  have positive : 0 ≤ max lowestJitter (min jitter highestJitter) :=
    le_max_of_le_left (by norm_num [lowestJitter])
  have product := mul_le_mul seconds clamped positive (Nat.cast_nonneg _)
  simp only [jittered, float.roundWhole _ (few _)]
  exact float.fromSecsMono (min_le_min_right _ (float.roundMono product))

end HostBackoff

end Backoff

section Range

variable {parseFromRfc2822 : String → Option UtcInstant} {float : FloatRounding}

theorem UtcInstant.timestamp_stored (instant : UtcInstant) :
    -2 ^ 63 ≤ timestamp instant.nanos ∧ timestamp instant.nanos < 2 ^ 63 := by
  have started := instant.notBefore
  have ended := instant.notAfter
  simp only [dateTimeMin, dateTimeMax] at started ended
  simp only [timestamp]
  omega

theorem UtcInstant.add_isSome_iff {instant : UtcInstant} {delta : TimeDelta}
    (nonneg : 0 ≤ delta.nanos) :
    (instant.add delta).isSome = true ↔ instant.nanos + delta.nanos ≤ dateTimeMax := by
  have started := instant.notBefore
  unfold UtcInstant.add
  split
  next fits => simpa using fits.2
  next outside =>
    simp only [isSome_none, Bool.false_eq_true, false_iff]
    omega

theorem applied_nanos (delay : Nat) : ((TimeDelta.fromStd delay).getD TimeDelta.quarterHour).nanos =
      if (delay : Int) ≤ timeDeltaMax then (delay : Int) else Duration.seconds (15 * 60) := by
  unfold TimeDelta.fromStd
  split <;> rfl

/-- The header asks for a delay of which the instant does not fit, though the delay does: a number
of seconds, or a date. -/
def AsksTooLong (parseFromRfc2822 : String → Option UtcInstant) (firstNow now : UtcInstant)
    (value : String) : Prop :=
  (∃ seconds, parseU64 (trimText value) = some seconds ∧ seconds ≤ 9223372036854775 ∧
      dateTimeMax < now.nanos + Duration.seconds seconds) ∨
    (parseU64 (trimText value) = none ∧ ∃ retryAt, parseFromRfc2822 value = some retryAt ∧
      dateTimeMax < now.nanos + max (retryAt.nanos - firstNow.nanos) 0)

variable {firstNow now : UtcInstant}

theorem AsksTooLong.parsed {value : String}
    (long : AsksTooLong parseFromRfc2822 firstNow now value) :
    parseRetryAfter parseFromRfc2822 firstNow value ≠ none := by
  unfold parseRetryAfter
  rcases long with ⟨seconds, isNumber, -⟩ | ⟨isNumber, retryAt, isDate, -⟩
  · simp [isNumber]
  · simp [isNumber, isDate]

theorem toStd_getD (delta : TimeDelta) : (delta.toStd.getD 0 : Int) = max delta.nanos 0 := by
  unfold TimeDelta.toStd
  split <;> simp only [getD_some, getD_none] <;> omega

theorem asksTooLong_iff {value : String} {delay : Nat}
    (clock : now.nanos + Duration.seconds (15 * 60) ≤ dateTimeMax)
    (isDelay : parseRetryAfter parseFromRfc2822 firstNow value = some delay) :
    now.nanos + ((TimeDelta.fromStd delay).getD TimeDelta.quarterHour).nanos ≤ dateTimeMax ↔
      ¬ AsksTooLong parseFromRfc2822 firstNow now value := by
  rw [applied_nanos]
  unfold parseRetryAfter at isDelay
  cases isNumber : parseU64 (trimText value) with
  | some seconds =>
    simp only [isNumber, Option.some.injEq] at isDelay
    subst isDelay
    have long : AsksTooLong parseFromRfc2822 firstNow now value ↔ seconds ≤ 9223372036854775 ∧
          dateTimeMax < now.nanos + Duration.seconds seconds := by
      simp [AsksTooLong, isNumber]
    rw [long]
    simp only [Duration.seconds] at clock ⊢
    by_cases fits : seconds ≤ 9223372036854775
    · rw [if_pos (by simp only [timeDeltaMax]; omega)]
      omega
    · rw [if_neg (by simp only [timeDeltaMax]; omega)]
      omega
  | none =>
    simp only [isNumber, map_eq_some_iff] at isDelay
    obtain ⟨retryAt, isDate, rfl⟩ := isDelay
    have long : AsksTooLong parseFromRfc2822 firstNow now value ↔
        dateTimeMax < now.nanos + max (retryAt.nanos - firstNow.nanos) 0 := by
      simp [AsksTooLong, isNumber, isDate]
    have within := (retryAt.signedDurationSince firstNow).notAbove
    rw [long, toStd_getD]
    have room : 0 ≤ timeDeltaMax := by decide
    rw [if_pos (max_le within room)]
    exact not_lt.symm

theorem scheduleRetry_isSome {backoff : HostBackoff} {host : String} {attempt : Nat}
    {retryAfter : Option String} {jitter : ℚ} :
    (scheduleRetry parseFromRfc2822 float backoff host attempt retryAfter firstNow now
        jitter).isSome = true ↔
      now.nanos + ((TimeDelta.fromStd ((backoff.setAttempt host attempt).nextDelay
        parseFromRfc2822 float host retryAfter firstNow jitter).1).getD
          TimeDelta.quarterHour).nanos ≤ dateTimeMax := by
  have nonneg : 0 ≤ ((TimeDelta.fromStd ((backoff.setAttempt host attempt).nextDelay
      parseFromRfc2822 float host retryAfter firstNow jitter).1).getD
        TimeDelta.quarterHour).nanos := by
    rw [applied_nanos]
    split
    · exact Int.natCast_nonneg _
    · decide
  rw [← UtcInstant.add_isSome_iff nonneg]
  simp only [scheduleRetry, isSome_map]

/-- Putting a batch off stays in range exactly where its header does not ask for too long; the
next attempt is then an instant that the tables hold.  Without a header the
delay is at most the cap, and never falls with more attempts at as much jitter. -/
theorem retry_in_range_iff (attempts : String → Nat) (host : String) (attempt : Nat)
    (retryAfter : Option String) {firstNow now : UtcInstant}
    (clock : now.nanos + Duration.seconds (15 * 60) ≤ dateTimeMax) (jitter : ℚ) :
    let backoff : HostBackoff := { HostBackoff.production with attempts := attempts }
    let delay := fun attempt jitter => ((backoff.setAttempt host attempt).nextDelay
      parseFromRfc2822 float host none firstNow jitter).1
    ((∃ schedule next, scheduleRetry parseFromRfc2822 float backoff host attempt retryAfter
          firstNow now jitter = some (schedule, next) ∧
        -2 ^ 63 ≤ timestamp schedule.nextAttemptAt.nanos ∧
        timestamp schedule.nextAttemptAt.nanos < 2 ^ 63 ∧ schedule.attemptCount ≤ u32Max) ∧
      ∀ attempt later jitter other, attempt ≤ later → jitter ≤ other →
        delay attempt jitter ≤ 15 * 60 * 1000000000 ∧ delay attempt jitter ≤ delay later other) ↔
      ∀ value, retryAfter = some value → ¬ AsksTooLong parseFromRfc2822 firstNow now value := by
  intro backoff delay
  have small : backoff.cap ≤ 2 ^ 53 := by
    change 15 * 60 ≤ 2 ^ 53
    decide
  have isDelay (attempt : Nat) (jitter : ℚ) :
      delay attempt jitter = backoff.jittered float attempt jitter := by
    simp only [delay, HostBackoff.nextDelay, bind_none, HostBackoff.setAttempt,
      Function.update_self]
    rfl
  have paced : ∀ attempt later jitter other, attempt ≤ later → jitter ≤ other →
      delay attempt jitter ≤ 15 * 60 * 1000000000 ∧ delay attempt jitter ≤ delay later other := by
    intro attempt later jitter other ordered atLeast
    rw [isDelay, isDelay]
    exact ⟨HostBackoff.jittered_le_cap small attempt jitter,
      HostBackoff.jittered_mono small ordered atLeast⟩
  have stored (schedule : RetrySchedule) (next : HostBackoff)
      (isSchedule : scheduleRetry parseFromRfc2822 float backoff host attempt retryAfter firstNow
        now jitter = some (schedule, next)) :
      -2 ^ 63 ≤ timestamp schedule.nextAttemptAt.nanos ∧
        timestamp schedule.nextAttemptAt.nanos < 2 ^ 63 ∧ schedule.attemptCount ≤ u32Max := by
    obtain ⟨started, ended⟩ := schedule.nextAttemptAt.timestamp_stored
    simp only [scheduleRetry, map_eq_some_iff] at isSchedule
    obtain ⟨nextAttemptAt, -, made⟩ := isSchedule
    cases made
    exact ⟨started, ended, min_le_right _ _⟩
  have inRange : (∃ schedule next, scheduleRetry parseFromRfc2822 float backoff host attempt
      retryAfter firstNow now jitter = some (schedule, next)) ↔
        ∀ value, retryAfter = some value →
          ¬ AsksTooLong parseFromRfc2822 firstNow now value := by
    rw [← Prod.exists', ← isSome_iff_exists, scheduleRetry_isSome]
    cases asked : retryAfter.bind (parseRetryAfter parseFromRfc2822 firstNow) with
    | some length =>
      obtain ⟨value, rfl, isLength⟩ := bind_eq_some_iff.mp asked
      simp only [HostBackoff.nextDelay, asked]
      rw [asksTooLong_iff clock isLength]
      constructor
      · rintro fits _ ⟨⟩
        exact fits
      · exact fun fits => fits value rfl
    | none =>
      have brief : (delay attempt jitter : Int) ≤ Duration.seconds (15 * 60) := by
        have capped := (paced attempt attempt jitter jitter le_rfl le_rfl).1
        simp only [Duration.seconds]
        omega
      have same : ((backoff.setAttempt host attempt).nextDelay parseFromRfc2822 float host
          retryAfter firstNow jitter).1 = delay attempt jitter := by
        simp only [delay, HostBackoff.nextDelay, asked, bind_none]
      have fits : (delay attempt jitter : Int) ≤ timeDeltaMax := brief.trans (by decide)
      rw [same, applied_nanos, if_pos fits]
      refine ⟨fun _ value isValue long => ?_, fun _ => by omega⟩
      rw [isValue, bind_some] at asked
      exact long.parsed asked
  constructor
  · rintro ⟨⟨schedule, next, isSchedule, -⟩, -⟩
    exact inRange.mp ⟨schedule, next, isSchedule⟩
  · intro fits
    obtain ⟨schedule, next, isSchedule⟩ := inRange.mpr fits
    exact ⟨⟨schedule, next, isSchedule, stored schedule next isSchedule⟩, paced⟩

def exactRounding : FloatRounding where
  round := id
  roundMono := monotone_id
  roundWhole := fun _ _ => rfl
  fromSecsF64 seconds := (⌊seconds * 1000000000⌋).toNat
  fromSecsMono := by
    intro seconds later ordered
    have product : seconds * 1000000000 ≤ later * 1000000000 :=
      mul_le_mul_of_nonneg_right ordered (by norm_num)
    exact Int.toNat_le_toNat (Int.floor_mono product)
  fromSecsWhole := by
    intro number _
    have whole : ((number : ℚ) * 1000000000) = ((number * 1000000000 : Nat) : ℚ) := by
      push_cast
      rfl
    rw [whole, Int.floor_natCast, Int.toNat_natCast]

def summerInstant : UtcInstant where
  nanos := fromTimestamp 1785000000
  notBefore := by decide
  notAfter := by decide

/-- A header of two minutes is scheduled. -/
theorem two_minutes_are_scheduled :
    ∃ schedule next, scheduleRetry (fun _ => none) exactRounding .production "api" 3 (some "120")
      summerInstant summerInstant 1 = some (schedule, next) := by
  have clock : summerInstant.nanos + Duration.seconds (15 * 60) ≤ dateTimeMax := by decide
  have short : ∀ value, some "120" = some value →
      ¬ AsksTooLong (fun _ => none) summerInstant summerInstant value := by
    rintro _ ⟨⟩
    have isNumber : parseU64 (trimText "120") = some 120 := by decide +kernel
    rintro (⟨seconds, isSeconds, -, long⟩ | ⟨notNumber, -⟩)
    · rw [isNumber] at isSeconds
      cases isSeconds
      revert long
      decide
    · rw [isNumber] at notNumber
      cases notNumber
  obtain ⟨⟨schedule, next, isSchedule, -⟩, -⟩ :=
    (@retry_in_range_iff (fun _ => none) exactRounding (fun _ => 0) "api" 3 (some "120")
      summerInstant summerInstant clock 1).mpr short
  exact ⟨schedule, next, isSchedule⟩

/-- A header of ten million million seconds has no schedule. -/
theorem endless_header_panics :
    scheduleRetry (fun _ => none) exactRounding .production "api" 3 (some "10000000000000")
      summerInstant summerInstant 1 = none := by
  have isDelay : parseRetryAfter (fun _ => none) summerInstant "10000000000000" =
      some 10000000000000000000000 := by
    decide +kernel
  have outside : ¬ (scheduleRetry (fun _ => none) exactRounding .production "api" 3
      (some "10000000000000") summerInstant summerInstant 1).isSome = true := by
    rw [scheduleRetry_isSome]
    simp only [HostBackoff.nextDelay, bind_some, isDelay, applied_nanos]
    decide
  simpa using outside

end Range

end Velvt
