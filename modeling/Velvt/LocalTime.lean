import Velvt.Instants

/-!
# The local wall clock

A client reports how far its wall clock is ahead of UTC.  The service reads an instant on that
clock as whole seconds since the local epoch, and takes the hour, the minute, the weekday and the
calendar day from it.  A day is its number since the epoch; the text `YYYY-MM-DD` is written from
the day alone, and the service only compares two of them.
-/

namespace Velvt

/-- `utc_offset_seconds.clamp(-64_800, 64_800)`. -/
def clampOffset (utcOffsetSeconds : Int) : Int :=
  max (-64800) (min utcOffsetSeconds 64800)

/-- `to_local`, in whole seconds.  `FixedOffset` admits offsets of less than a day, and any
other counts as zero. -/
def toLocal (instant offsetSeconds : Int) : Int :=
  timestamp instant +
    if -86400 < offsetSeconds ∧ offsetSeconds < 86400 then offsetSeconds else 0

namespace LocalTime

variable (localTime : Int)

def hour : Nat := (localTime / 3600 % 24).toNat

def minute : Nat := (localTime / 60 % 60).toNat

def second : Nat := (localTime % 60).toNat

/-- `format_local_date`: the calendar day. -/
def localDate : Int := localTime / 86400

/-- `weekday().num_days_from_monday()`.  The epoch was a Thursday. -/
def weekday : Nat := ((localDate localTime + 3) % 7).toNat

end LocalTime

end Velvt
