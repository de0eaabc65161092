import EnvelopeLite.CivilDate
import EnvelopeLite.Numerals
import EnvelopeLite.Primitives

namespace EnvelopeLite.Timestamp

open EnvelopeLite.Calendar EnvelopeLite.CallTrace EnvelopeLite.CivilDate EnvelopeLite.Common
open EnvelopeLite.Numerals EnvelopeLite.Primitives

structure Duration where
  secs : Nat
  nanos : Nat
  secs_lt : secs < 2 ^ 64
  nanos_lt : nanos < 1000000000

namespace Duration

def asSecs (d : Duration) : Nat := d.secs

def subsecMicros (d : Duration) : Nat := d.nanos / 1000

end Duration

def i64TryFrom (n : Nat) : Option Int := if n < 2 ^ 63 then some n else none

/-- A decimal number as `format!` writes it for a width with leading zeros. -/
def decimal (w n : Nat) : String := String.ofList (zeroPadded 10 w n)

def signedDecimal (w : Nat) (n : Int) : String := String.ofList (signedPadded 10 w n)

def formatUtcTimestamp (P : Platform) (sinceEpoch : Duration) : Run P String := do
  let seconds := sinceEpoch.asSecs
  let days ← orFail (i64TryFrom (seconds / 86400)) .serialization
  let secondsOfDay := seconds % 86400
  let hour := secondsOfDay / 3600
  let minute := (secondsOfDay % 3600) / 60
  let second := secondsOfDay % 60
  let (year, month, day) ← orAbort (civilDateFromDays days)
  pure (signedDecimal 4 year ++ "-" ++ signedDecimal 2 month ++ "-" ++ signedDecimal 2 day ++ "-" ++
    decimal 2 hour ++ "." ++ decimal 2 minute ++ "." ++ decimal 2 second ++ "." ++
    decimal 6 sinceEpoch.subsecMicros)

section Reading

end Reading

section Fields

def timestampText (year month day hour minute second micros : Nat) : List Char :=
  zeroPadded 10 4 year ++ '-' :: (zeroPadded 10 2 month ++ '-' :: (zeroPadded 10 2 day ++ '-' ::
    (zeroPadded 10 2 hour ++ '.' :: (zeroPadded 10 2 minute ++ '.' ::
      (zeroPadded 10 2 second ++ '.' :: zeroPadded 10 6 micros)))))

namespace Duration

def date (d : Duration) : Date := dateAt (d.secs / 86400 : Nat)

def text (d : Duration) : List Char :=
  timestampText d.date.year.toNat d.date.month.toNat d.date.day.toNat (d.secs % 86400 / 3600)
    (d.secs % 86400 % 3600 / 60) (d.secs % 86400 % 60) (d.nanos / 1000)

end Duration

namespace Duration

end Duration

end Fields

end EnvelopeLite.Timestamp
