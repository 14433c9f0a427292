import BoundSql.Calendar.Date

/-!
# Durations

Lengths of time in whole seconds. A duration is shown as days, which may be
negative, and a time of day that is not.
-/

namespace BoundSql

/-- A length of time. -/
structure Duration where
  seconds : Int
  deriving DecidableEq, Repr

namespace Duration

/-- Seconds of a day. -/
def secondsPerDay : Int := 86400

/-- The whole days of a duration, rounded down. -/
def days (duration : Duration) : Int :=
  duration.seconds.fdiv secondsPerDay

/-- The seconds that the whole days leave. -/
def rest (duration : Duration) : Nat :=
  (duration.seconds.fmod secondsPerDay).toNat

/-- The text of a duration. -/
def text (duration : Duration) : String :=
  let days := duration.days
  let unit := if days.natAbs == 1 then " day, " else " days, "
  let clock := Nat.toDigits 10 (duration.rest / 3600) ++ ':' ::
    padded 2 (duration.rest / 60 % 60) ++ ':' :: padded 2 (duration.rest % 60)
  (if days == 0 then "" else toString days ++ unit) ++ String.ofList clock

end Duration
end BoundSql
