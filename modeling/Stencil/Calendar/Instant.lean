import Stencil.Calendar.Date

set_option autoImplicit false

/-!
Instants of universal time. A leap second is the last second of a minute with a fraction of a
second or more; arithmetic that leaves it forgets it.
-/

namespace Stencil.Calendar

/-- A moment: day number, second of the day and nanoseconds, of which a leap second has over `10 ^ 9`. -/
structure Instant where
  day : Int
  second : Nat
  nano : Nat
  deriving DecidableEq

namespace Instant

def secondsPerDay : Nat := 86400

def billion : Nat := 1000000000

/-- Whole seconds since the epoch. -/
def seconds (instant : Instant) : Int := instant.day * secondsPerDay + instant.second

def date (instant : Instant) : Date := Date.ofDays instant.day

def inRange (day : Int) : Bool := decide (Date.minDays ≤ day) && decide (day ≤ Date.maxDays)

/-- The instant of a count of seconds, if its year is in range. -/
def ofSeconds? (seconds : Int) (nano : Nat) : Option Instant :=
  let day := seconds / secondsPerDay
  if inRange day then some ⟨day, (seconds % secondsPerDay).toNat, nano⟩ else none

/-- The instant of a count of milliseconds since the epoch. -/
def ofMillis? (millis : Int) : Option Instant :=
  ofSeconds? (millis / 1000) ((millis % 1000).toNat * 1000000)

/-- A shift by whole seconds, if the result is in range. A leap second left forward counts as the
second before it, and left backward as the second after it. -/
def addSeconds? (instant : Instant) (amount : Int) : Option Instant :=
  if amount = 0 then some instant
  else if instant.nano < billion then ofSeconds? (instant.seconds + amount) instant.nano
  else if 0 < amount then ofSeconds? (instant.seconds + amount) (instant.nano - billion)
  else ofSeconds? (instant.seconds + 1 + amount) (instant.nano - billion)

/-- Earlier in time: by day, then second, then fraction. -/
def before (left right : Instant) : Bool :=
  decide (left.day < right.day) ||
    (left.day == right.day &&
      (decide (left.second < right.second) ||
        (left.second == right.second && decide (left.nano < right.nano))))

/-- Seconds between the times of two days; a leap second passed on the way counts. -/
def leapCount (start finish : Instant) : Int :=
  if start.second < finish.second ∧ billion ≤ start.nano then 1
  else if finish.second < start.second ∧ billion ≤ finish.nano then -1
  else 0

/-- Nanoseconds from the first instant to the second. -/
def nanosBetween (start finish : Instant) : Int :=
  (finish.seconds - start.seconds + leapCount start finish) * billion + finish.nano - start.nano

/-- Whole days from the first instant to the second, dropping a fraction toward zero. -/
def daysBetween (start finish : Instant) : Int :=
  ((nanosBetween start finish).tdiv billion).tdiv secondsPerDay

end Instant

end Stencil.Calendar
