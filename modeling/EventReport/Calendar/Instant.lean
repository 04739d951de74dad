import EventReport.Calendar.Date

/-! # Instants

An `Instant` is a moment in universal time together with the offset of the clock that it was read
from. The day of an instant by universal time and the day that the clock shows (`Instant.localDay?`)
can differ by one.
-/

namespace EventReport.Calendar

/-- The number of seconds of a day. -/
def daySeconds : Nat := 24 * 60 * 60

/-- A moment, in seconds of universal time from the start of the year zero, and the seconds that the
clock which showed it is ahead of universal time. -/
structure Instant where
  universal : Int
  offset : Int
  deriving DecidableEq

namespace Instant

/-- The moment at which a clock shows a day and a second of the day. -/
def shown (day : Date) (second : Nat) (offset : Int) : Instant :=
  ⟨day.dayNumber * daySeconds + second - offset, offset⟩

/-- The day that the clock shows, if it can be represented. -/
def localDay? (i : Instant) : Option Date :=
  Date.ofDayNumber? ((i.universal + i.offset) / daySeconds)

/-- **A clock that showed a day shows it again**, however far it is ahead of universal time or
behind. -/
theorem localDay?_shown (day : Date) {second : Nat} (h : second < daySeconds) (offset : Int) :
    (shown day second offset).localDay? = some day := by
  have hday : (day.dayNumber * daySeconds + second - offset + offset) / daySeconds =
      day.dayNumber := by
    simp only [daySeconds] at *
    omega
  rw [localDay?, shown, hday, Date.ofDayNumber?_dayNumber]

end Instant

end EventReport.Calendar
