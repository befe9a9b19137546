import SearchBuilder.Number.Notation

/-!
# The clock of log lines

Times are seconds since the beginning of 1970, in UTC. A line shows month, day and time of day; the
year counts for the length of February only.

Days are counted from the first of March of a year that is divisible by 400. The calendar repeats
after 400 years, and within a year that begins in March all months but the last have lengths that
follow one linear rule.
-/

namespace SearchBuilder.Clock

/-- The days of 400 years. -/
def cycleDays : Int := 146097

/-- The days from March of the year 0 to the beginning of 1970. -/
def daysBefore1970 : Int := 719468

/-- The day within its year, from the first of March on, of a day within 400 years. -/
def dayFromMarch (day : Int) : Int :=
  let year := (day - day / 1460 + day / 36524 - day / 146096) / 365
  day - (365 * year + year / 4 - year / 100)

/-- The month and the day of the month of a day, counted from the beginning of 1970. -/
def monthDay (days : Int) : Int × Int :=
  let day := dayFromMarch ((days + daysBefore1970) % cycleDays)
  let fromMarch := (5 * day + 2) / 153
  (if fromMarch < 10 then fromMarch + 3 else fromMarch - 9, day - (153 * fromMarch + 2) / 5 + 1)

/-- A number below 100 with two digits. -/
def twoDigits (n : Int) : List Char := padZeros 2 (intText n)

/-- Month, day and time of day. -/
def stamp (seconds : Int) : String :=
  let (month, day) := monthDay (seconds / 86400)
  let time := seconds % 86400
  String.ofList <|
    twoDigits month ++ '-' :: twoDigits day ++ ' ' :: twoDigits (time / 3600) ++
      ':' :: twoDigits (time % 3600 / 60) ++ ':' :: twoDigits (time % 60)

end SearchBuilder.Clock
