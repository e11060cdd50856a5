import Almanac.Feast.Basic

/-!
# Easter

Western Easter Sunday by Gauss's method. The year's place in the cycle of nineteen years and the
corrections of its century give the paschal full moon, as days after 21 March; the weekday of that
day gives the Sunday after it. Everything is arithmetic on the number of the year, and no calendar
is consulted until month and day are known.
-/

namespace Almanac

namespace Easter

/-- The first year in which Easter was kept by the Gregorian calendar. -/
def firstYear : Int := 1583

/-- The year's place in the cycle of nineteen years, after which the moons come back to their
dates. -/
def golden (year : Int) : Int := year % 19

/-- The full centuries before the year. -/
def century (year : Int) : Int := year / 100

/-- The days from 21 March to the full moon, before the two exceptions. The leap years that full
centuries leave out delay it, and the drift of the cycle hastens it. -/
def meanMoon (year : Int) : Int :=
  (century year - century year / 4 - (8 * century year + 13) / 25 + 19 * golden year + 15) % 30

/-- The days from 21 March to the full moon. It comes a day earlier than its mean when that is the
29th day, and when it is the 28th and falls late in the cycle of nineteen years. -/
def fullMoon (year : Int) : Int :=
  meanMoon year - meanMoon year / 28 *
    (1 - meanMoon year / 28 * (29 / (meanMoon year + 1)) * ((21 - golden year) / 11))

/-- How many days after a Sunday the full moon is. -/
def fullMoonWeekday (year : Int) : Int :=
  (year + year / 4 + fullMoon year + 2 - century year + century year / 4) % 7

/-- The day of March on which Easter falls, counted on into April. -/
def dayOfMarch (year : Int) : Int := fullMoon year - fullMoonWeekday year + 28

end Easter

/-- Western Easter Sunday, from the Gregorian reform to the end of the calendar. -/
def easterSunday : Feast := fun year =>
  if Easter.firstYear ≤ year ∧ year ≤ lastYear then
    if 31 < Easter.dayOfMarch year then
      Date.ofYearMonthDay? year 4 (Easter.dayOfMarch year - 31).toNat
    else Date.ofYearMonthDay? year 3 (Easter.dayOfMarch year).toNat
  else none

end Almanac
