import Almanac.Cache.Basic
import Almanac.Calendar.Basic

/-!
# The directory of calendars

A directory answers questions about any locale of a configuration. It remembers two things. The
calendar of a locale is built when it is first asked for and kept from then on; a calendar that
cannot be built is not remembered, and is tried again the next time. The holidays of a locale in a
year are kept in a cache of limited size, which only questions about single dates fill. Neither
changes any answer.
-/

namespace Almanac

/-- A calendar that was built, and the number of calendars that the directory built before it. -/
structure Volume where
  number : Nat
  calendar : Calendar

/-- Calendars and holidays of a configuration. -/
structure Directory where
  configuration : Configuration
  /-- The feasts that date expressions may refer to. -/
  registry : Registry
  /-- Calendars by locale. -/
  volumes : List (Locale × Volume)
  /-- How many calendars were ever built. -/
  built : Nat
  /-- Holidays by locale and year. -/
  years : Cache (Locale × Int) (List Day)

namespace Directory

/-- A directory that keeps so many lists of holidays. -/
def withCapacity (configuration : Configuration) (capacity : Nat) : Directory :=
  ⟨configuration, .standard, [], 0, .empty capacity⟩

/-- A directory that keeps as many lists of holidays as its configuration says. -/
def ofConfiguration (configuration : Configuration) : Directory :=
  withCapacity configuration configuration.yearCapacity

/-- The directory with other feasts. What it remembered may depend on the old ones and is
forgotten. -/
def withFeasts (directory : Directory) (registry : Registry) : Directory :=
  { directory with registry, volumes := [], years := directory.years.clear }

/-- The calendar of a locale, remembered or built. -/
def volume (directory : Directory) (locale : Locale) : Except CalendarError Volume × Directory :=
  match Assoc.get? locale directory.volumes with
  | some volume => (.ok volume, directory)
  | none =>
    match Calendar.ofConfiguration directory.configuration locale directory.registry with
    | .error error => (.error error, directory)
    | .ok calendar =>
      let volume : Volume := ⟨directory.built, calendar⟩
      (.ok volume, { directory with
        volumes := Assoc.insert locale volume directory.volumes
        built := directory.built + 1 })

/-- The calendar of a locale. -/
def calendar (directory : Directory) (locale : Locale) :
    Except CalendarError Calendar × Directory :=
  let (volume, directory) := directory.volume locale
  (volume.map Volume.calendar, directory)

/-- The days of a locale in a year, observances included. -/
def days (directory : Directory) (locale : Locale) (year : Int) :
    Except CalendarError (List Day) × Directory :=
  let (calendar, directory) := directory.calendar locale
  (calendar.map (·.days year), directory)

/-- Whether a date is off in a locale. Only dates that are not off by their weekday look at the
holidays of their year. -/
def isHoliday (directory : Directory) (date : Date) (locale : Locale) :
    Except CalendarError Bool × Directory :=
  match directory.calendar locale with
  | (.error error, directory) => (.error error, directory)
  | (.ok calendar, directory) =>
    if calendar.isDayOff date then (.ok true, directory)
    else
      let (holidays, years) :=
        directory.years.getOrInsertWith (locale, date.year) fun years =>
          (calendar.holidays date.year, years)
      (.ok (holidays.any (·.date == date)), { directory with years })

/-- How many calendars are remembered. -/
def calendarCount (directory : Directory) : Nat := directory.volumes.length

end Directory

end Almanac
