import Almanac.Cache.History
import Almanac.Directory

/-!
# Runs of a directory

What is asked of a directory, as data, and what it answers. Besides the three questions about a
locale this is changing the feasts, and looking at the years that the directory remembers, which may
use them and forget them but stores nothing.

Beside every request stands the answer that no directory is needed for: the one that the calendar
gives when it is built for this very request.
-/

namespace Almanac.Directory

/-- What may be done to the remembered years from outside. -/
inductive Look
  | get (locale : Locale) (year : Int)
  | contains (locale : Locale) (year : Int)
  | size
  | isEmpty
  | capacity
  | clear

/-- The operation on the years that a look is. -/
def Look.operation : Look → Cache.Operation (Locale × Int) (List Day)
  | get locale year => .get (locale, year)
  | contains locale year => .contains (locale, year)
  | size => .size
  | isEmpty => .isEmpty
  | capacity => .capacity
  | clear => .clear

/-- Something asked of a directory. -/
inductive Request
  | calendar (locale : Locale)
  | days (locale : Locale) (year : Int)
  | isHoliday (date : Date) (locale : Locale)
  | withFeasts (registry : Registry)
  | years (look : Look)

/-- What a directory answers. -/
inductive Reply
  | calendar (outcome : Except CalendarError Calendar)
  | days (outcome : Except CalendarError (List Day))
  | isHoliday (outcome : Except CalendarError Bool)
  | installed
  | years (answer : Cache.Answer (List Day))

/-- Does what is asked. -/
def step (directory : Directory) : Request → Reply × Directory
  | .calendar locale =>
    let (outcome, directory) := directory.calendar locale
    (.calendar outcome, directory)
  | .days locale year =>
    let (outcome, directory) := directory.days locale year
    (.days outcome, directory)
  | .isHoliday date locale =>
    let (outcome, directory) := directory.isHoliday date locale
    (.isHoliday outcome, directory)
  | .withFeasts registry => (.installed, directory.withFeasts registry)
  | .years look =>
    let (answer, years) := directory.years.step look.operation
    (.years answer, { directory with years })

/-- Does what is asked, one request after the other. -/
def run (directory : Directory) : List Request → List Reply × Directory
  | [] => ([], directory)
  | request :: rest =>
    let (reply, directory) := directory.step request
    let (replies, directory) := directory.run rest
    (reply :: replies, directory)

/-- A new directory with these feasts. -/
def start (configuration : Configuration) (capacity : Nat) (registry : Registry) : Directory :=
  (withCapacity configuration capacity).withFeasts registry

/-! ## Answers without a directory -/

/-- What a reply says about calendars. What it says about the remembered years is left out. -/
def Reply.aboutCalendars : Reply → Option Reply
  | .years _ => none
  | reply => some reply

/-- The reply to a request when nothing is remembered. -/
def Request.uncached (configuration : Configuration) (registry : Registry) :
    Request → Option Reply
  | .calendar locale =>
    some (.calendar (Calendar.ofConfiguration configuration locale registry))
  | .days locale year =>
    some (.days ((Calendar.ofConfiguration configuration locale registry).map (·.days year)))
  | .isHoliday date locale =>
    some (.isHoliday
      ((Calendar.ofConfiguration configuration locale registry).map (·.isHoliday date)))
  | .withFeasts _ => some .installed
  | .years _ => none

/-- The feasts after a request. -/
def Request.feasts (registry : Registry) : Request → Registry
  | .withFeasts registry => registry
  | _ => registry

/-- The feasts that were installed last. -/
def lastFeasts (registry : Registry) (requests : List Request) : Registry :=
  requests.foldl Request.feasts registry

/-- The replies to requests when nothing is remembered but the feasts installed last. -/
def uncachedReplies (configuration : Configuration) (registry : Registry) :
    List Request → List (Option Reply)
  | [] => []
  | request :: rest =>
    request.uncached configuration registry ::
      uncachedReplies configuration (request.feasts registry) rest

end Almanac.Directory
