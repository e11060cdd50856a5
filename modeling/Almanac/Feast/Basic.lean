import Almanac.Date.Basic

/-!
# Movable feasts

A movable feast has a date of its own in every year, computed from the year alone.
-/

namespace Almanac

/-- The date of a feast in a year, if it has one in that year. -/
abbrev Feast := Int → Option Date

end Almanac
