import Almanac.Assoc
import Almanac.Feast.Easter
import Almanac.Text.Lowercase

/-!
# The registry of feasts

Date expressions refer to feasts by name. A registry holds the names in lower case, so a feast is
found under every spelling of its name that lowers to the same text.
-/

namespace Almanac

/-- Feasts by lower case name. -/
structure Registry where
  /-- In the order of first registration, each name once. -/
  feasts : List (String × Feast)

namespace Registry

/-- The registry without feasts. -/
def empty : Registry := ⟨[]⟩

/-- The feast under this name. -/
def get? (registry : Registry) (name : String) : Option Feast :=
  Assoc.get? (Text.lowercase name) registry.feasts

/-- Whether there is a feast under this name. -/
def contains (registry : Registry) (name : String) : Bool := (registry.get? name).isSome

/-- Puts `feast` under `name`, and gives back the feast that it replaces there. -/
def register (registry : Registry) (name : String) (feast : Feast) : Option Feast × Registry :=
  let (old, feasts) := Assoc.exchange (Text.lowercase name) feast registry.feasts
  (old, ⟨feasts⟩)

/-- The names, in lower case. -/
def names (registry : Registry) : List String := Assoc.keys registry.feasts

/-- The registry that knows Easter. -/
def standard : Registry := (empty.register "easter" easterSunday).2

instance : Inhabited Registry := ⟨standard⟩

end Registry

end Almanac
