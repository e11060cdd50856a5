import Almanac.Cache.Lemmas
import Almanac.Date.Lemmas
import Almanac.Directory
import Almanac.Proofs.Cache.Recency
import Almanac.Proofs.Cache.Reentry
import Almanac.Proofs.Calendar.AnyYear
import Almanac.Proofs.Calendar.Assembly
import Almanac.Proofs.Calendar.Construction
import Almanac.Proofs.Calendar.Cycle
import Almanac.Proofs.Calendar.DayTexts
import Almanac.Proofs.Calendar.Growth
import Almanac.Proofs.Calendar.Holidays
import Almanac.Proofs.Calendar.Languages
import Almanac.Proofs.Calendar.Order
import Almanac.Proofs.Calendar.Permutation
import Almanac.Proofs.Calendar.Respelling
import Almanac.Proofs.Calendar.Sameness
import Almanac.Proofs.Configuration.Codes
import Almanac.Proofs.Configuration.Members
import Almanac.Proofs.Configuration.Shape
import Almanac.Proofs.Configuration.Texts
import Almanac.Proofs.Date.Cycle
import Almanac.Proofs.Date.Naming
import Almanac.Proofs.Date.Week
import Almanac.Proofs.Directory.Enumeration
import Almanac.Proofs.Directory.Languages
import Almanac.Proofs.Directory.Remembrance
import Almanac.Proofs.Directory.Requests
import Almanac.Proofs.Directory.Tags
import Almanac.Proofs.Directory.Transparency
import Almanac.Proofs.Feast.EasterFormula
import Almanac.Proofs.Feast.PaschalMoon
import Almanac.Proofs.Feast.Registrations
import Almanac.Proofs.Json.Passing
import Almanac.Proofs.Json.Places
import Almanac.Proofs.Json.Records
import Almanac.Proofs.Json.Scalars
import Almanac.Proofs.Rule.Ambiguity
import Almanac.Proofs.Rule.Canonical
import Almanac.Proofs.Rule.EasterYears
import Almanac.Proofs.Rule.FirstWeekday
import Almanac.Proofs.Rule.Forward
import Almanac.Proofs.Rule.Grammar
import Almanac.Proofs.Rule.Growth
import Almanac.Proofs.Rule.Guarded
import Almanac.Proofs.Rule.OffsetWords
import Almanac.Proofs.Rule.Offsets
import Almanac.Proofs.Rule.Phrases
import Almanac.Proofs.Rule.Respelling
import Almanac.Proofs.Rule.Spelling
import Almanac.Proofs.Rule.Validation
import Almanac.Proofs.Rule.Walk
import Almanac.Proofs.Rule.Years
import Almanac.Proofs.Text.Cuts
