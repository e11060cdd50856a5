import Almanac.Configuration.Basic
import Almanac.Proofs.Json.Records

/-!
# What a text configures

The text of a configuration has an object of regions, and the text of a region an object of days.
`Configuration.RegionAt` and `Region.DaysAt` say where they stand in the text, with repetitions and
in order. What is read from the text are the last regions of each code
(`Configuration.ofJson_regions`), and in each of them every day once (`Region.days_of_read`).
-/

namespace Almanac

open Json

variable {bytes rest : List UInt8} {room : Nat}

namespace Region

/-- The days that a region declares in its text: every expression, repeated or not, with the place
of its properties. -/
def DaysAt (bytes : List UInt8) (days : List (String × List UInt8)) : Prop :=
  FieldObjectAt ["names", "dayoff", "langs", "days"] bytes "days" days

/-- The region that is written at a place. -/
def WrittenAt (bytes : List UInt8) (region : Region) : Prop :=
  ∃ rest, shape.read (nestingLimit - 2) bytes = .ok (region, rest)

theorem fields_eq : shape.fields = [
    .part "names" Draft.names (fun draft names => { draft with names := some names })
      (readSettled fun _ => readString),
    .part "dayoff" Draft.dayOff (fun draft dayOff => { draft with dayOff := some dayOff })
      (fun _ => readString),
    .part "langs" Draft.languages
      (fun draft languages => { draft with languages := some languages })
      (readArray fun _ => readString),
    .part "days" Draft.days (fun draft days => { draft with days := some days })
      (readSettled readValue)] :=
  rfl

theorem tracks_days : shape.Tracks "days" Draft.days (readSettled readValue) where
  distinct := by decide
  known := by decide
  start := rfl
  sets field hfield hname := by
    rw [fields_eq] at hfield
    simp only [List.mem_cons, List.not_mem_nil, or_false] at hfield
    rcases hfield with rfl | rfl | rfl | rfl
    · exact absurd hname (by decide)
    · exact absurd hname (by decide)
    · exact absurd hname (by decide)
    · exact Field.sets_part (takesValues_readSettled takesValues_readValue) fun _ _ => rfl
  leaves field hfield hname := by
    rw [fields_eq] at hfield
    simp only [List.mem_cons, List.not_mem_nil, or_false] at hfield
    rcases hfield with rfl | rfl | rfl | rfl
    · have hnames := takesValues_readSettled fun _ => takesValues_readString
      exact Field.leaves_part hnames fun _ _ => rfl
    · exact Field.leaves_part (fun _ => takesValues_readString) fun _ _ => rfl
    · exact Field.leaves_part (takesValues_readArray fun _ => takesValues_readString) fun _ _ => rfl
    · exact absurd rfl hname

theorem days_of_ofDraft {missing : String → Nat → Mismatch} {draft : Draft} {region : Region}
    (h : ofDraft missing draft = .ok region) : draft.days = some region.days := by
  unfold ofDraft at h
  split at h
  · cases h
  · cases h
  · next hdays =>
    cases h
    exact hdays

/-- **Every day of a region is read once**, at the last place where it is declared. -/
theorem days_of_read {region : Region} (h : shape.read room bytes = .ok (region, rest)) :
    (∃ days, DaysAt bytes days) ∧
      ∀ days, DaysAt bytes days → Settled (readValue (room - 1 - 1)) days region.days := by
  obtain ⟨given, draft, hrecord, hgives, hmade⟩ := RecordShape.read_places tracks_days h
  have hdays : draft.days = some region.days := by
    rcases hmade with hmade | hmade
    · exact days_of_ofDraft (show ofDraft (fun name _ => .missingField name) draft = _ from hmade)
    · exact days_of_ofDraft (show ofDraft (fun _ place =>
        .wrongLength place (.elements "RegionConfiguration" fields.length)) draft = _ from hmade)
  rw [hdays] at hgives
  obtain ⟨hstands, hsettled⟩ := hgives.settled takesValues_readValue hrecord
  refine ⟨hstands region.days rfl, fun days hat => ?_⟩
  obtain ⟨entries, hentries, hall⟩ := hsettled days hat
  cases hentries
  exact hall

end Region

namespace Configuration

/-- The regions of a configuration in its text: every code, repeated or not, with the place of its
region. -/
def RegionsAt (text : List UInt8) (regions : List (String × List UInt8)) : Prop :=
  FieldObjectAt ["holidays", "cache"] text "holidays" regions

/-- The region that the text has for a code stands at this place. -/
def RegionAt (text : List UInt8) (code : String) (place : List UInt8) : Prop :=
  ∃ regions, RegionsAt text regions ∧ Assoc.Last regions code place

theorem cacheFields_eq : cacheShape.fields =
    [.part "year_capacity" id (fun _ capacity => some capacity) fun _ => readCount] :=
  rfl

theorem tracks_capacity : cacheShape.Tracks "year_capacity" id fun _ => readCount where
  distinct := by decide
  known := by decide
  start := rfl
  sets field hfield hname := by
    rw [cacheFields_eq, List.mem_singleton] at hfield
    subst hfield
    exact Field.sets_part (fun _ => takesValues_readCount) fun _ _ => rfl
  leaves field hfield hname := by
    rw [cacheFields_eq, List.mem_singleton] at hfield
    subst hfield
    exact absurd rfl hname

theorem fields_eq : shape.fields = [
    .part "holidays" Draft.regions (fun draft regions => { draft with regions := some regions })
      (readSettled Region.shape.read),
    .part "cache" Draft.yearCapacity
      (fun draft yearCapacity => { draft with yearCapacity := some yearCapacity })
      cacheShape.read] :=
  rfl

theorem tracks_regions :
    shape.Tracks "holidays" Draft.regions (readSettled Region.shape.read) where
  distinct := by decide
  known := by decide
  start := rfl
  sets field hfield hname := by
    rw [fields_eq] at hfield
    simp only [List.mem_cons, List.not_mem_nil, or_false] at hfield
    rcases hfield with rfl | rfl
    · exact Field.sets_part (takesValues_readSettled Region.tracks_days.takesValues) fun _ _ => rfl
    · exact absurd hname (by decide)
  leaves field hfield hname := by
    rw [fields_eq] at hfield
    simp only [List.mem_cons, List.not_mem_nil, or_false] at hfield
    rcases hfield with rfl | rfl
    · exact absurd rfl hname
    · exact Field.leaves_part tracks_capacity.takesValues fun _ _ => rfl

/-- The regions of a configuration that is read are those of its text, if there are any. -/
theorem regions_of_read {text : List UInt8} {configuration : Configuration}
    (h : ofJson text = .ok configuration) :
    ∃ regions, configuration = ofRegions regions configuration.yearCapacity ∧
      ((∃ members, RegionsAt text members) ∨ regions = []) ∧
      ∀ members, RegionsAt text members →
        Settled (Region.shape.read (nestingLimit - 2)) members regions := by
  obtain ⟨rest, hread⟩ := readAll_eq_ok h
  obtain ⟨given, draft, hrecord, hgives, hmade⟩ := RecordShape.read_places tracks_regions hread
  have hdraft : configuration = ofDraft draft := by
    rcases hmade with hmade | hmade
    · exact (Except.ok.inj hmade).symm
    · exact (Except.ok.inj hmade).symm
  obtain ⟨hstands, hsettled⟩ := hgives.settled Region.tracks_days.takesValues hrecord
  refine ⟨draft.regions.getD [], by rw [hdraft]; rfl, ?_, fun members hmembers => ?_⟩
  · cases hregions : draft.regions with
    | none => exact .inr rfl
    | some regions => exact .inl (hstands regions hregions)
  · obtain ⟨regions, hregions, hall⟩ := hsettled members hmembers
    rw [hregions]
    exact hall

/-- **What a text configures** are the last regions of each code, each once. -/
theorem ofJson_regions {text : List UInt8} {configuration : Configuration}
    (h : ofJson text = .ok configuration) :
    ∃ regions, configuration = ofRegions regions configuration.yearCapacity ∧
      (Assoc.keys regions).Nodup ∧
      (∀ code, code ∈ Assoc.keys regions ↔ ∃ place, RegionAt text code place) ∧
      ∀ code region, (code, region) ∈ regions ↔
        ∃ place, RegionAt text code place ∧ region.WrittenAt place := by
  obtain ⟨regions, hconfiguration, hsome, hsettled⟩ := regions_of_read h
  refine ⟨regions, hconfiguration, ?_, fun code => ⟨?_, ?_⟩, fun code region => ⟨?_, ?_⟩⟩
  · -- a text without the field has no regions, and there is nothing to show
    rcases hsome with ⟨members, hmembers⟩ | rfl
    · exact (hsettled members hmembers).once
    · exact List.nodup_nil
  · intro hcode
    rcases hsome with ⟨members, hmembers⟩ | rfl
    · rw [(hsettled members hmembers).names, List.mem_eraseDups] at hcode
      obtain ⟨place, hlast⟩ := Assoc.exists_last_of_mem_keys hcode
      exact ⟨place, members, hmembers, hlast⟩
    · cases hcode
  · rintro ⟨place, members, hmembers, hlast⟩
    rw [(hsettled members hmembers).names, List.mem_eraseDups]
    exact hlast.mem_keys
  · intro hregion
    rcases hsome with ⟨members, hmembers⟩ | rfl
    · obtain ⟨place, rest, hlast, hread⟩ :=
        ((hsettled members hmembers).values code region).1 hregion
      exact ⟨place, ⟨members, hmembers, hlast⟩, rest, hread⟩
    · cases hregion
  · rintro ⟨place, ⟨members, hmembers, hlast⟩, rest, hread⟩
    exact ((hsettled members hmembers).values code region).2 ⟨place, rest, hlast, hread⟩

end Configuration

end Almanac
