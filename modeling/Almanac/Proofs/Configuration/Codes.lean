import Almanac.Calendar.Basic
import Almanac.Proofs.Configuration.Texts
import Almanac.Proofs.Text.LetterCase
import Mathlib.Data.List.Nodup
import Mathlib.Data.List.Perm.Basic

/-!
# Codes of regions

Codes are kept in upper case and looked up in upper case, so a region is found under every spelling
of its code. Where no two codes are spellings of each other, putting them in upper case joins no two
regions, and a configuration has all the regions that it is given (`Finds`). This does not depend on
where they come from: a text and a list that give the same regions are told apart by no code
(`region_of_text`).
-/

namespace Almanac

namespace Configuration

/-- No two codes are spellings of each other. -/
def Apart (given : List (String × Region)) : Prop :=
  given.Pairwise fun first second => Text.sameLetters first.1 second.1 = false

/-- The configuration has these regions and no others, and finds each of them under every spelling
of its code. -/
structure Finds (configuration : Configuration) (given : List (String × Region)) : Prop where
  codes : configuration.codes.Perm (given.map fun (code, _) => Text.asciiUpper code)
  found : ∀ code region, configuration.region code = .ok region ↔
    ∃ spelled, (spelled, region) ∈ given ∧ Text.sameLetters spelled code = true
  missing : ∀ code, configuration.region code = .error (.regionNotFound code) ↔
    ∀ spelled ∈ Assoc.keys given, Text.sameLetters spelled code = false

/-- The text has these regions and no others. -/
def Holds (text : List UInt8) (given : List (String × Region)) : Prop :=
  ∀ code region, (code, region) ∈ given ↔
    ∃ place, RegionAt text code place ∧ region.WrittenAt place

variable {configuration other : Configuration} {given : List (String × Region)} {code : String}

/-! ## Lookup -/

theorem region_eq_ok_iff {region : Region} :
    configuration.region code = .ok region ↔
      Assoc.get? (Text.asciiUpper code) configuration.regions = some region := by
  unfold Configuration.region
  cases Assoc.get? (Text.asciiUpper code) configuration.regions <;> simp

/-- What is not found is reported as it was spelled. -/
theorem region_eq_error_iff {error : ConfigurationError} :
    configuration.region code = .error error ↔
      error = .regionNotFound code ∧ ∀ region, configuration.region code ≠ .ok region := by
  unfold Configuration.region
  cases Assoc.get? (Text.asciiUpper code) configuration.regions <;> simp [eq_comm]

/-- A region that is built in is found if it is the last under its code in upper case. -/
theorem region_ofRegions_eq_ok_iff {capacity : Nat} {region : Region} :
    (ofRegions given capacity).region code = .ok region ↔
      Assoc.Last (given.map fun (code, region) => (Text.asciiUpper code, region))
        (Text.asciiUpper code) region := by
  rw [region_eq_ok_iff]
  exact Assoc.get?_ofPairs_eq_some_iff

theorem keys_map_asciiUpper (given : List (String × Region)) :
    Assoc.keys (given.map fun (code, region) => (Text.asciiUpper code, region)) =
      given.map fun (code, _) => Text.asciiUpper code :=
  List.map_map

theorem exists_region_ofRegions {capacity : Nat} (h : code ∈ Assoc.keys given) :
    ∃ region, (ofRegions given capacity).region code = .ok region := by
  have hcode : Text.asciiUpper code ∈ given.map fun (code, _) => Text.asciiUpper code := by
    obtain ⟨pair, hmem, rfl⟩ := List.mem_map.1 h
    exact List.mem_map_of_mem hmem
  rw [← keys_map_asciiUpper] at hcode
  obtain ⟨region, hlast⟩ := Assoc.exists_last_of_mem_keys hcode
  exact ⟨region, region_ofRegions_eq_ok_iff.2 hlast⟩

/-! ## Building from a list -/

theorem Apart.nodup (h : Apart given) :
    (given.map fun (code, _) => Text.asciiUpper code).Nodup := by
  rw [List.nodup_iff_pairwise_ne, List.pairwise_map]
  refine h.imp fun {first second} hapart hsame => ?_
  rw [← Bool.not_eq_true, Text.sameLetters_iff_asciiUpper] at hapart
  exact hapart hsame

theorem regions_ofRegions (h : Apart given) (capacity : Nat) :
    (ofRegions given capacity).regions =
      given.map fun (code, region) => (Text.asciiUpper code, region) := by
  have hnodup := h.nodup
  rw [← keys_map_asciiUpper] at hnodup
  exact Assoc.ofPairs_of_nodup hnodup

/-- What finds all regions that are given misses all others. -/
theorem Finds.of_found
    (hcodes : configuration.codes.Perm (given.map fun (code, _) => Text.asciiUpper code))
    (hfound : ∀ code region, configuration.region code = .ok region ↔
      ∃ spelled, (spelled, region) ∈ given ∧ Text.sameLetters spelled code = true) :
    configuration.Finds given where
  codes := hcodes
  found := hfound
  missing code := by
    rw [region_eq_error_iff, eq_self, true_and]
    refine ⟨?_, ?_⟩
    · intro hnone spelled hspelled
      obtain ⟨⟨spelled, region⟩, hmem, rfl⟩ := List.mem_map.1 hspelled
      rw [← Bool.not_eq_true]
      exact fun hsame => hnone region ((hfound code region).2 ⟨spelled, hmem, hsame⟩)
    · intro hnone region hregion
      obtain ⟨spelled, hmem, hsame⟩ := (hfound code region).1 hregion
      rw [hnone spelled (Assoc.mem_keys_of_mem hmem)] at hsame
      cases hsame

/-- **A list of regions is found again**, if no two codes are spellings of each other. -/
theorem finds_ofRegions (h : Apart given) (capacity : Nat) :
    (ofRegions given capacity).Finds given := by
  have hregions := regions_ofRegions h capacity
  refine .of_found ?_ fun code region => ?_
  · rw [codes, hregions, keys_map_asciiUpper]
  · have hnodup := h.nodup
    rw [← keys_map_asciiUpper] at hnodup
    rw [region_eq_ok_iff, hregions, Assoc.get?_eq_some_iff hnodup, List.mem_map]
    simp only [Text.sameLetters_iff_asciiUpper, Prod.mk.injEq, Prod.exists]
    refine ⟨?_, ?_⟩
    · rintro ⟨spelled, _, hmem, hcode, rfl⟩
      exact ⟨spelled, hmem, hcode⟩
    · rintro ⟨spelled, hmem, hcode⟩
      exact ⟨spelled, region, hmem, hcode, rfl⟩

theorem Finds.of_perm {given' : List (String × Region)} (h : configuration.Finds given)
    (hperm : given.Perm given') : configuration.Finds given' := by
  refine .of_found (h.codes.trans (hperm.map _)) fun code region => ?_
  simp only [h.found, hperm.mem_iff]

/-- What finds the same regions is the same to every code. -/
theorem Finds.region_eq (h : configuration.Finds given) (h' : other.Finds given) (code : String) :
    configuration.region code = other.region code := by
  cases hregion : configuration.region code with
  | ok region => exact ((h'.found code region).2 ((h.found code region).1 hregion)).symm
  | error error =>
    obtain ⟨rfl, -⟩ := region_eq_error_iff.1 hregion
    exact ((h'.missing code).2 ((h.missing code).1 hregion)).symm

theorem ofConfiguration_congr (h : ∀ code, configuration.region code = other.region code)
    (locale : Locale) (registry : Registry) :
    Calendar.ofConfiguration configuration locale registry =
      Calendar.ofConfiguration other locale registry := by
  rw [Calendar.ofConfiguration, Calendar.ofConfiguration, h]

/-! ## Reading from a text -/

variable {text : List UInt8}

theorem Apart.perm {given' : List (String × Region)} (h : Apart given) (hperm : given.Perm given') :
    Apart given' := by
  refine (hperm.pairwise_iff ?_).1 h
  intro first second hapart
  rw [← Bool.not_eq_true] at hapart ⊢
  exact fun hsame => hapart (Text.sameLetters_symm hsame)

theorem Apart.nodup_pairs (h : Apart given) : given.Nodup := .of_map _ h.nodup

/-- **The regions of a text are found again**, if no two codes are spellings of each other. -/
theorem finds_of_holds (hread : ofJson text = .ok configuration) (hapart : Apart given)
    (hholds : Holds text given) : configuration.Finds given := by
  obtain ⟨regions, hconfiguration, hnodup, -, hregions⟩ := ofJson_regions hread
  have hperm : given.Perm regions := by
    refine (List.perm_ext_iff_of_nodup hapart.nodup_pairs (.of_map _ hnodup)).2 ?_
    rintro ⟨code, region⟩
    rw [hholds code region, hregions code region]
  rw [hconfiguration]
  exact (finds_ofRegions (hapart.perm hperm) _).of_perm hperm.symm

/-- **What a text has** can be told from the places of its regions. -/
theorem holds_of_regionsAt {members : List (String × List UInt8)}
    (hread : ofJson text = .ok configuration) (hmembers : RegionsAt text members)
    (hnodup : (Assoc.keys given).Nodup)
    (hgiven : List.Forall₂ (Json.ReadFrom (Region.shape.read (Json.nestingLimit - 2)))
      members given) :
    Holds text given := by
  obtain ⟨regions, -, -, hsettled⟩ := regions_of_read hread
  intro code region
  have hlast : (code, region) ∈ given ↔ Assoc.Last given code region := by
    rw [← Assoc.mem_ofPairs_iff, Assoc.ofPairs_of_nodup hnodup]
  rw [hlast, Json.last_of_readFrom hgiven]
  refine ⟨?_, ?_⟩
  · rintro ⟨place, after, hplace, hregion⟩
    exact ⟨place, ⟨members, hmembers, hplace⟩, after, hregion⟩
  · rintro ⟨place, ⟨members', hmembers', hplace⟩, after, hregion⟩
    have hmem : (code, region) ∈ regions :=
      ((hsettled members' hmembers').values code region).2 ⟨place, after, hplace, hregion⟩
    exact ((hsettled members hmembers).values code region).1 hmem

theorem exists_holds (hread : ofJson text = .ok configuration) :
    ∃ given, (Assoc.keys given).Nodup ∧ Holds text given := by
  obtain ⟨regions, -, hnodup, -, hregions⟩ := ofJson_regions hread
  exact ⟨regions, hnodup, hregions⟩

/--
**Lookup loses no region and tells no two spellings apart, however a configuration is built.**

Let no two of the codes that are given be spellings of each other. A configuration that is built
from them lists each of them in upper case; it finds the region of a code under every spelling, and
for what is no spelling of a code it reports that there is no such region, as it was spelled. The
same holds of a configuration that is read from a text with these regions. So the two have the same
regions and make the same calendars, or fail to with the same errors. Every text that is read has
some regions, each code once.
-/
theorem region_of_text :
    (∀ given : List (String × Region), Apart given →
      ∀ capacity, (ofRegions given capacity).Finds given ∧
        ∀ text configuration, ofJson text = .ok configuration → Holds text given →
          configuration.Finds given ∧
          (∀ code, configuration.region code = (ofRegions given capacity).region code) ∧
          ∀ locale registry, Calendar.ofConfiguration configuration locale registry =
            Calendar.ofConfiguration (ofRegions given capacity) locale registry) ∧
    ∀ text configuration, ofJson text = .ok configuration →
      ∃ given, (Assoc.keys given).Nodup ∧ Holds text given := by
  refine ⟨fun given hapart capacity => ⟨finds_ofRegions hapart capacity, ?_⟩,
    fun text configuration => exists_holds⟩
  intro text configuration hread hholds
  have hfinds := finds_of_holds hread hapart hholds
  have hsame := hfinds.region_eq (finds_ofRegions hapart capacity)
  exact ⟨hfinds, hsame, ofConfiguration_congr hsame⟩

/-- A text of two regions, one with a code in small letters and one in mixed ones. The first has a
name and a day, and both ways of building keep them. -/
theorem region_of_text_scandinavia :
    let object (inside : String) : String := "\x7b" ++ inside ++ "\x7d"
    let bytes (text : String) : List UInt8 := text.toUTF8.data.toList
    let names := object "\"sv\":\"Sverige\""
    let days := object ("\"12-25\":" ++ object "\"_name\":\"Juldagen\"")
    let se := object ("\"dayoff\":\"sunday\",\"langs\":[\"sv\"],\"names\":" ++ names ++
      ",\"days\":" ++ days)
    let no := object "\"days\":\x7b\x7d,\"dayoff\":\"monday\""
    let regions := object ("\"se\":" ++ se ++ ", \"No\": " ++ no)
    let text := bytes (object ("\"holidays\":" ++ regions))
    let sweden : Region := ⟨[("sv", "Sverige")], "sunday", ["sv"],
      [("12-25", .object [("_name", .text "Juldagen")])]⟩
    let norway : Region := ⟨[], "monday", [], []⟩
    let given := [("se", sweden), ("No", norway)]
    let configuration : Configuration := ⟨[("SE", sweden), ("NO", norway)], 20⟩
    (Apart given ∧ ofJson text = .ok configuration ∧ Holds text given) ∧
      configuration.Finds given ∧ (ofRegions given 5).Finds given ∧
      configuration.region "nO" = (ofRegions given 5).region "nO" ∧
      configuration.region "Se" = .ok sweden ∧ (ofRegions given 5).region "Se" = .ok sweden := by
  intro object bytes names days se no regions text sweden norway given configuration
  have hapart : Apart given := by
    simp only [given, Apart]
    decide
  have hread : ofJson text = .ok configuration := by rfl
  have hholds : Holds text given := by
    -- where the values of the two regions begin, each with all that is behind it
    let members := [("se", bytes (se ++ ", \"No\": " ++ no ++ "\x7d\x7d")),
      ("No", bytes (" " ++ no ++ "\x7d\x7d"))]
    have hrecord : Json.readObject (fun _ => Json.here) 1 text =
        .ok ([("holidays", bytes (regions ++ "\x7d"))], []) := by rfl
    have hmembers : Json.readObject (fun _ => Json.here) 1 (bytes (regions ++ "\x7d")) =
        .ok (members, bytes "\x7d") := by rfl
    have hregions : RegionsAt text members :=
      Json.fieldObjectAt_of_readObject hrecord (List.mem_singleton.2 rfl) hmembers
    refine holds_of_regionsAt hread hregions (by decide) ?_
    exact .cons ⟨rfl, _, rfl⟩ (.cons ⟨rfl, _, rfl⟩ .nil)
  obtain ⟨hlists, -⟩ := region_of_text
  obtain ⟨hbuilt, htexts⟩ := hlists given hapart 5
  obtain ⟨hfinds, hsame, -⟩ := htexts text configuration hread hholds
  have hspelled : ∃ spelled, (spelled, sweden) ∈ given ∧ Text.sameLetters spelled "Se" = true :=
    ⟨"se", .head _, by decide⟩
  exact ⟨⟨hapart, hread, hholds⟩, hfinds, hbuilt, hsame "nO",
    (hfinds.found "Se" sweden).2 hspelled, (hbuilt.found "Se" sweden).2 hspelled⟩

end Configuration

end Almanac
