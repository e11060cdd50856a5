import Almanac.Json.Record
import Almanac.Proofs.Assoc
import Almanac.Proofs.Json.Places

/-!
# Where the fields of a record stand

A record is written as an object or as an array, and either way the text gives values to names
(`RecordAt`). Reading gathers a draft, field by field. What the draft knows of one field at the end
is what stands at its place, if the field is given, and nothing if it is not (`Gives`), provided
that the other fields leave it alone: `RecordShape.Tracks` says so of a shape, and
`RecordShape.read_places` is what follows for every text.
-/

namespace Almanac.Json

variable {bytes rest : List UInt8} {names : List String} {given : List (String × List UInt8)}

/-- A record in which these names are given values at these places. An array gives values to the
names of the fields in order; an object may have more members than there are fields. -/
inductive RecordAt (names : List String) (bytes : List UInt8) :
    List (String × List UInt8) → List UInt8 → Prop
  | object {given : List (String × List UInt8)} {rest : List UInt8}
      (members : ObjectAt bytes given rest) : RecordAt names bytes given rest
  | array {places : List (List UInt8)} {rest : List UInt8}
      (elements : ArrayAt bytes places rest) : RecordAt names bytes (names.zip places) rest

theorem not_arrayAt_of_objectAt {places : List (List UInt8)} {rest' : List UInt8}
    (h : ObjectAt bytes given rest) : ¬ ArrayAt bytes places rest' := by
  obtain ⟨text, opens, -⟩ := h
  rintro ⟨text', opens', -⟩
  rw [opens] at opens'
  cases opens'

/-- **What a record gives is determined by the text.** -/
theorem RecordAt.unique {given' : List (String × List UInt8)} {rest' : List UInt8}
    (h : RecordAt names bytes given rest) (h' : RecordAt names bytes given' rest') :
    given = given' := by
  cases h with
  | object members =>
    cases h' with
    | object members' => exact (members.unique members').1
    | array elements' => exact absurd elements' (not_arrayAt_of_objectAt members)
  | array elements =>
    cases h' with
    | object members' => exact absurd elements (not_arrayAt_of_objectAt members')
    | array elements' => rw [(elements.unique elements').1]

theorem RecordAt.skipValue (h : RecordAt names bytes given rest) :
    skipValue bytes = .ok rest := by
  cases h with
  | object members => exact skipValue_of_objectAt members
  | array elements => exact skipValue_of_arrayAt elements

/-! ## One field -/

variable {σ α β : Type} {name : String} {get : σ → Option β}

/-- What the given values make of one field: the value at its place, if it is given. -/
structure Gives (given : List (String × List UInt8)) (name : String) (item : Reader β)
    (value? : Option β) : Prop where
  read : ∀ place, (name, place) ∈ given →
    ∃ value after, value? = some value ∧ item place = .ok (value, after)
  stands : ∀ value, value? = some value → ∃ place, (name, place) ∈ given

/-- What a given value does to what is known of one field: it is set by its own value, and left
alone by every other. -/
inductive Follows (get : σ → Option β) (name : String) (item : Reader β) :
    σ → String → List UInt8 → σ → Prop
  | sets {draft draft' : σ} {place after : List UInt8} {value : β} (unset : get draft = none)
      (read : item place = .ok (value, after)) (set : get draft' = some value) :
      Follows get name item draft name place draft'
  | leaves {draft draft' : σ} {other : String} {place : List UInt8} (apart : other ≠ name)
      (kept : get draft' = get draft) : Follows get name item draft other place draft'

variable {item : Reader β} {draft final : σ}

/-- A field that is set is not given again. -/
theorem Folds.of_some {value : β} (h : Folds (Follows get name item) draft given final)
    (hset : get draft = some value) :
    get final = some value ∧ ∀ place, (name, place) ∉ given := by
  induction h with
  | nil draft => exact ⟨hset, by simp⟩
  | cons first others ih =>
    cases first with
    | sets unset read set =>
      rw [hset] at unset
      cases unset
    | leaves apart kept =>
      obtain ⟨hfinal, hgiven⟩ := ih (kept.trans hset)
      refine ⟨hfinal, fun place => ?_⟩
      rw [List.mem_cons, not_or]
      refine ⟨?_, hgiven place⟩
      rintro ⟨rfl, rfl⟩
      exact apart rfl

theorem Folds.gives (h : Folds (Follows get name item) draft given final)
    (hunset : get draft = none) : Gives given name item (get final) := by
  induction h with
  | nil draft =>
    rw [hunset]
    exact ⟨by simp, nofun⟩
  | cons first others ih =>
    cases first with
    | sets unset read set =>
      -- set once, the field is not given again
      obtain ⟨hfinal, hgiven⟩ := others.of_some set
      rw [hfinal]
      refine ⟨fun place hplace => ?_, fun _ _ => ⟨_, List.mem_cons_self⟩⟩
      rcases List.mem_cons.1 hplace with heq | hmem
      · cases heq
        exact ⟨_, _, rfl, read⟩
      · exact absurd hmem (hgiven place)
    | leaves apart kept =>
      -- another name says nothing of the field
      obtain ⟨hread, hstands⟩ := ih (kept.trans hunset)
      refine ⟨fun place hplace => ?_, fun value hvalue => ?_⟩
      · rcases List.mem_cons.1 hplace with heq | hmem
        · cases heq
          exact absurd rfl apart
        · exact hread place hmem
      · obtain ⟨place, hplace⟩ := hstands value hvalue
        exact ⟨place, List.mem_cons_of_mem _ hplace⟩

/-! ## Records -/

/-- The field takes values, and makes of one what `item` reads. -/
structure Field.Sets (field : Field σ) (get : σ → Option β) (item : Nat → Reader β) : Prop where
  takes : ∀ room draft, TakesValues (field.read room draft)
  given : ∀ draft, field.given draft = false → get draft = none
  sets : ∀ ⦃room draft bytes draft' rest⦄, field.read room draft bytes = .ok (draft', rest) →
    ∃ value, item room bytes = .ok (value, rest) ∧ get draft' = some value

/-- The field takes values, and leaves what is known of another field as it is. -/
structure Field.Leaves (field : Field σ) (get : σ → Option β) : Prop where
  takes : ∀ room draft, TakesValues (field.read room draft)
  leaves : ∀ ⦃room draft bytes draft' rest⦄, field.read room draft bytes = .ok (draft', rest) →
    get draft' = get draft

/-- A field that is read by `reader` and put into the draft. -/
def Field.part (name : String) (get : σ → Option β) (set : σ → β → σ) (reader : Nat → Reader β) :
    Field σ where
  name := name
  given draft := (get draft).isSome
  read room draft := mapRead (set draft) (reader room)

theorem Field.sets_part {set : σ → β → σ} {reader : Nat → Reader β}
    (hreader : ∀ room, TakesValues (reader room))
    (hset : ∀ draft value, get (set draft value) = some value) :
    (Field.part name get set reader).Sets get reader where
  takes room draft := (hreader room).map (set draft)
  given draft hgiven := Option.isNone_iff_eq_none.1 (Option.isSome_eq_false_iff.1 hgiven)
  sets room draft bytes draft' rest hread := by
    obtain ⟨value, hvalue, rfl⟩ := mapRead_eq_ok_iff.1 hread
    exact ⟨value, hvalue, hset draft value⟩

theorem Field.leaves_part {γ : Type} {get' : σ → Option γ} {set : σ → γ → σ}
    {reader : Nat → Reader γ} (hreader : ∀ room, TakesValues (reader room))
    (hset : ∀ draft value, get (set draft value) = get draft) :
    (Field.part name get' set reader).Leaves get where
  takes room draft := (hreader room).map (set draft)
  leaves room draft bytes draft' rest hread := by
    obtain ⟨value, -, rfl⟩ := mapRead_eq_ok_iff.1 hread
    exact hset draft value

/-- What is known of one field in the drafts of a shape is what its own value makes of it. -/
structure RecordShape.Tracks (shape : RecordShape σ α) (name : String) (get : σ → Option β)
    (item : Nat → Reader β) : Prop where
  distinct : (shape.fields.map Field.name).Nodup
  known : name ∈ shape.fields.map Field.name
  start : get shape.start = none
  sets : ∀ field ∈ shape.fields, field.name = name → field.Sets get item
  leaves : ∀ field ∈ shape.fields, field.name ≠ name → field.Leaves get

variable {shape : RecordShape σ α} {items : Nat → Reader β} {room : Nat}

theorem RecordShape.Tracks.takes (h : shape.Tracks name get items) {field : Field σ}
    (hfield : field ∈ shape.fields) (room : Nat) (draft : σ) :
    TakesValues (field.read room draft) := by
  by_cases hname : field.name = name
  · exact (h.sets field hfield hname).takes room draft
  · exact (h.leaves field hfield hname).takes room draft

theorem RecordShape.Tracks.follows (h : shape.Tracks name get items) {field : Field σ}
    (hfield : field ∈ shape.fields) {draft draft' : σ} {place : List UInt8}
    (hunset : field.name = name → get draft = none)
    (hread : field.read room draft place = .ok (draft', rest)) :
    Follows get name (items room) draft field.name place draft' := by
  by_cases hname : field.name = name
  · obtain ⟨value, hvalue, hset⟩ := (h.sets field hfield hname).sets hread
    rw [hname]
    exact .sets (hunset hname) hvalue hset
  · exact .leaves hname ((h.leaves field hfield hname).leaves hread)

theorem RecordShape.Tracks.member (h : shape.Tracks name get items) :
    TakesMembers (shape.member room) (Follows get name (items room)) := by
  intro draft other bytes draft' rest hmember
  unfold RecordShape.member at hmember
  split at hmember
  · next field hfind =>
    have hfield := List.mem_of_find?_eq_some hfind
    have hother : field.name = other := by simpa using List.find?_some hfind
    split at hmember
    · cases hmember
    · next hgiven =>
      obtain ⟨place, hcolon, hread⟩ := bind_eq_ok_iff.1 hmember
      refine ⟨place, hcolon, h.takes hfield room draft hread, ?_⟩
      rw [← hother]
      refine h.follows hfield (fun hname => ?_) hread
      exact (h.sets field hfield hname).given draft (Bool.eq_false_iff.2 hgiven)
  · -- no field has the name, so the value is passed over and nothing is set
    next hfind =>
    obtain ⟨place, hcolon, hread⟩ := bind_eq_ok_iff.1 hmember
    obtain ⟨after, hpassed, heq⟩ := bind_eq_ok_iff.1 hread
    cases heq
    refine ⟨place, hcolon, hpassed, .leaves ?_ rfl⟩
    rintro rfl
    obtain ⟨field, hfield, hname⟩ := List.mem_map.1 h.known
    have hnone := List.find?_eq_none.1 hfind field hfield
    exact hnone (beq_iff_eq.2 hname)

/-- The elements of an array are taken for the fields in order. -/
theorem RecordShape.Tracks.readFields (h : shape.Tracks name get items) {fields : List (Field σ)}
    (hfields : ∀ field ∈ fields, field ∈ shape.fields) (hdistinct : (fields.map Field.name).Nodup)
    {first : Bool} {behind : List UInt8} (hunset : name ∈ fields.map Field.name → get draft = none)
    (hread : readFields room draft first fields bytes = .ok (final, behind))
    (hclose : closeArray behind = .ok rest) :
    ∃ places, Elements first bytes places rest ∧
      Folds (Follows get name (items room)) draft ((fields.map Field.name).zip places) final := by
  induction fields generalizing draft first bytes with
  | nil =>
    cases hread
    exact ⟨[], .done (closeArray_eq_ok_iff.1 hclose), .nil _⟩
  | cons field fields ih =>
    rw [List.forall_mem_cons] at hfields
    rw [List.map_cons, List.nodup_cons] at hdistinct
    obtain ⟨⟨more, place⟩, hnext, htaken⟩ := bind_eq_ok_iff.1 hread
    cases more with
    | true =>
      obtain ⟨⟨draft', after⟩, hfield, hothers⟩ := bind_eq_ok_iff.1 htaken
      have hfollows : Follows get name (items room) draft field.name place draft' := by
        refine h.follows hfields.1 (fun hname => ?_) hfield
        exact hunset (by rw [← hname]; exact List.mem_cons_self)
      -- the fields have different names, so what is set now is not among the later ones
      have hunset' : name ∈ fields.map Field.name → get draft' = none := by
        intro hmem
        have hapart : field.name ≠ name := by
          rintro rfl
          exact hdistinct.1 hmem
        rw [(h.leaves field hfields.1 hapart).leaves hfield]
        exact hunset (List.mem_cons_of_mem _ hmem)
      obtain ⟨places, helements, hfolds⟩ := ih hfields.2 hdistinct.2 hunset' hothers
      exact ⟨place :: places,
        .element (nextElement_some hnext) (h.takes hfields.1 room draft hfield) helements,
        .cons hfollows hfolds⟩
    -- the array ends early, and the remaining fields stand for no element
    | false =>
      cases htaken
      rw [closeArray_eq_ok_iff, ← nextElement_none hnext, skipSpace_skipSpace] at hclose
      exact ⟨[], .done hclose, by rw [List.zip_nil_right]; exact .nil _⟩

theorem checked_eq_ok_iff {outcome : Except Mismatch α} {record : α} :
    checked outcome = .ok record ↔ outcome = .ok record := by
  cases outcome <;> simp [checked]

/-- **What a record is read from.** The draft that it is made from knows of a field what the text
gives at its place. -/
theorem RecordShape.read_places (h : shape.Tracks name get items) {record : α}
    (hread : shape.read room bytes = .ok (record, rest)) :
    ∃ given draft, RecordAt (shape.fields.map Field.name) bytes given rest ∧
      Gives given name (items (room - 1)) (get draft) ∧
      (shape.ofObject draft = .ok record ∨ shape.ofArray draft = .ok record) := by
  unfold RecordShape.read at hread
  split at hread
  · cases hread
  · cases hread
  · cases hread
  · -- a record is written as an object or as an array
    next text room hopens =>
    obtain ⟨⟨draft, behind⟩, hdraft, hrecord⟩ := bind_eq_ok_iff.1 hread
    obtain ⟨record, hchecked, heq⟩ := bind_eq_ok_iff.1 hrecord
    cases heq
    obtain ⟨members, hmembers, hfolds⟩ := foldMembersFrom_places h.member hdraft
    exact ⟨members, draft, .object ⟨text, hopens, hmembers⟩, hfolds.gives h.start,
      .inl (checked_eq_ok_iff.1 hchecked)⟩
  · next text room hopens =>
    obtain ⟨⟨draft, behind⟩, hdraft, hrecord⟩ := bind_eq_ok_iff.1 hread
    obtain ⟨record, hchecked, hclosed⟩ := bind_eq_ok_iff.1 hrecord
    obtain ⟨after, hclose, heq⟩ := bind_eq_ok_iff.1 hclosed
    cases heq
    obtain ⟨places, helements, hfolds⟩ := h.readFields (fun _ => id) h.distinct
      (fun _ => h.start) hdraft hclose
    exact ⟨_, draft, .array ⟨text, hopens, helements⟩, hfolds.gives h.start,
      .inr (checked_eq_ok_iff.1 hchecked)⟩
  · cases hread

theorem RecordShape.Tracks.takesValues (h : shape.Tracks name get items) (room : Nat) :
    TakesValues (shape.read room) := by
  intro bytes record rest hread
  obtain ⟨given, draft, hgiven, -⟩ := RecordShape.read_places h hread
  exact hgiven.skipValue

theorem readAll_eq_ok {reader : Reader α} {text : List UInt8} {value : α}
    (h : readAll reader text = .ok value) : ∃ rest, reader text = .ok (value, rest) := by
  obtain ⟨⟨read, rest⟩, hread, hend⟩ := bind_eq_ok_iff.1 h
  dsimp only at hend
  split at hend
  · cases hend
    exact ⟨rest, hread⟩
  · cases hend

/-! ## Fields that are objects -/

/-- The record gives an object with these members for the field. -/
def FieldObjectAt (names : List String) (bytes : List UInt8) (name : String)
    (members : List (String × List UInt8)) : Prop :=
  ∃ given rest place after, RecordAt names bytes given rest ∧ (name, place) ∈ given ∧
    ObjectAt place members after

theorem fieldObjectAt_of_readObject {place after : List UInt8}
    {members : List (String × List UInt8)}
    (hrecord : readObject (fun _ => here) 1 bytes = .ok (given, rest))
    (hfield : (name, place) ∈ given)
    (hobject : readObject (fun _ => here) 1 place = .ok (members, after)) :
    FieldObjectAt names bytes name members :=
  ⟨given, rest, place, after, .object (objectAt_of_readObject hrecord), hfield,
    objectAt_of_readObject hobject⟩

/-- The entries have the name of each member once, in the order of the first members and with the
values that are read at the places of the last. -/
structure Settled (item : Reader α) (members : List (String × List UInt8))
    (entries : List (String × α)) : Prop where
  once : (Assoc.keys entries).Nodup
  names : Assoc.keys entries = (Assoc.keys members).eraseDups
  values : ∀ name value, (name, value) ∈ entries ↔
    ∃ place after, Assoc.Last members name place ∧ item place = .ok (value, after)

/-- An object, of whose members of one name the last counts, in the place of the first. -/
def readSettled (item : Nat → Reader α) (room : Nat) : Reader (List (String × α)) :=
  mapRead Assoc.ofPairs (readObject item room)

theorem takesValues_readSettled {item : Nat → Reader α} (hitem : ∀ room, TakesValues (item room))
    (room : Nat) : TakesValues (readSettled item room) :=
  (takesValues_readObject hitem room).map Assoc.ofPairs

variable {members : List (String × List UInt8)} {pairs entries : List (String × α)}

theorem keys_of_readFrom {item : Reader α} (h : List.Forall₂ (ReadFrom item) members pairs) :
    Assoc.keys pairs = Assoc.keys members := by
  induction h with
  | nil => rfl
  | cons first others ih => rw [Assoc.keys_cons, Assoc.keys_cons, first.1, ih]

theorem last_of_readFrom {item : Reader α} (h : List.Forall₂ (ReadFrom item) members pairs)
    (name : String) (value : α) :
    Assoc.Last pairs name value ↔
      ∃ place after, Assoc.Last members name place ∧ item place = .ok (value, after) := by
  induction h with
  | nil => exact ⟨fun h => absurd h Assoc.last_nil, fun ⟨_, _, h, _⟩ => absurd h Assoc.last_nil⟩
  | @cons member pair members pairs first others ih =>
    obtain ⟨hname, after, hvalue⟩ := first
    rw [Assoc.last_cons_iff, ih, keys_of_readFrom others]
    refine ⟨?_, ?_⟩
    · rintro (⟨rfl, hlast⟩ | ⟨place, after, hlast, hread⟩)
      · have hmember : member = (name, member.2) := Prod.ext hname.symm rfl
        exact ⟨member.2, after, Assoc.last_cons_iff.2 (.inl ⟨hmember, hlast⟩), hvalue⟩
      · exact ⟨place, after, Assoc.last_cons_iff.2 (.inr hlast), hread⟩
    · rintro ⟨place, after, hplace, hread⟩
      rcases Assoc.last_cons_iff.1 hplace with ⟨rfl, hlast⟩ | hlast
      · rw [hvalue] at hread
        cases hread
        exact .inl ⟨Prod.ext hname rfl, hlast⟩
      · exact .inr ⟨place, after, hlast, hread⟩

theorem settled_ofPairs {item : Reader α} (h : List.Forall₂ (ReadFrom item) members pairs) :
    Settled item members (Assoc.ofPairs pairs) where
  once := Assoc.nodup_keys_ofPairs pairs
  names := by rw [Assoc.keys_ofPairs, keys_of_readFrom h]
  values name value := by rw [Assoc.mem_ofPairs_iff, last_of_readFrom h]

theorem readSettled_places {item : Nat → Reader α} (hitem : ∀ room, TakesValues (item room))
    (h : readSettled item room bytes = .ok (entries, rest)) :
    ∃ members, ObjectAt bytes members rest ∧ Settled (item (room - 1)) members entries := by
  obtain ⟨pairs, hpairs, rfl⟩ := mapRead_eq_ok_iff.1 h
  obtain ⟨members, hmembers, hread⟩ := readObject_places hitem hpairs
  exact ⟨members, hmembers, settled_ofPairs hread⟩

/-- **What is read for a field that is an object** settles all its members, whatever they are. -/
theorem Gives.settled {item : Nat → Reader α} {entries? : Option (List (String × α))}
    (h : Gives given name (readSettled item room) entries?)
    (hitem : ∀ room, TakesValues (item room)) (hrecord : RecordAt names bytes given rest) :
    (∀ entries, entries? = some entries → ∃ members, FieldObjectAt names bytes name members) ∧
      ∀ members, FieldObjectAt names bytes name members →
        ∃ entries, entries? = some entries ∧ Settled (item (room - 1)) members entries := by
  refine ⟨?_, ?_⟩
  · intro entries hentries
    obtain ⟨place, hplace⟩ := h.stands entries hentries
    obtain ⟨value, after, -, hread⟩ := h.read place hplace
    obtain ⟨members, hmembers, -⟩ := readSettled_places hitem hread
    exact ⟨members, given, rest, place, after, hrecord, hplace, hmembers⟩
  · rintro members ⟨given', rest', place, after', hrecord', hplace, hmembers⟩
    cases hrecord.unique hrecord'
    obtain ⟨entries, after, hentries, hread⟩ := h.read place hplace
    obtain ⟨members', hmembers', hsettled⟩ := readSettled_places hitem hread
    rw [(hmembers.unique hmembers').1]
    exact ⟨entries, hentries, hsettled⟩

end Almanac.Json
