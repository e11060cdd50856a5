import Almanac.Json.Reader
import Almanac.Proofs.Json.Scalars
import Mathlib.Data.List.DropRight
import Mathlib.Data.List.Forall2

/-!
# Where the parts of a text stand

A place in a text is the text from there on. `Elements` and `Members` say at which places the parts
of an array or object stand, without reading them: where one part ends, and the next one can start,
is told by passing over it. There is only one way to take a text apart (`Elements.unique`,
`Members.unique`).

A reader takes values (`TakesValues`) if what it reads ends where it is passed over. All readers do
so that are made of readers that do, hence a reader comes to its parts at the places where
they stand, whatever it makes of them (`readElements_places`, `readMembers_places`).
-/

namespace Almanac.Json

variable {bytes rest final : List UInt8} {first : Bool}

/-! ## Places -/

/-- The next part of an array or object would stand here: the first one right away, every other one
behind a comma. -/
inductive Starts : Bool → List UInt8 → List UInt8 → Prop
  | first (bytes : List UInt8) : Starts true bytes (skipSpace bytes)
  | next {bytes text : List UInt8} (comma : skipSpace bytes = Byte.comma :: text) :
      Starts false bytes (skipSpace text)

/-- The places of the elements of an array, from somewhere before an element or the end. -/
inductive Elements : Bool → List UInt8 → List (List UInt8) → List UInt8 → Prop
  | done {first : Bool} {bytes rest : List UInt8}
      (closes : skipSpace bytes = Byte.closeBracket :: rest) : Elements first bytes [] rest
  | element {first : Bool} {bytes place after rest : List UInt8} {places : List (List UInt8)}
      (starts : Starts first bytes place) (passed : skipValue place = .ok after)
      (others : Elements false after places rest) : Elements first bytes (place :: places) rest

/-- The names of the members of an object with the places of their values, from somewhere before a
member or the end. -/
inductive Members : Bool → List UInt8 → List (String × List UInt8) → List UInt8 → Prop
  | done {first : Bool} {bytes rest : List UInt8}
      (closes : skipSpace bytes = Byte.closeBrace :: rest) : Members first bytes [] rest
  | member {first : Bool} {bytes text behind place after rest : List UInt8} {name : String}
      {members : List (String × List UInt8)} (starts : Starts first bytes (Byte.quote :: text))
      (named : readText text = .ok (name, behind))
      (colon : skipSpace behind = Byte.colon :: place) (passed : skipValue place = .ok after)
      (others : Members false after members rest) :
      Members first bytes ((name, place) :: members) rest

/-- An array with elements at these places. -/
def ArrayAt (bytes : List UInt8) (places : List (List UInt8)) (rest : List UInt8) : Prop :=
  ∃ text, skipSpace bytes = Byte.openBracket :: text ∧ Elements true text places rest

/-- An object with members of these names and places. -/
def ObjectAt (bytes : List UInt8) (members : List (String × List UInt8)) (rest : List UInt8) :
    Prop :=
  ∃ text, skipSpace bytes = Byte.openBrace :: text ∧ Members true text members rest

theorem skipSpace_skipSpace (bytes : List UInt8) : skipSpace (skipSpace bytes) = skipSpace bytes :=
  List.dropWhile_idempotent ..

theorem skipSpace_of_cons {byte : UInt8} (h : skipSpace bytes = byte :: rest) :
    skipSpace (byte :: rest) = byte :: rest := by
  rw [← h, skipSpace_skipSpace]

theorem Starts.unique {place place' : List UInt8} (h : Starts first bytes place)
    (h' : Starts first bytes place') : place = place' := by
  cases h with
  | first => cases h'; rfl
  | next comma =>
    cases h' with
    | next comma' =>
      rw [comma] at comma'
      cases comma'
      rfl

/-- No value starts with what ends an array. -/
theorem skipValue_close_ne (h : skipSpace bytes = Byte.closeBracket :: rest) :
    skipValue bytes ≠ .ok final := by
  intro hpassed
  cases skipValue_eq_ok_iff.1 hpassed with
  | step first others =>
    cases first with
    | scalar passed =>
      rw [h] at passed
      cases passed
    | empty frame opens closes | enter frame opens starts stays entered =>
      rw [h] at opens
      cases frame <;> cases opens

theorem Starts.close_ne {place : List UInt8} (h : Starts first bytes place)
    (closes : skipSpace bytes = Byte.closeBracket :: rest) : skipValue place ≠ .ok final := by
  cases h with
  | first =>
    rw [← skipSpace_skipSpace] at closes
    exact skipValue_close_ne closes
  | next comma =>
    rw [closes] at comma
    cases comma

/-- **The elements of an array can stand in one way only.** -/
theorem Elements.unique {places places' : List (List UInt8)} {rest' : List UInt8}
    (h : Elements first bytes places rest) (h' : Elements first bytes places' rest') :
    places = places' ∧ rest = rest' := by
  -- the text decides at each place whether another element starts, and where it ends
  induction h generalizing places' with
  | done closes =>
    cases h' with
    | done closes' =>
      rw [closes] at closes'
      cases closes'
      exact ⟨rfl, rfl⟩
    | element starts passed others => exact absurd passed (starts.close_ne closes)
  | element starts passed others ih =>
    cases h' with
    | done closes => exact absurd passed (starts.close_ne closes)
    | element starts' passed' others' =>
      cases starts.unique starts'
      rw [passed] at passed'
      cases passed'
      obtain ⟨rfl, rfl⟩ := ih others'
      exact ⟨rfl, rfl⟩

/-- No member starts with what ends an object. -/
theorem Starts.not_closed {text : List UInt8} (h : Starts first bytes (Byte.quote :: text)) :
    skipSpace bytes ≠ Byte.closeBrace :: rest := by
  intro closes
  generalize hplace : Byte.quote :: text = place at h
  cases h with
  | first =>
    rw [closes] at hplace
    cases hplace
  | next comma =>
    rw [closes] at comma
    cases comma

/-- **The members of an object can stand in one way only.** -/
theorem Members.unique {members members' : List (String × List UInt8)} {rest' : List UInt8}
    (h : Members first bytes members rest) (h' : Members first bytes members' rest') :
    members = members' ∧ rest = rest' := by
  induction h generalizing members' with
  | done closes =>
    cases h' with
    | done closes' =>
      rw [closes] at closes'
      cases closes'
      exact ⟨rfl, rfl⟩
    | member starts => exact absurd closes starts.not_closed
  | member starts named colon passed others ih =>
    cases h' with
    | done closes => exact absurd closes starts.not_closed
    | member starts' named' colon' passed' others' =>
      -- name, place and end of the member are read off the same text
      cases starts.unique starts'
      rw [named] at named'
      cases named'
      rw [colon] at colon'
      cases colon'
      rw [passed] at passed'
      cases passed'
      obtain ⟨rfl, rfl⟩ := ih others'
      exact ⟨rfl, rfl⟩

theorem ArrayAt.unique {places places' : List (List UInt8)} {rest' : List UInt8}
    (h : ArrayAt bytes places rest) (h' : ArrayAt bytes places' rest') :
    places = places' ∧ rest = rest' := by
  obtain ⟨text, opens, elements⟩ := h
  obtain ⟨text', opens', elements'⟩ := h'
  rw [opens] at opens'
  cases opens'
  exact elements.unique elements'

theorem ObjectAt.unique {members members' : List (String × List UInt8)} {rest' : List UInt8}
    (h : ObjectAt bytes members rest) (h' : ObjectAt bytes members' rest') :
    members = members' ∧ rest = rest' := by
  obtain ⟨text, opens, inside⟩ := h
  obtain ⟨text', opens', inside'⟩ := h'
  rw [opens] at opens'
  cases opens'
  exact inside.unique inside'

/-! ## Arrays and objects end where they are passed over -/

variable {frames : List Frame} {places : List (List UInt8)}
  {members : List (String × List UInt8)}

/-- White space before a value makes no difference. -/
theorem Passes.skipSpace (h : Passes .value frames (Json.skipSpace bytes) final) :
    Passes .value frames bytes final := by
  cases h with
  | step first others =>
    refine .step ?_ others
    cases first with
    | scalar passed =>
      rw [skipSpace_skipSpace] at passed
      exact .scalar passed
    | empty frame opens closes =>
      rw [skipSpace_skipSpace] at opens
      exact .empty frame opens closes
    | enter frame opens starts stays entered =>
      rw [skipSpace_skipSpace] at opens
      exact .enter frame opens starts stays entered

theorem passes_elements (h : Elements first bytes places rest) (hfirst : first = false)
    (hrest : Passes .comma frames rest final) :
    Passes .comma (.array :: frames) bytes final := by
  induction h with
  | done closes => exact .step (.close .array closes) hrest
  | element starts passed others ih =>
    subst hfirst
    cases starts with
    | next comma =>
      exact .step (.next .array comma rfl) (Passes.value passed (ih rfl hrest)).skipSpace

/-- **An array ends where it is passed over.** -/
theorem skipValue_of_arrayAt (h : ArrayAt bytes places rest) : skipValue bytes = .ok rest := by
  obtain ⟨text, opens, elements⟩ := h
  rw [skipValue_eq_ok_iff]
  cases elements with
  | done closes => exact .step (.empty .array opens closes) (.done rest)
  | element starts passed others =>
    have hothers := passes_elements others rfl (.done rest)
    -- the first element comes without a comma
    generalize hplace : true = first at starts
    cases starts with
    | next => cases hplace
    | first =>
      cases htext : skipSpace text with
      | nil =>
        rw [htext] at passed
        cases passed
      | cons byte place =>
        rw [htext] at passed
        -- what is passed over as a value does not close the array
        have hstays : byte ≠ Frame.array.close := by
          rintro rfl
          exact skipValue_close_ne (skipSpace_of_cons htext) passed
        exact .step (.enter .array opens htext hstays rfl) (Passes.value passed hothers)

theorem skipName_of_member {text behind place : List UInt8} {name : String}
    (starts : skipSpace bytes = Byte.quote :: text)
    (named : readText text = .ok (name, behind))
    (colon : skipSpace behind = Byte.colon :: place) : skipName bytes = .ok place := by
  rw [skipName, starts]
  refine bind_eq_ok_iff.2 ⟨behind, skipText_of_readText named, ?_⟩
  rw [colon]
  rfl

theorem passes_members (h : Members first bytes members rest) (hfirst : first = false)
    (hrest : Passes .comma frames rest final) :
    Passes .comma (.object :: frames) bytes final := by
  induction h with
  | done closes => exact .step (.close .object closes) hrest
  | @member first bytes text behind place after rest name members starts named colon passed others
      ih =>
    subst hfirst
    generalize hplace : Byte.quote :: text = item at starts
    cases starts with
    | next comma =>
      exact .step (.next .object comma (skipName_of_member hplace.symm named colon))
        (Passes.value passed (ih rfl hrest))

/-- **An object ends where it is passed over.** -/
theorem skipValue_of_objectAt (h : ObjectAt bytes members rest) : skipValue bytes = .ok rest := by
  obtain ⟨text, opens, inside⟩ := h
  rw [skipValue_eq_ok_iff]
  cases inside with
  | done closes => exact .step (.empty .object opens closes) (.done rest)
  | @member _ _ name behind place after _ _ _ starts named colon passed others =>
    have hothers := passes_members others rfl (.done rest)
    generalize hfirst : true = first at starts
    generalize hplace : Byte.quote :: name = item at starts
    cases starts with
    | next => cases hfirst
    | first =>
      have hname : skipName (Byte.quote :: name) = .ok place :=
        skipName_of_member (skipSpace_of_cons hplace.symm) named colon
      exact .step (.enter .object opens hplace.symm (by decide) hname) (Passes.value passed hothers)

/-! ## Readers -/

/-- What the reader reads ends where it is passed over. -/
def TakesValues {α : Type} (reader : Reader α) : Prop :=
  ∀ ⦃bytes value rest⦄, reader bytes = .ok (value, rest) → skipValue bytes = .ok rest

theorem skipValue_of_passScalar (h : passScalar (skipSpace bytes) = .ok rest) :
    skipValue bytes = .ok rest :=
  skipValue_eq_ok_iff.2 (.step (.scalar h) (.done rest))

theorem takesValues_readString : TakesValues readString := by
  intro bytes text rest h
  refine skipValue_of_passScalar ?_
  unfold readString at h
  split at h
  · cases h
  · next hquote =>
    rw [hquote]
    exact skipText_of_readText h
  · cases h

/-- Makes something else of what is read. -/
def mapRead {α β : Type} (f : α → β) (reader : Reader α) : Reader β := fun bytes => do
  let (value, rest) ← reader bytes
  return (f value, rest)

theorem mapRead_eq_ok_iff {α β : Type} {f : α → β} {reader : Reader α} {made : β} :
    mapRead f reader bytes = .ok (made, rest) ↔
      ∃ value, reader bytes = .ok (value, rest) ∧ f value = made := by
  unfold mapRead
  rw [bind_eq_ok_iff]
  refine ⟨?_, ?_⟩
  · rintro ⟨⟨value, _⟩, hread, heq⟩
    obtain ⟨rfl, rfl⟩ := Prod.mk.inj (Except.ok.inj heq)
    exact ⟨value, hread, rfl⟩
  · rintro ⟨value, hread, rfl⟩
    exact ⟨(value, rest), hread, rfl⟩

theorem TakesValues.map {α β : Type} {reader : Reader α} (h : TakesValues reader) (f : α → β) :
    TakesValues (mapRead f reader) := by
  intro bytes made rest hread
  obtain ⟨value, hvalue, -⟩ := mapRead_eq_ok_iff.1 hread
  exact h hvalue

/-- A number that must be whole and not negative, behind its sign. -/
def readCounted (negative : Bool) : Reader Nat := fun bytes => do
  let (number, rest) ← readNumber negative bytes
  match number with
  | .integer n =>
    if 0 ≤ n then return (n.toNat, rest)
    else .error (.misshapen (.wrongValue (.number number) .count))
  | .real _ => .error (.misshapen (.wrongType (.number number) .count))

theorem skipNumber_of_readCounted {negative : Bool} {count : Nat}
    (h : readCounted negative bytes = .ok (count, rest)) : skipNumber bytes = .ok rest := by
  obtain ⟨⟨number, behind⟩, hnumber, hcount⟩ := bind_eq_ok_iff.1 h
  cases number with
  | integer n =>
    dsimp only at hcount
    split at hcount
    · cases hcount
      exact skipNumber_of_readNumber hnumber
    · cases hcount
  | real x => cases hcount

theorem takesValues_readCount : TakesValues readCount := by
  intro bytes count rest h
  refine skipValue_of_passScalar ?_
  unfold readCount at h
  dsimp only at h
  split at h
  · cases h
  · next hminus =>
    rw [hminus]
    exact skipNumber_of_readCounted h
  · next byte behind hminus hbytes =>
    split at h
    · next hdigit =>
      rw [hbytes, passScalar_of_digit hdigit]
      exact skipNumber_of_readCounted h
    · cases h

theorem takesValues_readScalar {value : Value}
    (h : readScalar (skipSpace bytes) = .ok (value, rest)) : skipValue bytes = .ok rest :=
  skipValue_of_passScalar (passScalar_of_readScalar h)

variable {α : Type} {item : Reader α}

theorem nextElement_some {place : List UInt8} (h : nextElement first bytes = .ok (true, place)) :
    Starts first bytes place := by
  unfold nextElement at h
  split at h
  · cases h
  · cases h
  · next byte behind hclose hbytes =>
    -- the first element stands where it is, and each other one behind a comma
    cases first with
    | true =>
      cases h
      rw [← hbytes]
      exact .first bytes
    | false =>
      rw [if_neg Bool.false_ne_true] at h
      split at h
      · next hcomma =>
        rw [beq_iff_eq.1 hcomma] at hbytes
        split at h
        · cases h
        · cases h
        · cases h
          exact .next hbytes
      · cases h

theorem nextElement_none {behind : List UInt8} (h : nextElement first bytes = .ok (false, behind)) :
    skipSpace bytes = behind := by
  unfold nextElement at h
  split at h
  · cases h
  · next hclose =>
    cases h
    exact hclose
  · split at h
    · cases h
    · split at h
      · split at h <;> cases h
      · cases h

theorem closeArray_eq_ok_iff :
    closeArray bytes = .ok rest ↔ skipSpace bytes = Byte.closeBracket :: rest := by
  unfold closeArray
  split
  · next hend => simp [hend]
  · next hclose => rw [hclose]; exact ⟨fun h => by cases h; rfl, fun h => by cases h; rfl⟩
  · next hother => exact ⟨nofun, fun h => absurd h (hother rest)⟩

/-- The elements are read at their places. -/
theorem readElementsFrom_places (hitem : TakesValues item) {done values : List α}
    {measure : List UInt8}
    (h : readElementsFrom item done first measure bytes = .ok (values, rest)) :
    ∃ places others, Elements first bytes places rest ∧
      List.Forall₂ (fun place value => ∃ after, item place = .ok (value, after)) places others ∧
      values = done.reverse ++ others := by
  induction measure generalizing done first bytes with
  | nil => cases h
  | cons _ measure ih =>
    obtain ⟨⟨more, place⟩, hnext, hread⟩ := bind_eq_ok_iff.1 h
    cases more with
    | true =>
      obtain ⟨⟨value, after⟩, hvalue, hothers⟩ := bind_eq_ok_iff.1 hread
      obtain ⟨places, others, helements, hplaces, rfl⟩ := ih hothers
      refine ⟨place :: places, value :: others, ?_, .cons ⟨after, hvalue⟩ hplaces, by simp⟩
      exact .element (nextElement_some hnext) (hitem hvalue) helements
    | false =>
      obtain ⟨behind, hclose, heq⟩ := bind_eq_ok_iff.1 hread
      cases heq
      rw [closeArray_eq_ok_iff, ← nextElement_none hnext, skipSpace_skipSpace] at hclose
      exact ⟨[], [], .done hclose, .nil, by simp⟩

theorem readArray_places {item : Nat → Reader α} {room : Nat} {values : List α}
    (hitem : ∀ room, TakesValues (item room)) (h : readArray item room bytes = .ok (values, rest)) :
    ∃ places, ArrayAt bytes places rest ∧
      List.Forall₂ (fun place value => ∃ after, item (room - 1) place = .ok (value, after))
        places values := by
  unfold readArray at h
  split at h
  · cases h
  · cases h
  · next text room hopens =>
    obtain ⟨places, others, helements, hplaces, rfl⟩ := readElementsFrom_places (hitem room) h
    exact ⟨places, ⟨text, hopens, helements⟩, hplaces⟩
  · cases h

theorem expectColon_eq_ok_iff :
    expectColon bytes = .ok rest ↔ skipSpace bytes = Byte.colon :: rest := by
  unfold expectColon
  split
  · next hend => simp [hend]
  · next hcolon => rw [hcolon]; exact ⟨fun h => by cases h; rfl, fun h => by cases h; rfl⟩
  · next hother => exact ⟨nofun, fun h => absurd h (hother rest)⟩

/-- The name that starts here. -/
def readName (bytes : List UInt8) : Except Problem (Option String × List UInt8) :=
  match bytes with
  | [] => .error .truncated
  | Byte.quote :: rest => do
    let (name, rest) ← readText rest
    return (some name, rest)
  | _ => .error .malformed

theorem readName_eq_ok {name? : Option String} (h : readName bytes = .ok (name?, rest)) :
    ∃ text name, bytes = Byte.quote :: text ∧ name? = some name ∧
      readText text = .ok (name, rest) := by
  unfold readName at h
  split at h
  · cases h
  · next text =>
    obtain ⟨⟨name, behind⟩, hname, heq⟩ := bind_eq_ok_iff.1 h
    cases heq
    exact ⟨text, name, rfl, rfl, hname⟩
  · cases h

theorem nextMember_eq_ok {name? : Option String}
    (h : nextMember first bytes = .ok (name?, rest)) :
    (name? = none ∧ skipSpace bytes = Byte.closeBrace :: rest) ∨
      ∃ text name, name? = some name ∧ Starts first bytes (Byte.quote :: text) ∧
        readText text = .ok (name, rest) := by
  unfold nextMember at h
  dsimp only at h
  split at h
  · cases h
  · next hclose =>
    cases h
    exact .inl ⟨rfl, hclose⟩
  · next byte behind hclose hbytes =>
    refine .inr ?_
    -- the first member stands where it is, and each other one behind a comma
    cases first with
    | true =>
      obtain ⟨text, name, htext, rfl, hname⟩ := readName_eq_ok h
      rw [← hbytes] at htext
      exact ⟨text, name, rfl, htext ▸ .first bytes, hname⟩
    | false =>
      rw [if_neg Bool.false_ne_true] at h
      split at h
      · next hcomma =>
        rw [beq_iff_eq.1 hcomma] at hbytes
        obtain ⟨text, name, htext, rfl, hname⟩ := readName_eq_ok h
        exact ⟨text, name, rfl, htext ▸ .next hbytes, hname⟩
      · cases h

/-- What steps over the members make of a state, one after the other. -/
inductive Folds {σ : Type} (step : σ → String → List UInt8 → σ → Prop) :
    σ → List (String × List UInt8) → σ → Prop
  | nil (state : σ) : Folds step state [] state
  | cons {state state' final : σ} {name : String} {place : List UInt8}
      {members : List (String × List UInt8)} (first : step state name place state')
      (others : Folds step state' members final) : Folds step state ((name, place) :: members) final

/-- What takes up a member makes a step from the place of its value, and takes that value. -/
def TakesMembers {σ : Type} (member : σ → String → Reader σ)
    (step : σ → String → List UInt8 → σ → Prop) : Prop :=
  ∀ ⦃state name bytes state' rest⦄, member state name bytes = .ok (state', rest) →
    ∃ place, expectColon bytes = .ok place ∧ skipValue place = .ok rest ∧
      step state name place state'

/-- The members are taken up at their places. -/
theorem foldMembersFrom_places {σ : Type} {member : σ → String → Reader σ}
    {step : σ → String → List UInt8 → σ → Prop} (hmember : TakesMembers member step)
    {state final : σ} {measure : List UInt8}
    (h : foldMembersFrom member state first measure bytes = .ok (final, rest)) :
    ∃ members, Members first bytes members rest ∧ Folds step state members final := by
  -- each round leaves the rest of the text to the next one, and the measure only bounds the rounds
  induction measure generalizing state first bytes with
  | nil => cases h
  | cons _ measure ih =>
    obtain ⟨⟨next, behind⟩, hnext, hread⟩ := bind_eq_ok_iff.1 h
    cases next with
    | some name =>
      obtain ⟨⟨state', after⟩, htaken, hothers⟩ := bind_eq_ok_iff.1 hread
      obtain ⟨place, hcolon, hpassed, hstep⟩ := hmember htaken
      obtain ⟨members, hmembers, hfolds⟩ := ih hothers
      obtain ⟨hnone, -⟩ | ⟨text, name, hname, hstarts, hnamed⟩ := nextMember_eq_ok hnext
      · cases hnone
      cases hname
      exact ⟨(name, place) :: members,
        .member hstarts hnamed (expectColon_eq_ok_iff.1 hcolon) hpassed hmembers,
        .cons hstep hfolds⟩
    | none =>
      cases hread
      obtain ⟨-, hclose⟩ | ⟨text, name, hname, -⟩ := nextMember_eq_ok hnext
      · exact ⟨[], .done hclose, .nil _⟩
      · cases hname

/-- The value has been read under this name and from this place. -/
def ReadFrom (item : Reader α) (member : String × List UInt8) (pair : String × α) : Prop :=
  pair.1 = member.1 ∧ ∃ after, item member.2 = .ok (pair.2, after)

/-- One more member has been read from this place. -/
def Reads (item : Reader α) (done : List (String × α)) (name : String) (place : List UInt8)
    (done' : List (String × α)) : Prop :=
  ∃ pair, ReadFrom item (name, place) pair ∧ done' = pair :: done

theorem takesMembers_readMember (hitem : TakesValues item) :
    TakesMembers (readMember item) (Reads item) := by
  intro done name bytes done' rest h
  obtain ⟨place, hcolon, hread⟩ := bind_eq_ok_iff.1 h
  obtain ⟨⟨value, after⟩, hvalue, heq⟩ := bind_eq_ok_iff.1 hread
  obtain ⟨rfl, rfl⟩ := Prod.mk.inj (Except.ok.inj heq)
  exact ⟨place, hcolon, hitem hvalue, (name, value), ⟨rfl, after, hvalue⟩, rfl⟩

theorem Folds.reads {done final : List (String × α)} {members : List (String × List UInt8)}
    (h : Folds (Reads item) done members final) :
    ∃ pairs, List.Forall₂ (ReadFrom item) members pairs ∧ final = pairs.reverse ++ done := by
  induction h with
  | nil done => exact ⟨[], .nil, rfl⟩
  | cons first others ih =>
    obtain ⟨pair, hpair, rfl⟩ := first
    obtain ⟨pairs, hpairs, rfl⟩ := ih
    exact ⟨pair :: pairs, .cons hpair hpairs, by simp⟩

/-- **The members of an object are read at their places**, each once and in order. -/
theorem readMembers_places (hitem : TakesValues item) {pairs : List (String × α)}
    (h : readMembers item bytes = .ok (pairs, rest)) :
    ∃ members, Members true bytes members rest ∧ List.Forall₂ (ReadFrom item) members pairs := by
  obtain ⟨⟨read, behind⟩, hread, heq⟩ := bind_eq_ok_iff.1 h
  cases heq
  obtain ⟨members, hmembers, hfolds⟩ := foldMembersFrom_places
    (takesMembers_readMember hitem) hread
  obtain ⟨pairs, hpairs, rfl⟩ := hfolds.reads
  exact ⟨members, hmembers, by simpa using hpairs⟩

/-- **An object is read at the places of its members.** -/
theorem readObject_places {item : Nat → Reader α} {room : Nat} {pairs : List (String × α)}
    (hitem : ∀ room, TakesValues (item room))
    (h : readObject item room bytes = .ok (pairs, rest)) :
    ∃ members, ObjectAt bytes members rest ∧
      List.Forall₂ (ReadFrom (item (room - 1))) members pairs := by
  unfold readObject at h
  split at h
  · cases h
  · cases h
  · next text room hopens =>
    obtain ⟨members, hmembers, hpairs⟩ := readMembers_places (hitem room) h
    exact ⟨members, ⟨text, hopens, hmembers⟩, hpairs⟩
  · cases h

/-- Tells where a value stands, and passes over it. -/
def here : Reader (List UInt8) := fun bytes => do return (bytes, ← skipValue bytes)

theorem here_eq_ok_iff {place : List UInt8} :
    here bytes = .ok (place, rest) ↔ place = bytes ∧ skipValue bytes = .ok rest := by
  unfold here
  rw [bind_eq_ok_iff]
  refine ⟨?_, ?_⟩
  · rintro ⟨after, hpassed, heq⟩
    obtain ⟨rfl, rfl⟩ := Prod.mk.inj (Except.ok.inj heq)
    exact ⟨rfl, hpassed⟩
  · rintro ⟨rfl, hpassed⟩
    exact ⟨rest, hpassed, rfl⟩

/-- The places of the members of an object can be computed. -/
theorem objectAt_of_readObject {members : List (String × List UInt8)}
    (h : readObject (fun _ => here) 1 bytes = .ok (members, rest)) :
    ObjectAt bytes members rest := by
  have htakes : TakesValues here := fun _ _ _ hplace => (here_eq_ok_iff.1 hplace).2
  obtain ⟨members', hmembers, hplaces⟩ := readObject_places (fun _ => htakes) h
  have hsame : members' = members := by
    rw [← List.forall₂_eq_eq_eq]
    refine hplaces.imp fun member pair hread => ?_
    obtain ⟨hname, after, hplace⟩ := hread
    exact Prod.ext hname.symm (here_eq_ok_iff.1 hplace).1.symm
  rwa [hsame] at hmembers

theorem takesValues_readArray {item : Nat → Reader α} (hitem : ∀ room, TakesValues (item room))
    (room : Nat) : TakesValues (readArray item room) := by
  intro bytes values rest h
  obtain ⟨places, hplaces, -⟩ := readArray_places hitem h
  exact skipValue_of_arrayAt hplaces

theorem takesValues_readObject {item : Nat → Reader α} (hitem : ∀ room, TakesValues (item room))
    (room : Nat) : TakesValues (readObject item room) := by
  intro bytes pairs rest h
  obtain ⟨members, hmembers, -⟩ := readObject_places hitem h
  exact skipValue_of_objectAt hmembers

/-- **Any value that is read ends where it is passed over.** -/
theorem takesValues_readValue (room : Nat) : TakesValues (readValue room) := by
  -- what is within an array or an object has less room
  induction room with
  | zero =>
    intro bytes value rest h
    unfold readValue at h
    split at h
    · cases h
    · cases h
    · exact takesValues_readScalar h
  | succ room ih =>
    intro bytes value rest h
    unfold readValue at h
    split at h
    · next text hopens =>
      obtain ⟨⟨items, behind⟩, hitems, heq⟩ := bind_eq_ok_iff.1 h
      cases heq
      obtain ⟨places, -, helements, -⟩ := readElementsFrom_places ih hitems
      exact skipValue_of_arrayAt ⟨text, hopens, helements⟩
    · next text hopens =>
      obtain ⟨⟨pairs, behind⟩, hpairs, heq⟩ := bind_eq_ok_iff.1 h
      cases heq
      obtain ⟨members, hmembers, -⟩ := readMembers_places ih hpairs
      exact skipValue_of_objectAt ⟨text, hopens, hmembers⟩
    · exact takesValues_readScalar h

end Almanac.Json
