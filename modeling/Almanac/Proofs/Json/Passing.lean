import Almanac.Json.Skip
import Almanac.Proofs.Outcome

/-!
# Passing over a value

A value that nobody wants is passed over by a machine that keeps the open arrays and objects on a
stack. `PassStep` says what it can do next, and `Passes` what a run of it comes to. Every step takes
a byte at least, so a text as long as the one that is passed over has steps enough for all of it
(`skipFrom_eq_ok_iff`). What the machine does above a stack does not depend on that stack
(`Passes.append`), so a value is passed over in the same way wherever it stands (`Passes.value`).
-/

namespace Almanac.Json

variable {bytes rest : List UInt8}

/-! ## Lengths -/

theorem skipSpace_length_le (bytes : List UInt8) : (skipSpace bytes).length ≤ bytes.length :=
  (List.dropWhile_sublist _).length_le

theorem length_lt_of_skipSpace {byte : UInt8} (h : skipSpace bytes = byte :: rest) :
    rest.length < bytes.length := by
  have := skipSpace_length_le bytes
  rw [h, List.length_cons] at this
  omega

theorem skipTextFrom_length {measure : List UInt8} (h : skipTextFrom measure bytes = .ok rest) :
    rest.length < bytes.length := by
  fun_induction skipTextFrom measure bytes with
  | case1 | case2 | case4 | case6 | case7 | case9 | case10 => cases h
  | case3 => cases h; exact Nat.lt_succ_self _
  | case5 _ _ _ _ _ _ _ _ ih | case8 _ _ _ _ _ _ _ ih | case11 _ _ _ _ _ _ _ ih =>
    have := ih h
    simp only [List.length_cons]
    omega

theorem expectBytes_length {word : List UInt8} (h : expectBytes word bytes = .ok rest) :
    rest.length ≤ bytes.length := by
  induction word generalizing bytes with
  | nil => cases h; exact Nat.le_refl _
  | cons want wanted ih =>
    cases bytes with
    | nil => cases h
    | cons byte bytes =>
      rw [expectBytes] at h
      split at h
      · exact Nat.le_succ_of_le (ih h)
      · cases h

theorem skipDigits_length (bytes : List UInt8) : (skipDigits bytes).length ≤ bytes.length :=
  (List.dropWhile_sublist _).length_le

theorem skipSomeDigits_length (h : skipSomeDigits bytes = .ok rest) :
    rest.length < bytes.length := by
  cases bytes with
  | nil => cases h
  | cons byte bytes =>
    rw [skipSomeDigits] at h
    split at h
    · cases h
      exact Nat.lt_succ_of_le (skipDigits_length bytes)
    · cases h

/-- Passes over the digits of an exponent, behind its letter. -/
def skipPower (bytes : List UInt8) : Except Problem (List UInt8) :=
  match bytes with
  | Byte.plus :: rest | Byte.minus :: rest => skipSomeDigits rest
  | rest => skipSomeDigits rest

/-- Passes over the digits of a number before its point. -/
def skipWhole (bytes : List UInt8) : Except Problem (List UInt8) :=
  match bytes with
  | Byte.zero :: rest =>
    match rest with
    | byte :: _ => if (Byte.digit? byte).isSome then .error .malformed else .ok rest
    | [] => .ok rest
  | _ => skipSomeDigits bytes

/-- Passes over what stands behind those digits. -/
def skipTail (bytes : List UInt8) : Except Problem (List UInt8) :=
  match bytes with
  | Byte.point :: rest => do skipExponent (← skipSomeDigits rest)
  | _ => skipExponent bytes

theorem skipNumber_eq (bytes : List UInt8) : skipNumber bytes = (skipWhole bytes >>= skipTail) := by
  unfold skipNumber
  split
  · next rest =>
    cases rest with
    | nil => rfl
    | cons byte rest =>
      unfold skipWhole
      by_cases hdigit : (Byte.digit? byte).isSome = true
      · simp only [hdigit, if_true]
        rfl
      · simp only [hdigit]
        rfl
  · next hzero =>
    unfold skipWhole
    simp only
    rfl

theorem skipExponent_eq (bytes : List UInt8) : skipExponent bytes =
  match bytes with
  | Byte.e :: rest | Byte.capitalE :: rest => skipPower rest
  | _ => .ok bytes := rfl

theorem skipPower_length (h : skipPower bytes = .ok rest) : rest.length < bytes.length := by
  unfold skipPower at h
  split at h
  · exact Nat.lt_succ_of_lt (skipSomeDigits_length h)
  · exact Nat.lt_succ_of_lt (skipSomeDigits_length h)
  · exact skipSomeDigits_length h

theorem skipExponent_length (h : skipExponent bytes = .ok rest) :
    rest.length ≤ bytes.length := by
  rw [skipExponent_eq] at h
  split at h
  · exact Nat.le_succ_of_le (Nat.le_of_lt (skipPower_length h))
  · exact Nat.le_succ_of_le (Nat.le_of_lt (skipPower_length h))
  · cases h
    exact Nat.le_refl _

theorem skipWhole_length (h : skipWhole bytes = .ok rest) : rest.length < bytes.length := by
  unfold skipWhole at h
  split at h
  · split at h
    · split at h
      · cases h
      · cases h
        exact Nat.lt_succ_self _
    · cases h
      exact Nat.lt_succ_self _
  · exact skipSomeDigits_length h

theorem skipTail_length (h : skipTail bytes = .ok rest) : rest.length ≤ bytes.length := by
  unfold skipTail at h
  split at h
  · obtain ⟨digits, hdigits, hexponent⟩ := bind_eq_ok_iff.1 h
    have := skipSomeDigits_length hdigits
    have := skipExponent_length hexponent
    simp only [List.length_cons]
    omega
  · exact skipExponent_length h

theorem skipNumber_length (h : skipNumber bytes = .ok rest) : rest.length < bytes.length := by
  rw [skipNumber_eq] at h
  obtain ⟨whole, hwhole, htail⟩ := bind_eq_ok_iff.1 h
  exact Nat.lt_of_le_of_lt (skipTail_length htail) (skipWhole_length hwhole)

/-- Passes over a value that is neither an array nor an object, from its first byte. -/
def passScalar : List UInt8 → Except Problem (List UInt8)
  | [] => .error .truncated
  | Byte.quote :: rest => skipText rest
  | Byte.n :: rest => expectWord "ull" rest
  | Byte.t :: rest => expectWord "rue" rest
  | Byte.f :: rest => expectWord "alse" rest
  | Byte.minus :: rest => skipNumber rest
  | byte :: rest =>
    if (Byte.digit? byte).isSome then skipNumber (byte :: rest) else .error .malformed

theorem passScalar_of_other {byte : UInt8} (hquote : byte ≠ Byte.quote) (hnull : byte ≠ Byte.n)
    (htrue : byte ≠ Byte.t) (hfalse : byte ≠ Byte.f) (hminus : byte ≠ Byte.minus) :
    passScalar (byte :: rest) =
      if (Byte.digit? byte).isSome then skipNumber (byte :: rest) else .error .malformed := by
  rw [passScalar]
  all_goals assumption

theorem passScalar_of_digit {byte : UInt8} (h : (Byte.digit? byte).isSome = true) :
    passScalar (byte :: rest) = skipNumber (byte :: rest) := by
  have hother : ∀ other : UInt8, Byte.digit? other = none → byte ≠ other := by
    rintro other hnone rfl
    rw [hnone] at h
    cases h
  rw [passScalar_of_other (hother _ rfl) (hother _ rfl) (hother _ rfl) (hother _ rfl)
    (hother _ rfl), if_pos h]

theorem skipName_length (h : skipName bytes = .ok rest) : rest.length < bytes.length := by
  unfold skipName at h
  split at h
  · cases h
  · next text hquote =>
    obtain ⟨afterName, hname, hcolon⟩ := bind_eq_ok_iff.1 h
    split at hcolon
    · cases hcolon
    · next behind hbehind =>
      cases hcolon
      have htext := length_lt_of_skipSpace hquote
      have hafterName := skipTextFrom_length hname
      have hrest := length_lt_of_skipSpace hbehind
      omega
    · cases hcolon
  · cases h

theorem Frame.enter_length {frame : Frame} (h : frame.enter bytes = .ok rest) :
    rest.length ≤ bytes.length := by
  cases frame with
  | array => cases h; exact Nat.le_refl _
  | object => exact Nat.le_of_lt (skipName_length h)

theorem passScalar_length (h : passScalar bytes = .ok rest) : rest.length < bytes.length := by
  unfold passScalar at h
  split at h
  · cases h
  · exact Nat.lt_succ_of_lt (skipTextFrom_length h)
  · exact Nat.lt_succ_of_le (expectBytes_length h)
  · exact Nat.lt_succ_of_le (expectBytes_length h)
  · exact Nat.lt_succ_of_le (expectBytes_length h)
  · exact Nat.lt_succ_of_lt (skipNumber_length h)
  · split at h
    · exact skipNumber_length h
    · cases h

/-! ## Steps -/

/-- The byte that opens an array or object. -/
def Frame.opening : Frame → UInt8
  | array => Byte.openBracket
  | object => Byte.openBrace

theorem passScalar_opening (frame : Frame) (inside : List UInt8) :
    passScalar (frame.opening :: inside) = .error .malformed := by
  cases frame <;> rfl

/-- What can come next while a value is passed over. -/
inductive PassStep : Expecting → List Frame → List UInt8 → Expecting → List Frame → List UInt8 →
    Prop
  | scalar {frames : List Frame} {bytes rest : List UInt8}
      (passed : passScalar (skipSpace bytes) = .ok rest) :
      PassStep .value frames bytes .comma frames rest
  | empty {frames : List Frame} {bytes inside rest : List UInt8} (frame : Frame)
      (opens : skipSpace bytes = frame.opening :: inside)
      (closes : skipSpace inside = frame.close :: rest) :
      PassStep .value frames bytes .comma frames rest
  | enter {frames : List Frame} {bytes inside others item : List UInt8} {byte : UInt8}
      (frame : Frame) (opens : skipSpace bytes = frame.opening :: inside)
      (starts : skipSpace inside = byte :: others) (stays : byte ≠ frame.close)
      (entered : frame.enter (byte :: others) = .ok item) :
      PassStep .value frames bytes .value (frame :: frames) item
  | next {frames : List Frame} {bytes others item : List UInt8} (frame : Frame)
      (comma : skipSpace bytes = Byte.comma :: others) (entered : frame.enter others = .ok item) :
      PassStep .comma (frame :: frames) bytes .value (frame :: frames) item
  | close {frames : List Frame} {bytes rest : List UInt8} (frame : Frame)
      (closes : skipSpace bytes = frame.close :: rest) :
      PassStep .comma (frame :: frames) bytes .comma frames rest

/-- Passes over what is left of an array or object behind the byte that opens it. -/
def passInside (measure : List UInt8) (frames : List Frame) (frame : Frame)
    (inside : List UInt8) : Except Problem (List UInt8) :=
  match skipSpace inside with
  | [] => .error .truncated
  | byte :: rest =>
    if byte == frame.close then skipFrom measure .comma frames rest
    else do skipFrom measure .value (frame :: frames) (← frame.enter (byte :: rest))

variable {expecting expecting' : Expecting} {frames frames' : List Frame}
  {bytes' final measure : List UInt8} {byte : UInt8}

theorem skipFrom_opening {frame : Frame} {inside : List UInt8}
    (h : skipSpace bytes = frame.opening :: inside) :
    skipFrom (byte :: measure) .value frames bytes = passInside measure frames frame inside := by
  cases frame <;> (rw [skipFrom, h]; rfl)

theorem skipFrom_scalar (h : ∀ (frame : Frame) inside, skipSpace bytes ≠ frame.opening :: inside) :
    skipFrom (byte :: measure) .value frames bytes =
      (passScalar (skipSpace bytes) >>= skipFrom measure .comma frames) := by
  rw [skipFrom]
  split
  · next hspace => rw [hspace]; rfl
  · next hspace => exact absurd hspace (h .array _)
  · next hspace => exact absurd hspace (h .object _)
  · next hspace => rw [hspace]; rfl
  · next hspace => rw [hspace]; rfl
  · next hspace => rw [hspace]; rfl
  · next hspace => rw [hspace]; rfl
  · next hspace => rw [hspace]; rfl
  · next first rest _ _ hquote hnull htrue hfalse hminus hspace =>
    rw [hspace, passScalar_of_other hquote hnull htrue hfalse hminus]
    split <;> rfl

theorem passInside_eq_ok_iff {frame : Frame} {inside final : List UInt8} :
    passInside measure frames frame inside = .ok final ↔
      (∃ rest, skipSpace inside = frame.close :: rest ∧
        skipFrom measure .comma frames rest = .ok final) ∨
      ∃ byte others item, skipSpace inside = byte :: others ∧ byte ≠ frame.close ∧
        frame.enter (byte :: others) = .ok item ∧
        skipFrom measure .value (frame :: frames) item = .ok final := by
  unfold passInside
  cases hinside : skipSpace inside with
  | nil => simp
  | cons byte others =>
    by_cases hclose : byte = frame.close
    · simp [hclose]
    · simp [hclose, bind_eq_ok_iff]

theorem skipFrom_comma_eq_ok_iff {frame : Frame} {final : List UInt8} :
    skipFrom (byte :: measure) .comma (frame :: frames) bytes = .ok final ↔
      (∃ others item, skipSpace bytes = Byte.comma :: others ∧ frame.enter others = .ok item ∧
        skipFrom measure .value (frame :: frames) item = .ok final) ∨
      ∃ rest, skipSpace bytes = frame.close :: rest ∧
        skipFrom measure .comma frames rest = .ok final := by
  have hapart : frame.close ≠ Byte.comma := by cases frame <;> decide
  rw [skipFrom]
  cases hbytes : skipSpace bytes with
  | nil => simp
  | cons byte others =>
    by_cases hcomma : byte = Byte.comma
    · simp [hcomma, Ne.symm hapart, bind_eq_ok_iff]
    · by_cases hclose : byte = frame.close
      · simp [hclose, hapart]
      · simp [hcomma, hclose]

/-- **What a step of passing over does.** -/
theorem skipFrom_cons_eq_ok_iff (hgoing : expecting = .comma → frames ≠ []) :
    skipFrom (byte :: measure) expecting frames bytes = .ok final ↔
      ∃ expecting' frames' bytes', PassStep expecting frames bytes expecting' frames' bytes' ∧
        skipFrom measure expecting' frames' bytes' = .ok final := by
  refine ⟨?_, ?_⟩
  · -- what is expected, and the byte that is there, say which of the steps it was
    intro h
    cases expecting with
    | value =>
      by_cases hopening : ∃ (frame : Frame) (inside : List UInt8),
          skipSpace bytes = frame.opening :: inside
      · obtain ⟨frame, inside, hopens⟩ := hopening
        rw [skipFrom_opening hopens, passInside_eq_ok_iff] at h
        rcases h with ⟨rest, hcloses, hfinal⟩ | ⟨first, others, item, hfirst, hstays, hitem, hfinal⟩
        · exact ⟨_, _, _, .empty frame hopens hcloses, hfinal⟩
        · exact ⟨_, _, _, .enter frame hopens hfirst hstays hitem, hfinal⟩
      · simp only [not_exists] at hopening
        rw [skipFrom_scalar hopening, bind_eq_ok_iff] at h
        obtain ⟨rest, hpassed, hfinal⟩ := h
        exact ⟨_, _, _, .scalar hpassed, hfinal⟩
    | comma =>
      cases frames with
      -- a comma is expected only within something
      | nil => exact absurd rfl (hgoing rfl)
      | cons frame frames =>
        rw [skipFrom_comma_eq_ok_iff] at h
        rcases h with ⟨others, item, hcomma, hitem, hfinal⟩ | ⟨rest, hcloses, hfinal⟩
        · exact ⟨_, _, _, .next frame hcomma hitem, hfinal⟩
        · exact ⟨_, _, _, .close frame hcloses, hfinal⟩
  · -- each step leaves the reader where it goes on
    rintro ⟨expecting', frames', bytes', hstep, hfinal⟩
    cases hstep with
    | scalar passed =>
      -- what opens an object or an array is passed over as no scalar
      have hopening : ∀ (frame : Frame) inside, skipSpace bytes ≠ frame.opening :: inside := by
        intro frame inside hopens
        rw [hopens, passScalar_opening] at passed
        cases passed
      rw [skipFrom_scalar hopening, passed]
      exact hfinal
    | empty frame opens closes =>
      rw [skipFrom_opening opens]
      exact passInside_eq_ok_iff.2 (.inl ⟨_, closes, hfinal⟩)
    | enter frame opens starts stays entered =>
      rw [skipFrom_opening opens]
      exact passInside_eq_ok_iff.2 (.inr ⟨_, _, _, starts, stays, entered, hfinal⟩)
    | next frame comma entered =>
      exact skipFrom_comma_eq_ok_iff.2 (.inl ⟨_, _, comma, entered, hfinal⟩)
    | close frame closes =>
      exact skipFrom_comma_eq_ok_iff.2 (.inr ⟨_, closes, hfinal⟩)

/-- Every step takes a byte. -/
theorem PassStep.length_lt (h : PassStep expecting frames bytes expecting' frames' bytes') :
    bytes'.length < bytes.length := by
  cases h with
  | scalar passed => exact Nat.lt_of_lt_of_le (passScalar_length passed) (skipSpace_length_le _)
  | empty frame opens closes =>
    exact Nat.lt_trans (length_lt_of_skipSpace closes) (length_lt_of_skipSpace opens)
  | enter frame opens starts stays entered =>
    have hinside := length_lt_of_skipSpace opens
    have hothers := length_lt_of_skipSpace starts
    have hitem := Frame.enter_length entered
    simp only [List.length_cons] at hitem
    omega
  | next frame comma entered =>
    exact Nat.lt_of_le_of_lt (Frame.enter_length entered) (length_lt_of_skipSpace comma)
  | close frame closes => exact length_lt_of_skipSpace closes

/-- The frames below take no part in a step. -/
theorem PassStep.append (h : PassStep expecting frames bytes expecting' frames' bytes')
    (below : List Frame) :
    PassStep expecting (frames ++ below) bytes expecting' (frames' ++ below) bytes' := by
  cases h with
  | scalar passed => exact .scalar passed
  | empty frame opens closes => exact .empty frame opens closes
  | enter frame opens starts stays entered => exact .enter frame opens starts stays entered
  | next frame comma entered => exact .next frame comma entered
  | close frame closes => exact .close frame closes

/-! ## Runs -/

/-- Passing over comes to an end, before this rest. -/
inductive Passes : Expecting → List Frame → List UInt8 → List UInt8 → Prop
  | done (rest : List UInt8) : Passes .comma [] rest rest
  | step {expecting expecting' : Expecting} {frames frames' : List Frame}
      {bytes bytes' rest : List UInt8}
      (first : PassStep expecting frames bytes expecting' frames' bytes')
      (others : Passes expecting' frames' bytes' rest) : Passes expecting frames bytes rest

theorem passes_of_skipFrom (h : skipFrom measure expecting frames bytes = .ok final) :
    Passes expecting frames bytes final := by
  induction measure generalizing expecting frames bytes with
  | nil =>
    cases expecting with
    | value => cases h
    | comma =>
      cases frames with
      | nil => cases h; exact .done _
      | cons frame frames => cases h
  | cons byte measure ih =>
    by_cases hdone : expecting = .comma ∧ frames = []
    · obtain ⟨rfl, rfl⟩ := hdone
      cases h
      exact .done _
    · rw [skipFrom_cons_eq_ok_iff (not_and.1 hdone)] at h
      obtain ⟨expecting', frames', bytes', hstep, hfinal⟩ := h
      exact .step hstep (ih hfinal)

theorem Passes.skipFrom (h : Passes expecting frames bytes final)
    (hlength : bytes.length ≤ measure.length) :
    skipFrom measure expecting frames bytes = .ok final := by
  induction h generalizing measure with
  | done rest => cases measure <;> rfl
  | @step expecting expecting' frames frames' bytes bytes' rest first others ih =>
    have hshorter := first.length_lt
    cases measure with
    | nil => exact absurd hlength (Nat.not_le_of_lt (Nat.lt_of_le_of_lt (Nat.zero_le _) hshorter))
    | cons byte measure =>
      have hgoing : expecting = .comma → frames ≠ [] := by
        rintro rfl rfl
        cases first
      refine (skipFrom_cons_eq_ok_iff hgoing).2 ⟨_, _, _, first, ih ?_⟩
      simp only [List.length_cons] at hlength
      omega

/-- **Where passing over ends** is where some run ends, however many steps there are to spare. -/
theorem skipFrom_eq_ok_iff (hlength : bytes.length ≤ measure.length) :
    Json.skipFrom measure expecting frames bytes = .ok final ↔
      Passes expecting frames bytes final :=
  ⟨passes_of_skipFrom, fun h => h.skipFrom hlength⟩

theorem skipValue_eq_ok_iff : skipValue bytes = .ok rest ↔ Passes .value [] bytes rest :=
  skipFrom_eq_ok_iff (Nat.le_refl _)

/-- A run goes on where another one ends. -/
theorem Passes.append (h : Passes expecting frames bytes rest) {below : List Frame}
    (hbelow : Passes .comma below rest final) :
    Passes expecting (frames ++ below) bytes final := by
  induction h with
  | done rest => exact hbelow
  | step first others ih => exact .step (first.append below) (ih hbelow)

/-- **A value is passed over in the same way wherever it stands.** -/
theorem Passes.value (h : skipValue bytes = .ok rest) (hrest : Passes .comma frames rest final) :
    Passes .value frames bytes final :=
  (skipValue_eq_ok_iff.1 h).append hrest

end Almanac.Json
