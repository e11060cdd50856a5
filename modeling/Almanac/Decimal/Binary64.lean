/-!
# Binary floating point numbers

Numbers with a fraction or an exponent are read as 64-bit floating point: a mantissa of at most 53
bits times a power of two. They are kept here as that pair of whole numbers, so every operation is
exact arithmetic followed by one rounding to nearest, ties to even.
-/

namespace Almanac

/-- A finite floating point number: `mantissa * 2 ^ exponent`, with a sign that zero has too. -/
structure Binary64 where
  negative : Bool
  mantissa : Nat
  exponent : Int
  deriving DecidableEq, Repr

namespace Binary64

/-- The exponent of the smallest positive number. -/
def minExponent : Int := -1074

/-- The greatest exponent of a 53-bit mantissa. -/
def maxExponent : Int := 971

/-- Zero, with a sign. -/
def zero (negative : Bool) : Binary64 := ⟨negative, 0, minExponent⟩

/-- `num / den` rounded to a whole number, a half to the even neighbour. -/
def roundHalfEven (num den : Nat) : Nat :=
  let quotient := num / den
  let rest := 2 * (num % den)
  if rest < den then quotient
  else if den < rest then quotient + 1
  else if quotient % 2 = 0 then quotient
  else quotient + 1

/-- `num / den / 2 ^ exponent` as a fraction. -/
def shifted (num den : Nat) (exponent : Int) : Nat × Nat :=
  if exponent < 0 then (num * Nat.pow 2 exponent.natAbs, den)
  else (num, den * Nat.pow 2 exponent.toNat)

/-- The exponent that gives `num / den` a mantissa of 53 bits, or the least one there is. -/
def exponentOf (num den : Nat) : Int :=
  let estimate : Int := (num.log2 : Int) - den.log2 - 53
  let (n, d) := shifted num den estimate
  max minExponent (if d * Nat.pow 2 53 ≤ n then estimate + 1 else estimate)

/-- The positive fraction `num / den` rounded to nearest; nothing when it is too large. -/
def ofFraction? (num den : Nat) : Option Binary64 :=
  if num = 0 then some (zero false)
  else
    let exponent := exponentOf num den
    let (n, d) := shifted num den exponent
    let mantissa := roundHalfEven n d
    let (mantissa, exponent) :=
      if mantissa = Nat.pow 2 53 then (Nat.pow 2 52, exponent + 1) else (mantissa, exponent)
    if maxExponent < exponent then none
    else if mantissa = 0 then some (zero false)
    else some ⟨false, mantissa, exponent⟩

/-- The number without its sign, as a fraction. -/
def magnitude (x : Binary64) : Nat × Nat :=
  if x.exponent < 0 then (x.mantissa, Nat.pow 2 x.exponent.natAbs)
  else (x.mantissa * Nat.pow 2 x.exponent.toNat, 1)

/-- Whether the number is zero, of either sign. -/
def isZero (x : Binary64) : Bool := x.mantissa == 0

/-- The product of two magnitudes, rounded. -/
def mul? (x y : Binary64) : Option Binary64 :=
  let (a, b) := x.magnitude
  let (c, d) := y.magnitude
  ofFraction? (a * c) (b * d)

/-- The quotient of two magnitudes, rounded. The divisor is not zero. -/
def div? (x y : Binary64) : Option Binary64 :=
  let (a, b) := x.magnitude
  let (c, d) := y.magnitude
  ofFraction? (a * d) (b * c)

/-- The greatest power of ten that is a floating point number. -/
def maxPowerOfTen : Nat := 308

/-- The `n`th power of ten, rounded. -/
def powerOfTen? (n : Nat) : Option Binary64 := ofFraction? (Nat.pow 10 n) 1

/-- `x` divided by the `n`th power of ten. Powers that are too large are divided by in steps; three
steps bring every 64-bit number to zero. -/
def shrink : Nat → Binary64 → Nat → Option Binary64
  | 0, _, _ => some (zero false)
  | steps + 1, x, n =>
    if n ≤ maxPowerOfTen then (powerOfTen? n).bind x.div?
    else if x.isZero then some x
    else ((powerOfTen? maxPowerOfTen).bind x.div?).bind fun x => shrink steps x (n - maxPowerOfTen)

/-- `significand * 10 ^ exponent` as it is computed: the significand is rounded first, the power of
ten is rounded, and their product or quotient is rounded again. Nothing when it is too large. -/
def ofDecimal? (negative : Bool) (significand : Nat) (exponent : Int) : Option Binary64 :=
  let rounded := ofFraction? significand 1
  let scaled :=
    if significand = 0 then rounded
    else if exponent < 0 then rounded.bind fun x => shrink 4 x exponent.natAbs
    else if exponent.toNat ≤ maxPowerOfTen then
      rounded.bind fun x => (powerOfTen? exponent.toNat).bind x.mul?
    else none
  scaled.map fun x => { x with negative }

end Binary64

end Almanac
