import Almanac.Decimal.Binary64

/-!
# The shortest decimal of a floating point number

A floating point number is shown by the fewest decimal digits that read back as it. Every number
owns the interval of reals that round to it; the digits sought are a multiple, inside that
interval, of the greatest power of ten that has one there, and the nearest of these to the number
itself.
-/

namespace Almanac.Binary64

/-- `digits * 10 ^ exponent` -/
structure Decimal where
  digits : Nat
  exponent : Int
  deriving DecidableEq, Repr

/-- Numerators over one denominator: the number, and the ends of its interval. -/
structure Span where
  low : Nat
  mid : Nat
  high : Nat
  den : Nat
  /-- Whether the ends belong to the interval. -/
  closed : Bool

/-- The reals that round to `x`. Below a power of two the next number is half as far away. -/
def span (x : Binary64) : Span :=
  let low := if x.mantissa = Nat.pow 2 52 ∧ minExponent < x.exponent then 1 else 2
  let scale := Nat.pow 2 x.exponent.toNat
  ⟨(4 * x.mantissa - low) * scale, 4 * x.mantissa * scale, (4 * x.mantissa + 2) * scale,
    4 * Nat.pow 2 (-x.exponent).toNat, x.mantissa % 2 == 0⟩

/-- Whether `n` units of `num / den` lie in the interval. -/
def Span.covers (s : Span) (num den n : Nat) : Bool :=
  let point := n * num * s.den
  if s.closed then s.low * den ≤ point && point ≤ s.high * den
  else s.low * den < point && point < s.high * den

/-- The multiple of the unit `num / den` in the interval that is nearest to the number. -/
def Span.nearest? (s : Span) (num den : Nat) : Option Nat :=
  let below := s.mid * den / (s.den * num)
  let above := below + 1
  match s.covers num den below, s.covers num den above with
  | true, true =>
    let toBelow := s.mid * den - below * num * s.den
    let toAbove := above * num * s.den - s.mid * den
    if toBelow < toAbove || (toBelow == toAbove && below % 2 == 0) then some below else some above
  | true, false => some below
  | false, true => some above
  | false, false => none

/-- The first unit that has a multiple in the interval, counting down from `10 ^ exponent` for so
many steps. -/
def Span.search (s : Span) : Nat → Int → Decimal
  | 0, exponent => ⟨0, exponent⟩
  | steps + 1, exponent =>
    match s.nearest? (Nat.pow 10 exponent.toNat) (Nat.pow 10 (-exponent).toNat) with
    | some digits => ⟨digits, exponent⟩
    | none => s.search steps (exponent - 1)

/-- The fewest digits that read back as `x`. No number reaches `10 ^ 309`, and `10 ^ -325` is finer
than every interval. -/
def shortest (x : Binary64) : Decimal := x.span.search 640 309

/-- How the text of a number is laid out. -/
structure Layout where
  /-- Numbers with a leading digit below this power of ten have an exponent. -/
  leastPositional : Int
  /-- Numbers with a leading digit above this power of ten have an exponent. -/
  greatestPositional : Int

/-- From `0.00001` up to sixteen digits before the point. -/
def layout : Layout := ⟨-5, 15⟩

/-- The magnitude of a number other than zero. A point stands between the digits, or `.0` behind
them; very large and very small numbers have one digit before the point and a signed exponent. -/
def Decimal.text (d : Decimal) (layout : Layout) : String :=
  let digits := Nat.toDigits 10 d.digits
  let lead : Int := digits.length - 1 + d.exponent
  if layout.leastPositional ≤ lead ∧ lead ≤ layout.greatestPositional then
    if 0 ≤ d.exponent then
      String.ofList (digits ++ List.replicate d.exponent.toNat '0') ++ ".0"
    else if 0 ≤ lead then
      let (whole, fraction) := digits.splitAt (lead.toNat + 1)
      String.ofList whole ++ "." ++ String.ofList fraction
    else
      "0." ++ String.ofList (List.replicate (-lead - 1).toNat '0' ++ digits)
  else
    let fraction := digits.drop 1
    String.ofList (digits.take 1)
      ++ (if fraction.isEmpty then "" else "." ++ String.ofList fraction)
      ++ "e" ++ (if lead < 0 then "-" else "+") ++ toString lead.natAbs

/-- The text of a floating point number. -/
def text (x : Binary64) : String :=
  (if x.negative then "-" else "") ++ (if x.isZero then "0.0" else x.shortest.text layout)

instance : ToString Binary64 := ⟨text⟩

end Almanac.Binary64
