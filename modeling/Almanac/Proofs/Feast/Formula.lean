import Mathlib.Algebra.Group.Int.Defs

/-!
# Formulas in 32 bits

A formula that is worked out on a machine has its values in 32 bits: one that does not fit wraps
around, quotients are cut off towards zero, and a remainder has the sign of its dividend. None of
this shows as long as every value on the way fits, no dividend is negative and every divisor is
positive. Then the machine finds the value that the formula has over the integers, where quotients
are rounded down (`Formula.toInt_run`).
-/

namespace Almanac

/-- A whole number that is worked out from a year. -/
inductive Formula
  | year
  | number (n : Int)
  | sum (a b : Formula)
  | difference (a b : Formula)
  | product (a b : Formula)
  | quotient (a b : Formula)
  | remainder (a b : Formula)

namespace Formula

instance (n : Nat) : OfNat Formula n := ⟨number n⟩

instance : Add Formula := ⟨sum⟩

instance : Sub Formula := ⟨difference⟩

instance : Mul Formula := ⟨product⟩

instance : Div Formula := ⟨quotient⟩

instance : Mod Formula := ⟨remainder⟩

/-- The value over the integers. -/
def value (y : Int) : Formula → Int
  | year => y
  | number n => n
  | sum a b => a.value y + b.value y
  | difference a b => a.value y - b.value y
  | product a b => a.value y * b.value y
  | quotient a b => a.value y / b.value y
  | remainder a b => a.value y % b.value y

/-- What the machine finds. -/
def run (y : Int32) : Formula → Int32
  | year => y
  | number n => Int32.ofInt n
  | sum a b => a.run y + b.run y
  | difference a b => a.run y - b.run y
  | product a b => a.run y * b.run y
  | quotient a b => a.run y / b.run y
  | remainder a b => a.run y % b.run y

/-- The number can be written in 32 bits. -/
def Fits (n : Int) : Prop := -2 ^ 31 ≤ n ∧ n < 2 ^ 31

/-- Every value on the way fits, no dividend is negative, and every divisor is positive. -/
def Exact (y : Int) : Formula → Prop
  | year => Fits y
  | number n => Fits n
  | sum a b => (a.Exact y ∧ b.Exact y) ∧ Fits (a.value y + b.value y)
  | difference a b => (a.Exact y ∧ b.Exact y) ∧ Fits (a.value y - b.value y)
  | product a b => (a.Exact y ∧ b.Exact y) ∧ Fits (a.value y * b.value y)
  | quotient a b =>
    (a.Exact y ∧ b.Exact y) ∧ (0 ≤ a.value y ∧ 0 < b.value y) ∧ Fits (a.value y / b.value y)
  | remainder a b =>
    (a.Exact y ∧ b.Exact y) ∧ (0 ≤ a.value y ∧ 0 < b.value y) ∧ Fits (a.value y % b.value y)

/-! ## Formulas as they are written -/

section
variable (y : Int) (a b : Formula)

@[simp] theorem value_year : year.value y = y := rfl

@[simp] theorem value_ofNat (n : Nat) :
    (no_index (OfNat.ofNat n) : Formula).value y = (OfNat.ofNat n : Int) := rfl

@[simp] theorem value_add : (a + b).value y = a.value y + b.value y := rfl

@[simp] theorem value_sub : (a - b).value y = a.value y - b.value y := rfl

@[simp] theorem value_mul : (a * b).value y = a.value y * b.value y := rfl

@[simp] theorem value_div : (a / b).value y = a.value y / b.value y := rfl

@[simp] theorem value_mod : (a % b).value y = a.value y % b.value y := rfl

@[simp] theorem exact_year : year.Exact y ↔ Fits y := Iff.rfl

@[simp] theorem exact_ofNat (n : Nat) :
    (no_index (OfNat.ofNat n) : Formula).Exact y ↔ Fits (OfNat.ofNat n) := Iff.rfl

@[simp] theorem exact_add :
    (a + b).Exact y ↔ (a.Exact y ∧ b.Exact y) ∧ Fits (a.value y + b.value y) := Iff.rfl

@[simp] theorem exact_sub :
    (a - b).Exact y ↔ (a.Exact y ∧ b.Exact y) ∧ Fits (a.value y - b.value y) := Iff.rfl

@[simp] theorem exact_mul :
    (a * b).Exact y ↔ (a.Exact y ∧ b.Exact y) ∧ Fits (a.value y * b.value y) := Iff.rfl

@[simp] theorem exact_div :
    (a / b).Exact y ↔ (a.Exact y ∧ b.Exact y) ∧
      (0 ≤ a.value y ∧ 0 < b.value y) ∧ Fits (a.value y / b.value y) := Iff.rfl

@[simp] theorem exact_mod :
    (a % b).Exact y ↔ (a.Exact y ∧ b.Exact y) ∧
      (0 ≤ a.value y ∧ 0 < b.value y) ∧ Fits (a.value y % b.value y) := Iff.rfl

end

/-! ## The machine is right -/

/-- What fits does not wrap around. -/
theorem Fits.toInt_ofInt {n : Int} (h : Fits n) : (Int32.ofInt n).toInt = n := by
  obtain ⟨hleast, hgreatest⟩ := h
  exact Int32.toInt_ofInt_of_le (by omega) (by omega)

/-- **An exact formula is worked out exactly.** -/
theorem toInt_run {formula : Formula} {y : Int32} (h : formula.Exact y.toInt) :
    (formula.run y).toInt = formula.value y.toInt := by
  induction formula with
  | year => rfl
  | number n => exact Fits.toInt_ofInt h
  | sum a b iha ihb =>
      obtain ⟨⟨ha, hb⟩, hfits⟩ := h
      rw [run, Int32.toInt_add, iha ha, ihb hb, ← Int32.toInt_ofInt, hfits.toInt_ofInt, value]
  | difference a b iha ihb =>
      obtain ⟨⟨ha, hb⟩, hfits⟩ := h
      rw [run, Int32.toInt_sub, iha ha, ihb hb, ← Int32.toInt_ofInt, hfits.toInt_ofInt, value]
  | product a b iha ihb =>
      obtain ⟨⟨ha, hb⟩, hfits⟩ := h
      rw [run, Int32.toInt_mul, iha ha, ihb hb, ← Int32.toInt_ofInt, hfits.toInt_ofInt, value]
  | quotient a b iha ihb =>
      obtain ⟨⟨ha, hb⟩, ⟨hdividend, -⟩, hfits⟩ := h
      rw [run, Int32.toInt_div, iha ha, ihb hb, Int.tdiv_eq_ediv_of_nonneg hdividend,
        ← Int32.toInt_ofInt, hfits.toInt_ofInt, value]
  | remainder a b iha ihb =>
      obtain ⟨⟨ha, hb⟩, ⟨hdividend, -⟩, -⟩ := h
      -- a remainder of the machine never wraps around, only its sign could differ
      rw [run, Int32.toInt_mod, iha ha, ihb hb, Int.tmod_eq_emod_of_nonneg hdividend, value]

end Formula

end Almanac
