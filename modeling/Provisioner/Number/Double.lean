/-!
# Doubles

A finite binary64 number is a sign and a magnitude `mantissa * 2 ^ exponent`. Every operation is exact
on natural numbers before one rounding: to the nearest magnitude, a tie to the even mantissa, and
`none` where the nearest would be `2 ^ 1024` or more.
-/
namespace Provisioner

/-- The number `mantissa * 2 ^ exponent`. -/
structure Magnitude where
  mantissa : Nat
  exponent : Int
  deriving DecidableEq, Repr

namespace Magnitude

/-- The exponent below which no magnitude goes. -/
def leastExponent : Int := -1074

/-- The exponent above which no magnitude goes. -/
def greatestExponent : Int := 971

/-- No magnitude. -/
def zero : Magnitude := ⟨0, leastExponent⟩

/-- A quotient rounded to a whole number, a tie to the even one. -/
def roundQuotient (num den : Nat) : Nat :=
  let whole := num / den
  let rest := num % den
  if den < 2 * rest ∨ (2 * rest = den ∧ whole % 2 = 1) then whole + 1 else whole

/-- The quotient `num / den` in units of `2 ^ exponent`, as a quotient again. -/
def inUnits (num den : Nat) (exponent : Int) : Nat × Nat :=
  (num * Nat.pow 2 (-exponent).toNat, den * Nat.pow 2 exponent.toNat)

/-- The exponent that gives `num / den` a mantissa of 53 bits, where it is not too small for that. -/
def exponentOf (num den : Nat) : Int :=
  let guess : Int := (num.log2 : Int) - den.log2 - 52
  let units := inUnits num den guess
  max leastExponent (if units.1 / units.2 < Nat.pow 2 52 then guess - 1 else guess)

/-- The magnitude nearest to `num / den`. -/
def round (num den : Nat) : Option Magnitude :=
  if num = 0 then some zero
  else
    let exponent := exponentOf num den
    let units := inUnits num den exponent
    let mantissa := roundQuotient units.1 units.2
    let (mantissa, exponent) :=
      if mantissa = Nat.pow 2 53 then (Nat.pow 2 52, exponent + 1) else (mantissa, exponent)
    if greatestExponent < exponent then none else some ⟨mantissa, exponent⟩

/-- A magnitude as a quotient. -/
def quotient (x : Magnitude) : Nat × Nat :=
  inUnits x.mantissa 1 (-x.exponent)

/-- The nearest magnitude to a natural number. -/
def ofNat (n : Nat) : Option Magnitude :=
  round n 1

/-- The rounded product. -/
def mul (x y : Magnitude) : Option Magnitude :=
  round (x.quotient.1 * y.quotient.1) (x.quotient.2 * y.quotient.2)

/-- The rounded quotient by a magnitude other than zero. -/
def div (x y : Magnitude) : Option Magnitude :=
  round (x.quotient.1 * y.quotient.2) (x.quotient.2 * y.quotient.1)

/-- The rounded sum. -/
def add (x y : Magnitude) : Option Magnitude :=
  round (x.quotient.1 * y.quotient.2 + y.quotient.1 * x.quotient.2) (x.quotient.2 * y.quotient.2)

/-- The nearest magnitude to a power of ten that is not too large. -/
def powerOfTen (n : Nat) : Option Magnitude :=
  ofNat (Nat.pow 10 n)

/-- A power of ten divided out in strides of `10 ^ 308`, each stride rounded. After four strides
nothing is left of a number below `2 ^ 64`. -/
def scaleDown (x : Magnitude) (power : Nat) : Option Magnitude := do
  let strides := (power - 1) / 308
  let stride ← powerOfTen 308
  let x ← (List.replicate (min strides 4) stride).foldlM div x
  div x (← powerOfTen (power - 308 * strides))

/-- The value of a decimal: its digits, below `2 ^ 64`, are rounded first and scaled by the power of ten
afterwards, with a second rounding. -/
def ofDecimal (digits : Nat) (power : Int) : Option Magnitude := do
  let x ← ofNat digits
  if power < 0 then scaleDown x (-power).toNat
  else if x.mantissa = 0 then some zero
  else if 308 < power then none
  else mul x (← powerOfTen power.toNat)

end Magnitude

/-- A finite binary64 number; both zeros are kept apart. -/
structure Double where
  negative : Bool
  magnitude : Magnitude
  deriving DecidableEq, Repr

end Provisioner
