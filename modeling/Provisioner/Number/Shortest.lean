import Provisioner.Number.Double
import Provisioner.Text.Blank

/-!
# Shortest decimals

The text of a double is the decimal with the fewest digits that still rounds to it, and of those the
nearest. The search goes from coarse decimal grids to fine ones: if a point of a grid lies in the
interval of numbers that round to the double, so does one of the double's two neighbours on that grid.
-/
namespace Provisioner

/-- The number `digits * 10 ^ power`. -/
structure Decimal where
  digits : Nat
  power : Int
  deriving DecidableEq, Repr

namespace Magnitude

/-- The bounds of the numbers that round to a magnitude, in quarters of its unit. Below a power of two
the next magnitude is only half as far. -/
def interval (x : Magnitude) : Nat × Nat :=
  (4 * x.mantissa - (if x.mantissa = Nat.pow 2 52 ∧ leastExponent < x.exponent then 1 else 2), 4 * x.mantissa + 2)

/-- Factors that bring quarters of a magnitude's unit and a power of ten to one scale. -/
def scales (x : Magnitude) (power : Int) : Nat × Nat :=
  let quarter := x.exponent - 2
  (Nat.pow 2 quarter.toNat * Nat.pow 10 (-power).toNat, Nat.pow 10 power.toNat * Nat.pow 2 (-quarter).toNat)

/-- A decimal rounds to the magnitude. The bounds of the interval count where the mantissa is even. -/
def admits (x : Magnitude) (d : Decimal) : Bool :=
  let (unit, ten) := x.scales d.power
  let point := d.digits * ten
  let low := x.interval.1 * unit
  let high := x.interval.2 * unit
  if x.mantissa % 2 = 0 then low ≤ point && point ≤ high else low < point && point < high

/-- The neighbour of a magnitude on a decimal grid that rounds to it, the nearer if both do. -/
def neighbour? (x : Magnitude) (power : Int) : Option Decimal :=
  let (unit, ten) := x.scales power
  let value := 4 * x.mantissa * unit
  let below : Decimal := ⟨value / ten, power⟩
  let above : Decimal := ⟨value / ten + 1, power⟩
  match x.admits below, x.admits above with
  | true, false => some below
  | false, true => some above
  | true, true =>
    let rest := value % ten
    if 2 * rest < ten ∨ (2 * rest = ten ∧ below.digits % 2 = 0) then some below else some above
  | false, false => none

/-- The first hit on `count` grids, each ten times finer than the one before. -/
def firstNeighbour (x : Magnitude) : (count : Nat) → (power : Int) → Decimal
  | 0, power => ⟨(4 * x.mantissa * (x.scales power).1) / (x.scales power).2, power⟩
  | count + 1, power => (x.neighbour? power).getD (x.firstNeighbour count (power - 1))

/-- The shortest decimal that rounds to a magnitude. The first grid is coarser than the magnitude, and
17 digits are always enough. -/
def shortest (x : Magnitude) : Decimal :=
  x.firstNeighbour 24 (((x.mantissa.log2 : Int) + x.exponent + 1) * 30103 / 100000 + 2)

end Magnitude

namespace Decimal
open Text

/-- A decimal as JSON writes it: positional where the point falls between the fifth place after it and
the sixteenth before it, with at least one place after the point, and in powers of ten with a signed
exponent elsewhere. -/
def text (d : Decimal) : List Char :=
  let digits := Nat.toDigits 10 d.digits
  let point : Int := digits.length + d.power
  if 0 ≤ d.power ∧ point ≤ 16 then
    digits ++ List.replicate d.power.toNat '0' ++ ['.', '0']
  else if 0 < point ∧ point ≤ 16 then
    digits.take point.toNat ++ '.' :: digits.drop point.toNat
  else if -5 < point ∧ point ≤ 0 then
    '0' :: '.' :: List.replicate (-point).toNat '0' ++ digits
  else
    let fraction := digits.drop 1
    let exponent := point - 1
    digits.take 1 ++ (if fraction.isEmpty then [] else '.' :: fraction) ++
      'e' :: (if exponent < 0 then '-' else '+') :: Nat.toDigits 10 exponent.natAbs

end Decimal

/-- A double as JSON writes it. -/
def Double.text (x : Double) : List Char :=
  (if x.negative then ['-'] else []) ++
    (if x.magnitude.mantissa = 0 then ['0', '.', '0'] else x.magnitude.shortest.text)

end Provisioner
