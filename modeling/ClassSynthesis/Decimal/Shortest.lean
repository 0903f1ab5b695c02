/-!
# Shortest decimal forms

A binary floating-point number stands for all the reals that round to it. Its shortest decimal form
is the point of that interval on the coarsest decimal grid that has one; of two such points the
nearer one, and of two equally near ones the larger. All arithmetic is exact, on natural numbers.
-/

namespace ClassSynthesis

/-- A number written as digits and a power of ten. -/
structure Decimal where
  /-- The digits, read as a number. -/
  digits : Nat
  /-- The power of ten that they are multiplied by. -/
  exponent : Int
  deriving DecidableEq, Repr

namespace Decimal

/-- A positive number with the interval of reals that round to it, all over one denominator. -/
structure Rounding where
  /-- Numerator of the lower end. -/
  low : Nat
  /-- Numerator of the number. -/
  value : Nat
  /-- Numerator of the upper end. -/
  high : Nat
  /-- Common denominator. -/
  unit : Nat
  /-- The ends themselves round to the number. -/
  closed : Bool

/--
The interval of `mantissa * 2 ^ exponent`: half a step each way, but only a quarter step down from
a power of two, below which the steps are half as wide. An even mantissa attracts the ends.
-/
def Rounding.ofBinary (mantissa : Nat) (exponent : Int) (powerOfTwo : Bool) : Rounding :=
  let scale := Nat.pow 2 (exponent - 2).toNat
  { low := (4 * mantissa - if powerOfTwo then 1 else 2) * scale
    value := 4 * mantissa * scale
    high := (4 * mantissa + 2) * scale
    unit := Nat.pow 2 (2 - exponent).toNat
    closed := mantissa % 2 == 0 }

/-- The fraction lies in the interval. -/
def Rounding.contains (r : Rounding) (numerator denominator : Nat) : Bool :=
  let point := numerator * r.unit
  let low := r.low * denominator
  let high := r.high * denominator
  if r.closed then low ≤ point && point ≤ high else low < point && point < high

/-- The point of the interval on the grid of multiples of `10 ^ exponent`, if there is one. -/
def Rounding.onGrid? (r : Rounding) (exponent : Int) : Option Nat :=
  let up := Nat.pow 10 exponent.toNat
  let down := Nat.pow 10 (-exponent).toNat
  let below := r.value * down / (r.unit * up)
  let lower := r.contains (below * up) down
  let upper := r.contains ((below + 1) * up) down
  let nearerBelow : Bool := 2 * (r.value * down % (r.unit * up)) < r.unit * up
  if lower && (!upper || nearerBelow) then some below
  else if upper then some (below + 1)
  else none

/-- Try ever finer grids, from the one given down. -/
def Rounding.search (r : Rounding) : Nat → Int → Option Decimal
  | 0, _ => none
  | tries + 1, exponent =>
    match r.onGrid? exponent with
    | some digits => some ⟨digits, exponent⟩
    | none => r.search tries (exponent - 1)

/-- Number of decimal digits of a number. -/
def digitCount (n : Nat) : Nat := (Nat.toDigits 10 n).length

/-- A power of ten that is not below the number, nor ten times above it or more. -/
def Rounding.startExponent (r : Rounding) : Int :=
  if r.unit ≤ r.value then digitCount (r.value / r.unit) else 1 - digitCount (r.unit / r.value)

/-- The shortest decimal form; twenty grids suffice, since seventeen digits tell numbers apart. -/
def Rounding.shortest (r : Rounding) : Decimal :=
  (r.search 20 r.startExponent).getD ⟨0, 0⟩

end Decimal

end ClassSynthesis
