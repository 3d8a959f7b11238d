/-!
# Binary64 numbers

Finite binary floating-point numbers of 64 bits, by exact arithmetic on
natural numbers.  Every such number is a whole number of units of `2^-1074`,
so a number is a sign and a count of units, rounding picks a multiple of the
spacing that double precision has there, and the order is that of integers.
-/

namespace Inspection

/-- A finite binary64 number: its sign, and its magnitude in units of
`2^-1074`. -/
structure Binary64 where
  negative : Bool
  units : Nat
deriving DecidableEq, Repr, Inhabited

namespace Binary64

def twoTo (exponent : Nat) : Nat :=
  Nat.pow 2 exponent

def tenTo (exponent : Nat) : Nat :=
  Nat.pow 10 exponent

/-- The number of units in one. -/
def one : Nat := twoTo 1074

/-- The first magnitude, in units, past the largest finite one. -/
def overflow : Nat := twoTo 2098

/-- The natural number nearest to `n / d`; a tie goes to the even one. -/
def nearest (n d : Nat) : Nat :=
  if 2 * (n % d) < d then n / d
  else if d < 2 * (n % d) then n / d + 1
  else n / d + n / d % 2

/-- The distance between neighbouring numbers of 53 significant bits around
a magnitude. -/
def spacing (units : Nat) : Nat :=
  twoTo (units.log2 - 52)

/-- The representable magnitude nearest to `n / d` units. -/
def round (n d : Nat) : Nat :=
  nearest n (d * spacing (n / d)) * spacing (n / d)

def whole (n : Nat) : Nat :=
  round (n * one) 1

/-- The number nearest to an integer of moderate size. -/
def ofInt (i : Int) : Binary64 :=
  ⟨i < 0, whole i.natAbs⟩

/-- The exact value, in units. -/
def toUnits (x : Binary64) : Int :=
  if x.negative then -(x.units : Int) else x.units

/-- The numeric order, which does not see the sign of zero. -/
def le (x y : Binary64) : Bool :=
  x.toUnits ≤ y.toUnits

def mul (a b : Nat) : Nat :=
  round (a * b) one

def div (a b : Nat) : Nat :=
  round (a * one) b

/-- The largest power of ten that is used in one step of scaling. -/
def scaleLimit : Nat := 308

/-- A magnitude times a power of ten, each step rounded: large negative
powers are applied in steps of `10^-308`.  There is no result when the
product is too large. -/
def scale? (magnitude : Nat) (exponent : Int) : Option Nat :=
  if exponent.natAbs ≤ scaleLimit then
    let power := whole (tenTo exponent.natAbs)
    if 0 ≤ exponent then
      let product := mul magnitude power
      if product < overflow then some product else none
    else
      some (div magnitude power)
  else if magnitude = 0 then
    some 0
  else if 0 ≤ exponent then
    none
  else
    scale? (div magnitude (whole (tenTo scaleLimit))) (exponent + scaleLimit)
termination_by exponent.natAbs
decreasing_by simp only [scaleLimit] at *; omega

end Binary64

end Inspection
