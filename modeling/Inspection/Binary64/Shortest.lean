import Inspection.Binary64
import Inspection.Decimal

/-!
# Shortest decimal text

The decimal with the fewest digits that reads back as a given binary64
number, and its layout.  The numbers that read back form an interval around
the value; on each decimal grid only the value's two neighbours need to be
tried, from the coarsest grid down.
-/

namespace Inspection

namespace Binary64

/-- A positive decimal: `digits * 10 ^ exponent`. -/
structure Scientific where
  digits : Nat
  exponent : Int
deriving DecidableEq, Repr

/-- The interval of the numbers that round to a given magnitude, its ends in
quarters of a unit; the ends belong to it when the magnitude is the even one
of its neighbours. -/
structure Neighbourhood where
  low : Nat
  high : Nat
  closed : Bool

/-- Below a power of two the spacing is halved, so the lower end is nearer. -/
def neighbourhood (units : Nat) : Neighbourhood where
  low := if 1 < spacing units ∧ units = twoTo units.log2 then 4 * units - spacing units
    else 4 * units - 2 * spacing units
  high := 4 * units + 2 * spacing units
  closed := units / spacing units % 2 = 0

/-- Whether a number of quarters, scaled by `scale`, lies in the interval. -/
def Neighbourhood.holds (around : Neighbourhood) (quarters scale : Nat) : Bool :=
  if around.closed then
    around.low * scale ≤ quarters && quarters ≤ around.high * scale
  else
    around.low * scale < quarters && quarters < around.high * scale

def quarters : Nat := 4 * one

/-- The nearer of the value's two neighbours on the grid of multiples of
`10 ^ exponent`, when one of them reads back. -/
def onGrid? (units : Nat) (exponent : Int) : Option Scientific :=
  let step := tenTo exponent.toNat * quarters
  let scale := tenTo (-exponent).toNat
  let value := 4 * units * scale
  let below := value / step
  let around := neighbourhood units
  let holdsBelow := around.holds (below * step) scale
  let holdsAbove := around.holds ((below + 1) * step) scale
  if holdsBelow && (!holdsAbove || 2 * (value % step) < step
      || (2 * (value % step) == step && below % 2 == 0)) then
    some ⟨below, exponent⟩
  else if holdsAbove then
    some ⟨below + 1, exponent⟩
  else
    none

/-- The shortest decimal of a positive magnitude: the one on the coarsest
grid.  No number is as large as `10 ^ 309`, and the grid of `10 ^ -324` is
finer than the units. -/
def shortest (units : Nat) : Scientific :=
  ((List.range 633).findSome? fun i : Nat => onGrid? units (308 - (i : Int))).getD ⟨0, 0⟩

/-- The decimal exponents that are written without an exponent part. -/
def positional (exponent : Int) : Bool :=
  -5 ≤ exponent && exponent ≤ 15

/-- The layout of digits whose first one has the given decimal exponent: a
point always stands in positional text, and an exponent part has a sign. -/
def layout (digits : List Char) (exponent : Int) : List Char :=
  if positional exponent then
    if (digits.length : Int) ≤ exponent + 1 then
      digits ++ List.replicate (exponent.toNat + 1 - digits.length) '0' ++ ['.', '0']
    else if 0 ≤ exponent then
      digits.take (exponent.toNat + 1) ++ '.' :: digits.drop (exponent.toNat + 1)
    else
      '0' :: '.' :: List.replicate ((-exponent).toNat - 1) '0' ++ digits
  else
    let mantissa := match digits with
      | first :: second :: rest => first :: '.' :: second :: rest
      | short => short
    mantissa ++ 'e' :: (if exponent < 0 then '-' else '+') :: Decimal.digits exponent.natAbs

def text (x : Binary64) : String :=
  let magnitude :=
    if x.units = 0 then ['0', '.', '0']
    else
      let decimal := shortest x.units
      let digits := Decimal.digits decimal.digits
      layout digits (decimal.exponent + digits.length - 1)
  String.ofList (if x.negative then '-' :: magnitude else magnitude)

end Binary64

end Inspection
