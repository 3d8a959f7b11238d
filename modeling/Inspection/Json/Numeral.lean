import Inspection.Decimal
import Inspection.Json

/-!
# JSON numerals

The parts of a number in JSON text, and the number they stand for.  Digits are
taken up while the number they form stays below `2^64`.  Whole digits past that
point count as powers of ten, and fraction digits past it are dropped.
-/

namespace Inspection

namespace Json

/-- The parts of a numeral: the digits before the point, those after it, and
the exponent with its sign. -/
structure Numeral where
  negative : Bool
  whole : List Nat
  fraction : List Nat
  exponent : Int
  isInteger : Bool
deriving Repr, DecidableEq

namespace Numeral

def isDigit (c : Char) : Bool :=
  (Decimal.digitValue? c).isSome

/-- The digits at the start of a text, and what follows them. -/
def takeDigits (chars : List Char) : List Nat × List Char :=
  ((chars.takeWhile isDigit).filterMap Decimal.digitValue?, chars.dropWhile isDigit)

/-- The digits at the start of a text, of which there must be one. -/
def someDigits? (chars : List Char) : Option (List Nat × List Char) :=
  match takeDigits chars with
  | ([], _) => none
  | found => some found

/-- The whole part has no leading zero. -/
def whole? (chars : List Char) : Option (List Nat × List Char) :=
  match takeDigits chars with
  | ([], _) => none
  | (0 :: _ :: _, _) => none
  | found => some found

/-- A point and the digits after it, when there is a point. -/
def fraction? : List Char → Option (List Nat × List Char)
  | '.' :: rest => someDigits? rest
  | chars => some ([], chars)

def ofDigits (digits : List Nat) : Nat :=
  digits.foldl (fun read d => 10 * read + d) 0

def exponentDigits? (chars : List Char) : Option (Nat × List Char) :=
  (someDigits? chars).map fun (digits, rest) => (ofDigits digits, rest)

def exponentValue? : List Char → Option (Int × List Char)
  | '+' :: rest => (exponentDigits? rest).map fun (e, rest) => ((e : Int), rest)
  | '-' :: rest => (exponentDigits? rest).map fun (e, rest) => (-(e : Int), rest)
  | chars => (exponentDigits? chars).map fun (e, rest) => ((e : Int), rest)

/-- A mark and an exponent, when there is a mark. -/
def exponent? : List Char → Option (Int × List Char)
  | 'e' :: rest => exponentValue? rest
  | 'E' :: rest => exponentValue? rest
  | chars => some (0, chars)

def unsigned? (negative : Bool) (chars : List Char) : Option Numeral := do
  let (whole, rest) ← whole? chars
  let (fraction, afterFraction) ← fraction? rest
  let (exponent, left) ← exponent? afterFraction
  if left.isEmpty then
    some ⟨negative, whole, fraction, exponent, rest.isEmpty⟩
  else
    none

/-- The parts of a numeral that takes up a whole text. -/
def ofChars? : List Char → Option Numeral
  | '-' :: rest => unsigned? true rest
  | chars => unsigned? false chars

/-- Takes up digits while the number stays below `2^64`; the digits from the
first one that does not fit are left. -/
def absorb (read : Nat) : List Nat → Nat × List Nat
  | [] => (read, [])
  | d :: rest =>
    if 10 * read + d < 18446744073709551616 then absorb (10 * read + d) rest else (read, d :: rest)

def scaled? (negative : Bool) (significand : Nat) (exponent : Int) : Option Json :=
  (Binary64.scale? (Binary64.whole significand) exponent).map fun units =>
    .float ⟨negative, units⟩

/-- An integer literal is an integer, but for a negative zero and negative
numbers below `-2^63`. -/
def integer (negative : Bool) (significand : Nat) : Json :=
  if negative = false then .int significand
  else if significand = 0 ∨ 9223372036854775808 < significand then
    .float ⟨true, Binary64.whole significand⟩
  else .int (-significand)

/-- The number that a numeral stands for; none when it is too large. -/
def toNumber? (numeral : Numeral) : Option Json :=
  let (significand, tooLong) := absorb 0 numeral.whole
  if numeral.isInteger && tooLong.isEmpty then
    some (integer numeral.negative significand)
  else
    let (significand, dropped) := absorb significand numeral.fraction
    let places : Int := numeral.fraction.length - dropped.length
    scaled? numeral.negative significand (tooLong.length - places + numeral.exponent)

end Numeral

end Json

end Inspection
