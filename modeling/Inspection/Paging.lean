import Inspection.ServiceError

/-!
# Pages of a listing

A listing is cut into pages by the number of results wanted and a token, which
is the decimal number of results already delivered.
-/

namespace Inspection

structure Paging where
  maxResults : Option Json
  nextToken : Option String
deriving DecidableEq

/-- A stretch of a listing: how many results to skip, and how many to take
unless it is all. -/
structure Window where
  offset : Nat
  size : Option Nat
deriving DecidableEq, Repr

/-- Some results, and how many were delivered with them when more remain. -/
structure Page where
  items : List String
  next : Option Nat
deriving DecidableEq, Repr

namespace Paging

/-- The number of results wanted: a positive integer literal of 64 bits. -/
def size : Option Json → Except ServiceError (Option Nat)
  | none => .ok none
  | some value =>
    match value.unsigned? with
    | some (n + 1) => .ok (some (n + 1))
    | _ => .error .maxResultsNotPositive

/-- The number of a token, which is below `2^64` and may have a plus sign. -/
def offset? (token : String) : Option Nat :=
  (Decimal.unsigned? token.toList).filter fun n => n < 18446744073709551616

/-- The number of results to skip. -/
def offset : Option String → Except ServiceError Nat
  | none => .ok 0
  | some token =>
    match offset? token with
    | some n => .ok n
    | none => .error (.malformedToken token)

def window (paging : Paging) : Except ServiceError Window := do
  let size ← size paging.maxResults
  let offset ← offset paging.nextToken
  return ⟨offset, size⟩

end Paging

namespace Window

/-- A number that is kept within 64 bits: the largest one stands for all that
are beyond. -/
def saturated (n : Nat) : Nat :=
  min n 18446744073709551615

/-- The end of the stretch in a listing of some length. -/
def limit (window : Window) (length : Nat) : Nat :=
  match window.size with
  | some size => min (saturated (window.offset + size)) length
  | none => length

/-- The results from one position to before another, which must come in this
order and within the results. -/
def slice? (results : List String) (start stop : Nat) : Option (List String) :=
  if start ≤ stop ∧ stop ≤ results.length then
    some ((results.take stop).drop start)
  else
    none

def page (window : Window) (results : List String) : Page where
  items := (slice? results (min window.offset results.length)
    (window.limit results.length)).getD []
  next := if window.limit results.length < results.length then
      some (window.limit results.length)
    else none

end Window

namespace Page

/-- The answer with the results under a given name. -/
def document (page : Page) (name : String) : Json :=
  .obj ((name, .texts page.items) ::
    match page.next with
    | some delivered => [("nextToken", .str (Decimal.ofNat delivered))]
    | none => [])

end Page

end Inspection
