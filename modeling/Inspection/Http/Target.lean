import Inspection.Text

/-!
# The target of a request

A target is a path, an address with a scheme, a host and perhaps a path, or a
host alone.  The path ends where a query or a fragment starts.
-/

namespace Inspection

namespace Http

namespace Target

def isSchemeChar (c : Char) : Bool :=
  c.isAlphanum || c == '+' || c == '-' || c == '.' || c == '~'

def afterScheme? (target : List Char) : Option (List Char) :=
  Text.afterOpening? "://".toList (target.dropWhile isSchemeChar)

/-- What follows the host that a text starts with. -/
def afterHost (address : List Char) : List Char :=
  address.dropWhile fun c => !(c == '/' || c == '?' || c == '#')

def beforeQuery (text : List Char) : List Char :=
  text.takeWhile fun c => !(c == '?' || c == '#')

/-- The path of an address with a scheme: the root when it has none. -/
def addressPath (address : List Char) : List Char :=
  match beforeQuery (afterHost address) with
  | [] => ['/']
  | path => path

/-- The path of a target; a host alone has an empty one. -/
def path (target : List Char) : List Char :=
  match target with
  | '/' :: _ => beforeQuery target
  | ['*'] => target
  | _ =>
    match afterScheme? target with
    | some address => addressPath address
    | none => []

end Target

end Http

end Inspection
