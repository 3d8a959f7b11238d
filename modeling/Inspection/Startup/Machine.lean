import Inspection.Text

/-!
# The machine

What a start needs of its surroundings: which addresses can be bound, and what
happens when a log file is opened; and which directory a log file is in.
-/

namespace Inspection

namespace Startup

inductive LogOpening where
  | opened
  | directoryFailed (directory : String)
  | fileFailed
deriving DecidableEq, Repr

/-- What the machine allows. -/
structure Machine where
  canBind : String → Nat → Bool
  openLog : String → LogOpening

namespace Path

/-- Whether a part of a path leads nowhere: two slashes in a row, or a dot. -/
def isIdle (part : List Char) : Bool :=
  part.isEmpty || part == ['.']

/-- The parts without the idle ones at the end. -/
def withoutIdleEnd (parts : List (List Char)) : List (List Char) :=
  (parts.reverse.dropWhile isIdle).reverse

/-- What a path starts with before its parts: a slash, or a dot that stands for
the working directory. -/
def root (path : List Char) : List Char :=
  match path with
  | '/' :: _ => ['/']
  | ['.'] => ['.']
  | '.' :: '/' :: _ => ['.']
  | _ => []

/-- The directory of a path: what stands before its last part, and nothing for
a path of one part. -/
def directory (path : String) : String :=
  let root := root path.toList
  let parts := withoutIdleEnd (Text.pieces '/' (path.toList.drop root.length))
  if parts.isEmpty then ""
  else String.ofList (root ++ ['/'].intercalate (withoutIdleEnd parts.dropLast))

end Path

end Startup

end Inspection
