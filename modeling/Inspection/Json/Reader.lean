import Inspection.Ascending
import Inspection.Json.Tree

/-!
# Reading JSON

The value that a text stands for.  A text is refused when it is no JSON, nests
deeper than `Json.maxDepth`, holds a number beyond binary64, or escapes a
surrogate that has no partner.
-/

namespace Inspection

namespace Json

def maxDepth : Nat := 127

namespace Piece

def isHighSurrogate (code : Nat) : Bool :=
  0xD800 ≤ code && code ≤ 0xDBFF

def isLowSurrogate (code : Nat) : Bool :=
  0xDC00 ≤ code && code ≤ 0xDFFF

def joined (high low : Nat) : Char :=
  Char.ofNat (0x10000 + (high - 0xD800) * 0x400 + (low - 0xDC00))

/-- The characters of a string; a surrogate must stand in a pair. -/
def chars? : List Piece → Option (List Char)
  | [] => some []
  | .char c :: rest => (chars? rest).map (c :: ·)
  | .unit high :: .unit low :: rest =>
    if isHighSurrogate high then
      if isLowSurrogate low then (chars? rest).map (joined high low :: ·) else none
    else if isLowSurrogate high then none
    else (chars? (.unit low :: rest)).map (Char.ofNat high :: ·)
  | .unit code :: rest =>
    if isHighSurrogate code || isLowSurrogate code then none
    else (chars? rest).map (Char.ofNat code :: ·)

def text? (pieces : List Piece) : Option String :=
  (chars? pieces).map String.ofList

end Piece

mutual

def ofTree? : Tree → Option Json
  | .null => some .null
  | .bool value => some (.bool value)
  | .numeral value => value.toNumber?
  | .text pieces => (Piece.text? pieces).map .str
  | .list items => (ofItems? items).map .arr
  | .record fields => (ofFields? fields).map fun read => .obj (Ascending.ofList read)

def ofItems? : List Tree → Option (List Json)
  | [] => some []
  | item :: rest => do return (← ofTree? item) :: (← ofItems? rest)

def ofFields? : List (List Piece × Tree) → Option (List (String × Json))
  | [] => some []
  | (key, value) :: rest => do
    return (← Piece.text? key, ← ofTree? value) :: (← ofFields? rest)

end

def ofText? (text : String) : Option Json := do
  let tree ← Tree.ofText? text
  if tree.depth ≤ maxDepth then ofTree? tree else none

end Json

end Inspection
