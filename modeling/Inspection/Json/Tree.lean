import Inspection.Json.Token

/-!
# JSON syntax trees

JSON text as it is written: strings with their escaped units, numbers by their
digits, records with their fields in order and repeated keys kept.  A tree is
read from tokens with the containers that are still open on a stack.
-/

namespace Inspection

namespace Json

inductive Tree where
  | null
  | bool (value : Bool)
  | numeral (value : Numeral)
  | text (pieces : List Piece)
  | list (items : List Tree)
  | record (fields : List (List Piece × Tree))
deriving Inhabited

namespace Tree

mutual

/-- The number of containers around the innermost value. -/
def depth : Tree → Nat
  | .list items => depthOfItems items + 1
  | .record fields => depthOfFields fields + 1
  | _ => 0

def depthOfItems : List Tree → Nat
  | [] => 0
  | item :: rest => max (depth item) (depthOfItems rest)

def depthOfFields : List (List Piece × Tree) → Nat
  | [] => 0
  | (_, value) :: rest => max (depth value) (depthOfFields rest)

end

end Tree

/-- A container that is still open, its contents latest first: a list, a
record between two fields, or a record with a key that waits for its value. -/
inductive Frame where
  | list (read : List Tree)
  | record (read : List (List Piece × Tree))
  | field (read : List (List Piece × Tree)) (key : List Piece)

/-- What may come next. -/
inductive Awaited where
  | value
  | valueOrClose
  | key
  | keyOrClose
  | colon
  | separator

/-- A reader of tokens: in the middle of a value, or done with one. -/
inductive TreeReader where
  | reading (opened : List Frame) (awaited : Awaited)
  | done (tree : Tree)

namespace TreeReader

/-- Gives a finished value to the innermost open container. -/
def supply (tree : Tree) : List Frame → Option TreeReader
  | [] => some (.done tree)
  | .list read :: outer => some (.reading (.list (tree :: read) :: outer) .separator)
  | .field read key :: outer => some (.reading (.record ((key, tree) :: read) :: outer) .separator)
  | .record _ :: _ => none

def value? (opened : List Frame) : Token → Option TreeReader
  | .null => supply .null opened
  | .bool value => supply (.bool value) opened
  | .numeral value => supply (.numeral value) opened
  | .text pieces => supply (.text pieces) opened
  | .openList => some (.reading (.list [] :: opened) .valueOrClose)
  | .openRecord => some (.reading (.record [] :: opened) .keyOrClose)
  | _ => none

def close? : Token → List Frame → Option TreeReader
  | .closeList, .list read :: outer => supply (.list read.reverse) outer
  | .closeRecord, .record read :: outer => supply (.record read.reverse) outer
  | _, _ => none

def key? : Token → List Frame → Option TreeReader
  | .text pieces, .record read :: outer => some (.reading (.field read pieces :: outer) .colon)
  | _, _ => none

/-- Takes a comma or a closing bracket after a value. -/
def separator? : Token → List Frame → Option TreeReader
  | .comma, .list read :: outer => some (.reading (.list read :: outer) .value)
  | .comma, .record read :: outer => some (.reading (.record read :: outer) .key)
  | token, opened => close? token opened

/-- Takes one token; nothing may follow a finished value. -/
def step? (reader : TreeReader) (token : Token) : Option TreeReader :=
  match reader with
  | .done _ => none
  | .reading opened .value => value? opened token
  | .reading opened .valueOrClose => (close? token opened).or (value? opened token)
  | .reading opened .key => key? token opened
  | .reading opened .keyOrClose => (close? token opened).or (key? token opened)
  | .reading opened .colon => if token = .colon then some (.reading opened .value) else none
  | .reading opened .separator => separator? token opened

def finish? : TreeReader → Option Tree
  | .done tree => some tree
  | .reading _ _ => none

end TreeReader

def Tree.ofText? (text : String) : Option Tree := do
  let tokens ← Token.ofChars? text.toList
  let reader ← tokens.foldlM TreeReader.step? (.reading [] .value)
  reader.finish?

end Json

end Inspection
