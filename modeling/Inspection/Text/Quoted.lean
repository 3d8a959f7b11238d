import Inspection.Text.Glyphless

/-!
# Quoted text in messages

A text between quotation marks, as messages show it: quotation marks and
backslashes are escaped, and so is every character that has no glyph of its
own.
-/

namespace Inspection

namespace Text

/-- Which quotation marks are escaped inside a quoted text. -/
structure Quoting where
  escapesApostrophe : Bool

/-- Values in messages keep their apostrophes. -/
def valueQuoting : Quoting := ⟨false⟩

/-- The hexadecimal digits of a number, in lower case. -/
def hexDigits (n : Nat) : List Char :=
  Nat.toDigits 16 n

def quoteChar (quoting : Quoting) (c : Char) : List Char :=
  if c = '\x00' then ['\\', '0']
  else if c = '\t' then ['\\', 't']
  else if c = '\n' then ['\\', 'n']
  else if c = '\r' then ['\\', 'r']
  else if c = '"' ∨ c = '\\' ∨ (c = '\'' ∧ quoting.escapesApostrophe) then ['\\', c]
  else if isGlyphless c then '\\' :: 'u' :: '\x7b' :: hexDigits c.toNat ++ ['\x7d']
  else [c]

def quote (quoting : Quoting) (text : String) : String :=
  "\"" ++ String.ofList (text.toList.flatMap (quoteChar quoting)) ++ "\""

end Text

end Inspection
