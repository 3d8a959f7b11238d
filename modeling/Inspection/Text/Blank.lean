import Inspection.Text.Runs

/-!
# Blanks

The code points that count as white space, and a text without the blanks around
it.
-/

namespace Inspection

namespace Text

def blankRuns : Runs :=
  [(0x9, 0xD), (0x20, 0x20), (0x85, 0x85), (0xA0, 0xA0), (0x1680, 0x1680), (0x2000, 0x200A),
   (0x2028, 0x2029), (0x202F, 0x202F), (0x205F, 0x205F), (0x3000, 0x3000)]

def trimmed (text : List Char) : List Char :=
  ((text.dropWhile blankRuns.contain).reverse.dropWhile blankRuns.contain).reverse

end Text

end Inspection
