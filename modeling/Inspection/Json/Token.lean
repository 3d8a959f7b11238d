import Inspection.Json.Numeral

/-!
# JSON tokens

The words of JSON text.  A text is cut into tokens by one pass over its
characters; a string keeps its escaped code units as they are written, so that
a later stage decides about surrogates.
-/

namespace Inspection

namespace Json

/-- One element of a string: a character, or a code unit that was escaped by
its number. -/
inductive Piece where
  | char (c : Char)
  | unit (code : Nat)
deriving Repr, DecidableEq

inductive Token where
  | openList
  | closeList
  | openRecord
  | closeRecord
  | comma
  | colon
  | null
  | bool (value : Bool)
  | numeral (value : Numeral)
  | text (pieces : List Piece)
deriving Repr, DecidableEq

/-- What the characters read since the last token may become. -/
inductive Unfinished where
  | nothing
  | word (read : List Char)
  | numeral (read : List Char)
  | text (read : List Piece)
  | escape (read : List Piece)
  | hex (read : List Piece) (code : Nat) (left : Nat)
deriving Repr, DecidableEq

/-- The tokens read so far, the latest first, and what is being read. -/
structure Lexer where
  tokens : List Token
  unfinished : Unfinished
deriving Repr, DecidableEq

namespace Lexer

/-- Space, tab, line feed and carriage return separate tokens. -/
def isBlank (c : Char) : Bool :=
  c == ' ' || c == '\t' || c == '\n' || c == '\r'

/-- The characters of numerals. -/
def inNumeral (c : Char) : Bool :=
  Numeral.isDigit c || c == '-' || c == '+' || c == '.' || c == 'e' || c == 'E'

def word? : List Char → Option Token
  | ['n', 'u', 'l', 'l'] => some .null
  | ['t', 'r', 'u', 'e'] => some (.bool true)
  | ['f', 'a', 'l', 's', 'e'] => some (.bool false)
  | _ => none

def mark? : Char → Option Token
  | '[' => some .openList
  | ']' => some .closeList
  | '\x7b' => some .openRecord
  | '\x7d' => some .closeRecord
  | ',' => some .comma
  | ':' => some .colon
  | _ => none

def escaped? : Char → Option Char
  | '"' => some '"'
  | '\\' => some '\\'
  | '/' => some '/'
  | 'b' => some '\x08'
  | 'f' => some '\x0c'
  | 'n' => some '\n'
  | 'r' => some '\r'
  | 't' => some '\t'
  | _ => none

/-- The value of a hexadecimal digit in either case. -/
def hexValue? (c : Char) : Option Nat :=
  if 'a' ≤ c ∧ c ≤ 'f' then some (c.toNat - 87)
  else if 'A' ≤ c ∧ c ≤ 'F' then some (c.toNat - 55)
  else Decimal.digitValue? c

/-- Takes a character that begins a token or separates two. -/
def begin? (tokens : List Token) (c : Char) : Option Lexer :=
  if isBlank c then some ⟨tokens, .nothing⟩
  else if c = '"' then some ⟨tokens, .text []⟩
  else if Numeral.isDigit c || c == '-' then some ⟨tokens, .numeral [c]⟩
  else if c.isAlpha then some ⟨tokens, .word [c]⟩
  else (mark? c).map fun token => ⟨token :: tokens, .nothing⟩

def step? (lexer : Lexer) (c : Char) : Option Lexer :=
  match lexer.unfinished with
  | .nothing => begin? lexer.tokens c
  | .word read =>
    if c.isAlpha then some ⟨lexer.tokens, .word (c :: read)⟩
    else (word? read.reverse).bind fun token => begin? (token :: lexer.tokens) c
  | .numeral read =>
    if inNumeral c then some ⟨lexer.tokens, .numeral (c :: read)⟩
    else (Numeral.ofChars? read.reverse).bind fun numeral =>
      begin? (.numeral numeral :: lexer.tokens) c
  | .text read =>
    if c = '"' then some ⟨.text read.reverse :: lexer.tokens, .nothing⟩
    else if c = '\\' then some ⟨lexer.tokens, .escape read⟩
    else if c.toNat < 32 then none
    else some ⟨lexer.tokens, .text (.char c :: read)⟩
  | .escape read =>
    if c = 'u' then some ⟨lexer.tokens, .hex read 0 3⟩
    else (escaped? c).map fun e => ⟨lexer.tokens, .text (.char e :: read)⟩
  | .hex read code left =>
    (hexValue? c).map fun digit =>
      match left with
      | 0 => ⟨lexer.tokens, .text (.unit (16 * code + digit) :: read)⟩
      | left + 1 => ⟨lexer.tokens, .hex read (16 * code + digit) left⟩

/-- The tokens in order, once the text has ended. -/
def finish? (lexer : Lexer) : Option (List Token) :=
  match lexer.unfinished with
  | .nothing => some lexer.tokens.reverse
  | .word read => (word? read.reverse).map fun token => (token :: lexer.tokens).reverse
  | .numeral read =>
    (Numeral.ofChars? read.reverse).map fun numeral =>
      (.numeral numeral :: lexer.tokens).reverse
  | _ => none

end Lexer

def Token.ofChars? (chars : List Char) : Option (List Token) :=
  (chars.foldlM Lexer.step? ⟨[], .nothing⟩).bind Lexer.finish?

end Json

end Inspection
