import Inspection.Decimal

/-!
# Logging

Levels, records, and how the message of a record is written.
-/

namespace Inspection

inductive LogLevel where
  | off
  | error
  | warn
  | info
  | debug
  | trace
deriving DecidableEq, Repr

structure LogRecord where
  level : LogLevel
  target : String
  message : String
deriving DecidableEq, Repr

namespace LogLevel

def all : List LogLevel := [off, error, warn, info, debug, trace]

def name : LogLevel → String
  | off => "off"
  | error => "error"
  | warn => "warn"
  | info => "info"
  | debug => "debug"
  | trace => "trace"

def title : LogLevel → String
  | off => "Off"
  | error => "Error"
  | warn => "Warn"
  | info => "Info"
  | debug => "Debug"
  | trace => "Trace"

/-- The name of a level in front of a record. -/
def label : LogLevel → String
  | off => "OFF"
  | error => "ERROR"
  | warn => "WARN"
  | info => "INFO"
  | debug => "DEBUG"
  | trace => "TRACE"

def rank : LogLevel → Nat
  | off => 0
  | error => 1
  | warn => 2
  | info => 3
  | debug => 4
  | trace => 5

def ofName? (text : String) : Option LogLevel :=
  all.find? fun level => level.name == text

/-- The level of a name in any case. -/
def ofAnyCase? (text : String) : Option LogLevel :=
  ofName? (String.ofList (text.toList.map Char.toLower))

/-- The level of a name in any case, or of a rank. -/
def ofNameOrRank? (text : List Char) : Option LogLevel :=
  match Decimal.unsigned? text with
  | some rank => all.find? fun level => level.rank == rank
  | none => ofAnyCase? (String.ofList text)

end LogLevel

namespace LogRecord

/-- A character of a message.  The control characters that can steer a terminal
are written out: some of the old ones with two digits, and the later ones by
their number. -/
def shownChar (c : Char) : List Char :=
  if c = '\x07' ∨ c = '\x08' ∨ c = '\x0c' ∨ c = '\x1b' ∨ c = '\x7f' then
    let digits := Nat.toDigits 16 c.toNat
    '\\' :: 'x' :: List.replicate (2 - digits.length) '0' ++ digits
  else if 0x80 ≤ c.toNat ∧ c.toNat ≤ 0x9F then
    '\\' :: 'u' :: '\x7b' :: Nat.toDigits 16 c.toNat ++ ['\x7d']
  else [c]

/-- A record with its message as it is written. -/
def shown (record : LogRecord) : LogRecord :=
  { record with message := String.ofList (record.message.toList.flatMap shownChar) }

end LogRecord

end Inspection
