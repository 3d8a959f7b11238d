import Inspection.Logging
import Inspection.Text
import Inspection.Text.Alphanumeric
import Inspection.Text.Blank

/-!
# Directives

Which records are kept.  A directive gives a level for all records, or for
those whose target starts with a given text and that have a given field.  Of the
directives about a record the most specific one decides, and the last one of
those.

An entry is a level, or a target with a span and a level behind it in turn, of
which each may be missing: `target[span{field=value}]=level`.  Positions in an
entry are counted without the blanks in front of it, but its parts are cut from
the entry as it stands, so that an entry in blanks names no level.
-/

namespace Inspection

/-- The level that is kept of some records, or of all. -/
structure Directive where
  target : Option String
  field : Option String
  level : LogLevel
deriving DecidableEq, Repr

namespace Directive

/-- What stands at a place of an entry; a part that goes on has the position
where it starts. -/
inductive Stage where
  | start
  | name (since : Nat)
  | span (since : Nat)
  | field (since : Nat)
  | fieldEnd
  | spanEnd
  | level (since : Nat)
deriving DecidableEq, Repr

/-- An entry as far as it has been read; `spanned` tells whether it is about
spans or about the values of their fields. -/
structure Draft where
  stage : Stage
  target : Option String
  field : Option String
  spanned : Bool

def cut (entry : List Char) (first behind : Nat) : List Char :=
  (entry.drop first).take (behind - first)

/-- Whether an entry may start with a character, other than with a span. -/
def isOpening (c : Char) : Bool :=
  c == '-' || c == ':' || c == '_' || Text.isAlphanumeric c

/-- Takes a field, perhaps with a value, which must not be empty. -/
def Draft.takeField? (draft : Draft) (field : List Char) : Option Draft :=
  if field.isEmpty then none
  else
    some { draft with
      stage := .fieldEnd
      field := some (String.ofList (Text.beforeFirst ['='] field))
      spanned := draft.spanned || field.contains '=' }

def Draft.take? (entry : List Char) (draft : Draft) (place : Char × Nat) : Option Draft :=
  let (c, i) := place
  match draft.stage with
  | .start =>
    if c = '[' then some { draft with stage := .span (i + 1) }
    else if isOpening c then some { draft with stage := .name i }
    else none
  | .name since =>
    let named := { draft with target := some (String.ofList (cut entry since i)) }
    if c = '=' then some { named with stage := .level (i + 1) }
    else if c = '[' then some { named with stage := .span (i + 1) }
    else some draft
  | .span since =>
    if c = ']' then some { draft with stage := .spanEnd, spanned := true }
    else if c = '\x7b' then
      some { draft with stage := .field (i + 1), spanned := !(cut entry since i).isEmpty }
    else some draft
  | .field since => if c = '\x7d' then draft.takeField? (cut entry since i) else some draft
  | .fieldEnd => if c = ']' then some { draft with stage := .spanEnd } else none
  | .spanEnd => if c = '=' then some { draft with stage := .level (i + 1) } else none
  | .level _ => some draft

/-- The level behind an equals sign; nothing stands for every detail. -/
def levelBehind? (text : List Char) : Option LogLevel :=
  if text.isEmpty then some .trace else LogLevel.ofNameOrRank? text

/-- What an entry that has been read says of records.  An entry about spans says
nothing of them. -/
def Draft.finish? (entry : List Char) (draft : Draft) : Option (List Directive) :=
  let directive := fun level => if draft.spanned then [] else [⟨draft.target, draft.field, level⟩]
  match draft.stage with
  | .name since =>
    let name := entry.drop since
    match LogLevel.ofNameOrRank? name with
    | some level => some [⟨none, none, level⟩]
    | none => some [⟨some (String.ofList name), none, .trace⟩]
  | .spanEnd => some (directive .trace)
  | .level since => (levelBehind? (entry.drop since)).map directive
  | _ => none

def ofEntry? (entry : List Char) : Option (List Directive) :=
  ((Text.trimmed entry).zipIdx.foldlM (Draft.take? entry) ⟨.start, none, none, false⟩).bind
    (Draft.finish? entry)

/-- The directives of a list with commas between its entries. -/
def ofText? (text : String) : Option (List Directive) :=
  (((Text.pieces ',' text.toList).filter fun entry => !entry.isEmpty).mapM ofEntry?).map
    List.flatten

/-- The text that the targets of a directive start with. -/
def start (directive : Directive) : List Char :=
  (directive.target.getD "").toList

def recordField : String := "message"

/-- Whether a directive is about the records of a target. -/
def covers (directive : Directive) (target : String) : Bool :=
  directive.start.isPrefixOf target.toList && directive.field.all (· == recordField)

/-- How specific a directive is: by its target, and then by its field. -/
def weight (directive : Directive) : Nat :=
  2 * directive.start.length + if directive.field.isSome then 1 else 0

def deciding? (directives : List Directive) (target : String) : Option Directive :=
  (directives.filter fun directive => directive.covers target).foldl
    (fun best directive =>
      match best with
      | none => some directive
      | some other => if directive.weight < other.weight then best else some directive)
    none

def keep (directives : List Directive) (record : LogRecord) : Bool :=
  match deciding? directives record.target with
  | some directive => record.level.rank ≤ directive.level.rank
  | none => false

end Directive

end Inspection
