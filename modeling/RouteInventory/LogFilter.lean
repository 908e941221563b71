import RouteInventory.LogEvent
import RouteInventory.Text.Alphanumeric
import RouteInventory.Text.Blank
import RouteInventory.Text.Lines
import RouteInventory.Text.Utf8

/-!
Which log events are written. A filter is a list of directives with commas between them, each of the
form `target[span{field}]=level` with any part left out. A directive lets the events through that it
is about, up to its level; of several that are about an event the closest one decides. There are no
spans here, so what asks for a span, or for a field with a value, lets nothing through.
-/

namespace RouteInventory

/-- A directive. -/
structure LogDirective where
  /-- What the names of the parts begin with whose events it is about. -/
  target : Option (List Char) := none
  span : Option (List Char) := none
  /-- A field that the events have to have, and whether a value is asked for. -/
  field : Option (List Char × Bool) := none
  /-- Up to which rank events are let through. -/
  rank : Nat := LogLevel.trace.rank
  deriving DecidableEq, Repr

/-- Why a text is no directive. -/
inductive DirectiveFault where
  | malformed
  /-- What stands for the level means none. -/
  | level
  /-- A part would begin or end inside a character. -/
  | splitCharacter
  deriving DecidableEq, Repr

/-- What is wrong, in words. -/
def DirectiveFault.message : DirectiveFault → String
  | malformed => "invalid filter directive"
  | level => "error parsing level filter: expected one of \"off\", \"error\", \"warn\", " ++
      "\"info\", \"debug\", \"trace\", or a number 0-5"
  | splitCharacter => "not a place between two characters"

namespace LogDirective

/-! ### Levels -/

/-- A number in digits, perhaps with a plus sign. -/
def number? (s : List Char) : Option Nat :=
  let digits := if s.head? = some '+' then s.tail else s
  if digits = [] ∨ !digits.all Char.isDigit then none
  else some (digits.foldl (fun n c => 10 * n + (c.toNat - '0'.toNat)) 0)

/-- The rank that a name or a number means: 0 for nothing, 5 for everything. -/
def rankOf? (s : List Char) : Option Nat :=
  match number? s with
  | some n => if n ≤ LogLevel.trace.rank then some n else none
  | none =>
    match String.ofList (s.map Char.toLower) with
    | "" | "error" => some LogLevel.error.rank
    | "off" => some 0
    | "warn" => some LogLevel.warn.rank
    | "info" => some LogLevel.info.rank
    | "debug" => some LogLevel.debug.rank
    | "trace" => some LogLevel.trace.rank
    | _ => none

/-! ### Reading -/

/-- Which part of a directive is being read, and the octet at which it begins. -/
inductive Part where
  | start
  /-- A level or a target. -/
  | word (first : Nat)
  | span (first : Nat)
  | field (first : Nat)
  /-- Behind the brace that closes the field. -/
  | afterField
  /-- Behind the bracket that closes the span. -/
  | afterSpan
  | level (first : Nat)
  deriving DecidableEq, Repr

/-- What lies between two octets of a text. -/
def cut (text : List Char) (first stop : Nat) : Except DirectiveFault (List Char) :=
  match Text.between? first stop text with
  | some part => .ok part
  | none => .error .splitCharacter

/-- What begins at an octet of a text. -/
def cutFrom (text : List Char) (first : Nat) : Except DirectiveFault (List Char) :=
  cut text first (Text.octetCount text)

/-- A field's name, and whether a value follows it. -/
def readField (s : List Char) : List Char × Bool := (s.takeWhile (· ≠ '='), s.contains '=')

/-- One character `c` of a directive: the part that is being read then, and what is known of the
    directive. The character counts as octet `i` of `text`. -/
def step (text : List Char) (i : Nat) (c : Char) (part : Part) (d : LogDirective) :
    Except DirectiveFault (Part × LogDirective) :=
  match part with
  | .start =>
    if c = '[' then .ok (.span (i + 1), d)
    else if c = '-' ∨ c = ':' ∨ c = '_' ∨ Text.isAlphanumeric c then .ok (.word i, d)
    else .error .malformed
  | .word first =>
    if c = '=' then do return (.level (i + 1), { d with target := some (← cut text first i) })
    else if c = '[' then do return (.span (i + 1), { d with target := some (← cut text first i) })
    else .ok (part, d)
  | .span first =>
    if c = ']' then do return (.afterSpan, { d with span := some (← cut text first i) })
    else if c = '{' then do
      let name ← cut text first i
      return (.field (i + 1), { d with span := if name = [] then none else some name })
    else .ok (part, d)
  | .field first =>
    if c = '}' then do
      let field ← cut text first i
      if field = [] then throw .malformed
      return (.afterField, { d with field := some (readField field) })
    else .ok (part, d)
  | .afterField => if c = ']' then .ok (.afterSpan, d) else .error .malformed
  | .afterSpan => if c = '=' then .ok (.level (i + 1), d) else .error .malformed
  | .level _ => .ok (part, d)

/-- The end of a directive. A word alone is a level if it means one, and else a target; where a
    level should stand and does not, everything is let through. -/
def finish (text : List Char) (part : Part) (d : LogDirective) :
    Except DirectiveFault LogDirective :=
  match part with
  | .word first => do
    let word ← cutFrom text first
    if word = [] then return d
    match rankOf? word with
    | some rank => return { d with rank }
    | none => return { d with target := some word }
  | .level first => do
    let level ← cutFrom text first
    if level = [] then return d
    match rankOf? level with
    | some rank => return { d with rank }
    | none => throw .level
  | .afterSpan => .ok d
  | _ => .error .malformed

/-- Reads on from octet `i`. -/
def readFrom (text : List Char) (i : Nat) (part : Part) (d : LogDirective) :
    List Char → Except DirectiveFault LogDirective
  | [] => finish text part d
  | c :: rest =>
    match step text i c part d with
    | .error e => .error e
    | .ok (part, d) => readFrom text (i + c.utf8Size) part d rest

/-- A directive. Blanks at either end are not read, but those at the front stay in the text that the
    parts are cut from, so that every part begins and ends too early by as many octets. -/
def read (text : List Char) : Except DirectiveFault LogDirective :=
  readFrom text 0 .start {} (Text.trim text)

/-! ### Meaning -/

/-- Whether the directive is about an event. -/
def isAbout (d : LogDirective) (e : LogEvent) : Bool :=
  d.span.isNone &&
    d.target.all (·.isPrefixOf e.target.toList) &&
    d.field.all fun (name, hasValue) => !hasValue && e.fieldNames.contains (.ofList name)

/-- How much of a target's name a directive gives; one for any target gives least. -/
def reach (d : LogDirective) : Nat :=
  match d.target with
  | some name => Text.octetCount name + 1
  | none => 0

/-- Of two directives about one event the closer one: the one that gives more of the target, then
    the one with a field, then the one whose field comes last in order; `b` if they are the same. -/
def closer (a b : LogDirective) : LogDirective :=
  if a.reach ≠ b.reach then if a.reach < b.reach then b else a
  else
    match a.field, b.field with
    | none, _ => b
    | some _, none => a
    | some (x, _), some (y, _) => if String.ofList x ≤ String.ofList y then b else a

end LogDirective

/-- A filter. -/
structure LogFilter where
  directives : List LogDirective := []
  /-- What is said about the pieces that are no directives. -/
  complaints : List String := []
  /-- The piece at which reading was given up: a part of it would begin or end inside a
      character. -/
  givenUpAt : Option (List Char) := none
  deriving DecidableEq, Repr

namespace LogFilter

/-- Adds the directive of a piece, or what is said about it if it is none. -/
def add (filter : LogFilter) (piece : List Char) : LogFilter :=
  if filter.givenUpAt.isSome then filter
  else
    match LogDirective.read piece with
    | .ok d => { filter with directives := filter.directives ++ [d] }
    | .error .splitCharacter => { filter with givenUpAt := some piece }
    | .error fault =>
      let complaint := "ignoring \x60" ++ String.ofList piece ++ "\x60: " ++ fault.message
      { filter with complaints := filter.complaints ++ [complaint] }

/-- The filter of a list with commas. -/
def read (s : String) : LogFilter := ((Text.split ',' s.toList).filter (· ≠ [])).foldl add {}

/-- The filter of an environment, which lets the program's own events through up to a level unless
    `RUST_LOG` says otherwise. -/
def ofEnv (env : Env) (level : LogLevel) : LogFilter :=
  match env.lookup "RUST_LOG" with
  | some directives => read directives
  | none => { directives := [{ target := some "routescan".toList, rank := level.rank }] }

/-- So many octets of a piece are shown at most, up to the last character that fits in. -/
def shownOctets : Nat := 256

/-- What is said when reading is given up at a piece. -/
def givenUpText (piece : List Char) : String :=
  let shown := Text.fitting shownOctets piece
  DirectiveFault.splitCharacter.message ++ " of \x60" ++ String.ofList shown ++ "\x60" ++
    if shown.length < piece.length then "[...]" else ""

/-- All that is said about the pieces of a filter. -/
def remarks (filter : LogFilter) : List String :=
  filter.complaints ++ (filter.givenUpAt.map givenUpText).toList

/-- Whether an event is written. -/
def allows (filter : LogFilter) (e : LogEvent) : Bool :=
  match filter.directives.filter (·.isAbout e) with
  | [] => false
  | d :: rest => e.level.rank ≤ (rest.foldl LogDirective.closer d).rank

end LogFilter
end RouteInventory
