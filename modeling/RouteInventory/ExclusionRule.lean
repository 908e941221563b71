import RouteInventory.Glob.Expression
import RouteInventory.Text.Blank
import RouteInventory.Text.Lines

/-!
Rules that leave paths out of a walk, one to a line: a glob, with `!` in front to take paths in
again and a slash at the end for directories only. A glob without any other slash holds at every
depth, one with a slash only from the directory that the rules belong to. Of several rules that
match a path the last one counts.
-/

namespace RouteInventory

/-- A rule. -/
structure ExclusionRule where
  /-- It takes in what it matches. -/
  keeps : Bool
  dirsOnly : Bool
  tokens : List Glob.Token

/-- What rules say about a path. -/
inductive Verdict where
  | silent
  | leaveOut
  | keep
  deriving DecidableEq, Repr

namespace Verdict

/-- The first verdict unless it is silent. -/
def orElse : Verdict → Verdict → Verdict
  | silent, v => v
  | v, _ => v

/-- The opposite verdict. -/
def invert : Verdict → Verdict
  | silent => silent
  | leaveOut => keep
  | keep => leaveOut

end Verdict

namespace ExclusionRule

/-- A text without a prefix. -/
def dropFront? : List Char → List Char → Option (List Char)
  | [], s => some s
  | _ :: _, [] => none
  | a :: front, c :: rest => if a = c then dropFront? front rest else none

/-- The blanks at the end of a line do not count unless a backslash stands before the last one. -/
def trimLine (line : List Char) : List Char :=
  if line.reverse.take 2 = [' ', '\\'] then line else Text.trimRight line

/-- A line's marks: whether it keeps, whether it begins at the directory of the rules, and what is
    left. A backslash takes away the meaning of `!` or `#` at the front. -/
def readFront : List Char → Bool × Bool × List Char
  | '\\' :: '!' :: rest => (false, false, '!' :: rest)
  | '\\' :: '#' :: rest => (false, false, '#' :: rest)
  | '!' :: '/' :: rest => (true, true, rest)
  | '!' :: rest => (true, false, rest)
  | '/' :: rest => (false, true, rest)
  | rest => (false, false, rest)

/-- Whether a line ends in a slash, and the line without it and without a backslash before it. -/
def readEnd (s : List Char) : Bool × List Char :=
  match s.reverse with
  | '/' :: '\\' :: rest => (true, rest.reverse)
  | '/' :: rest => (true, rest.reverse)
  | _ => (false, s)

/-- The glob that is matched against a path relative to the directory of the rules: a bare name may
    stand at any depth, and `/**` at the end means what is below and not the directory itself. -/
def anchor (atFront : Bool) (s : List Char) : List Char :=
  let deep := s = "**".toList ∨ (dropFront? "**/".toList s).isSome
  let placed := if !atFront ∧ !s.contains '/' ∧ !deep then "**/".toList ++ s else s
  if (dropFront? "**/".toList placed.reverse).isSome then placed ++ "/*".toList else placed

/-- The rule of a line; a comment or a blank line has none. -/
def ofLine (lenient : Bool) (line : List Char) : Except Glob.Fault (Option ExclusionRule) :=
  let line := trimLine line
  if line.head? = some '#' ∨ line = [] then .ok none
  else
    let (keeps, atFront, body) := readFront line
    let (dirsOnly, body) := readEnd body
    match Glob.parse lenient (anchor atFront body) with
    | .error e => .error e
    | .ok tokens => .ok (some ⟨keeps, dirsOnly, tokens⟩)

/-- A byte order mark at the front of a file is no part of its first line. -/
def dropMark (s : List Char) : List Char := s.dropWhile (· == '\uFEFF')

/-- The lines of a rule file up to the first that is not text. -/
def fileLines (octets : List UInt8) : List (List Char) :=
  let lines := Text.linesOf 13 (Text.splitBy (· == 10) octets)
  match (lines.takeWhile Text.isText).map Text.decode with
  | [] => []
  | first :: rest => dropMark first :: rest

/-- The glob of a list of rules that is nested too deeply, if there is one. -/
def tooDeep? (rules : List ExclusionRule) : Option Glob.TooDeep :=
  Glob.tooDeep? (rules.map (·.tokens))

/-- The rules of a file; lines that are no rules are passed over, and a glob that is nested too
    deeply takes all the others of the file with it. -/
def ofFile (octets : List UInt8) : List ExclusionRule :=
  let rules := (fileLines octets).filterMap fun line =>
    match ofLine true line with
    | .ok rule => rule
    | .error _ => none
  if (tooDeep? rules).isSome then [] else rules

/-- Whether a rule is about the path. -/
def holds (rule : ExclusionRule) (octets : List UInt8) (isDir : Bool) : Bool :=
  (!rule.dirsOnly || isDir) && Glob.isMatch rule.tokens octets

/-- What a list of rules says about a path relative to their directory. -/
def verdict (rules : List ExclusionRule) (path : String) (isDir : Bool) : Verdict :=
  let octets := Text.encode path.toList
  match rules.reverse.find? (·.holds octets isDir) with
  | none => .silent
  | some rule => if rule.keeps then .keep else .leaveOut

end ExclusionRule
end RouteInventory
