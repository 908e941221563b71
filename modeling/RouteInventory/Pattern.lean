/-!
Lexical patterns and what they match. A pattern is built from single characters, runs of characters,
sequence, choice and numbered groups. Of the ways to match at a place, the first in order of
preference counts: a choice prefers its first side, a run prefers to be long (or short), and earlier
parts decide before later ones.

A text is an array of characters, and a position counts the characters before it.
-/

namespace RouteInventory

/-- A stretch of a text, from the position of its first character to the one after its last. -/
structure Span where
  start : Nat
  stop : Nat
  deriving DecidableEq, Repr

/-- The characters of a stretch. -/
def Span.slice (s : Span) (text : Array Char) : List Char := (text.extract s.start s.stop).toList

/-- An end of a numbered group. -/
inductive Edge where
  | opens (index : Nat)
  | closes (index : Nat)
  deriving DecidableEq, Repr

/-- A pattern over characters. -/
inductive Pattern where
  /-- Matches without taking a character. -/
  | nothing
  /-- One character of a class. -/
  | one (is : Char → Bool)
  /-- Any number of characters of a class, as many as possible if `longest`, else as few. -/
  | run (is : Char → Bool) (longest : Bool)
  /-- Both, one after the other. -/
  | seq (first second : Pattern)
  /-- Either; the first is preferred. -/
  | alt (first second : Pattern)
  /-- Takes no character, but remembers the position. -/
  | edge (e : Edge)

namespace Pattern

/-- What was found: the position after it, and the ends of its groups from left to right. -/
structure Found where
  stop : Nat
  edges : List (Edge × Nat) := []
  deriving DecidableEq, Repr

/-- What was found, with the end of a group in front of it. -/
def Found.after (f : Found) (e : Edge) (pos : Nat) : Found :=
  { f with edges := (e, pos) :: f.edges }

/-- Of two ways to go on in a run the preferred one that is there: to take a character more, or to
    end the run. -/
def preferred (longest : Bool) (more done : Option Found) : Option Found :=
  if longest then more.or done else done.or more

/-- The preferred way to match a run from a position on, `k` saying how the text after the run is
    matched. -/
def findRun (text : Array Char) (is : Char → Bool) (longest : Bool) (k : Nat → Option Found)
    (pos : Nat) : Option Found :=
  if h : pos < text.size then
    preferred longest (if is text[pos] then findRun text is longest k (pos + 1) else none) (k pos)
  else k pos
termination_by text.size - pos

/-- The preferred way to match a pattern at a position, `k` saying how the text after it is
    matched. -/
def find? (text : Array Char) : Pattern → (Nat → Option Found) → Nat → Option Found
  | nothing, k => k
  | one is, k => fun pos =>
    match text[pos]? with
    | some c => if is c then k (pos + 1) else none
    | none => none
  | run is longest, k => findRun text is longest k
  | seq first second, k => first.find? text (second.find? text k)
  | alt first second, k => fun pos => (first.find? text k pos).or (second.find? text k pos)
  | edge e, k => fun pos => (k pos).map (·.after e pos)

/-! ### Building patterns -/

/-- The same as the body, remembering where it matched. -/
def group (index : Nat) (body : Pattern) : Pattern :=
  seq (edge (.opens index)) (seq body (edge (.closes index)))

/-- At least one character of a class, as many as there are. -/
def some1 (is : Char → Bool) : Pattern := seq (one is) (run is true)

/-- The same text. -/
def lit (s : String) : Pattern := s.toList.foldr (fun c p => seq (one (· == c)) p) nothing

/-- One after the other. -/
def all (ps : List Pattern) : Pattern := ps.foldr seq nothing

/-- The first of a list that matches, or the last. -/
def any : List Pattern → Pattern
  | [] => one fun _ => false
  | [p] => p
  | p :: ps => alt p (any ps)

/-- The greatest group number. -/
def groupCount : Pattern → Nat
  | nothing | one _ | run _ _ => 0
  | seq first second | alt first second => max first.groupCount second.groupCount
  | edge (.opens index) | edge (.closes index) => index

end Pattern
end RouteInventory
