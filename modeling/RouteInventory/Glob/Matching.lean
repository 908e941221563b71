import RouteInventory.Glob
import RouteInventory.Text.Utf8

/-!
Which paths a glob matches. Matching goes octet by octet, so `?` and a class match one octet, not
one character. It goes through the glob from its end: for each token a table says from which places
of the path the token and all that follow it can take the rest.
-/

namespace RouteInventory.Glob

/-! ### Octets -/

/-- The octet of a slash. -/
def slash : UInt8 := 47

/-- The octets of a character. -/
def octetsOf (c : Char) : List UInt8 := String.utf8EncodeChar c

/-- Whether an octet is in the octet range that one range of characters stands for: when the ends
    take several octets, only the last of the first end and the first of the last end bound a range,
    and the others stand for themselves. -/
def inOctetRange (low high : Char) (b : UInt8) : Bool :=
  if low = high then (octetsOf low).contains b
  else
    let l := octetsOf low
    let h := octetsOf high
    l.dropLast.contains b || h.tail.contains b ||
      ((l.getLast?.any (· ≤ b)) && (h.head?.any (b ≤ ·)))

/-- Whether an octet is in a class. -/
def inClass (negated : Bool) (ranges : List (Char × Char)) (b : UInt8) : Bool :=
  ranges.any (fun (low, high) => inOctetRange low high b) != negated

/-! ### Tables -/

/-- For each place in a text, the end included, whether what is left from there on is accepted. -/
abbrev Ahead := List Bool

namespace Ahead

/-- Nothing is accepted. -/
def nowhere (s : List UInt8) : Ahead := false :: s.map fun _ => false

/-- Nothing but the empty rest is accepted. -/
def atEnd : List UInt8 → Ahead
  | [] => [true]
  | _ :: s => false :: atEnd s

/-- What either of two tables accepts. -/
def either (a b : Ahead) : Ahead := List.zipWith (· || ·) a b

/-- An octet that satisfies `p`, and then what `next` accepts. -/
def octet (p : UInt8 → Bool) : List UInt8 → Ahead → Ahead
  | b :: s, _ :: next => (p b && next.headD false) :: octet p s next
  | _, _ => [false]

/-- Any number of octets that satisfy `p`, and then what `next` accepts. -/
def stretch (p : UInt8 → Bool) : List UInt8 → Ahead → Ahead
  | b :: s, here :: next =>
    let later := stretch p s next
    (here || (p b && later.headD false)) :: later
  | _, next => next

/-- Any octets, and then what `next` accepts. -/
def anything (s : List UInt8) (next : Ahead) : Ahead := stretch (fun _ => true) s next

/-- A slash, and then what `next` accepts. -/
def afterSlash (s : List UInt8) (next : Ahead) : Ahead := octet (· == slash) s next

/-- What `next` accepts, there or after some slash. -/
def deep (s : List UInt8) (next : Ahead) : Ahead :=
  either next (anything s (afterSlash s next))

end Ahead

/-! ### Matching -/

mutual

/-- From where in `s` the token can take octets so that `next` accepts the rest. -/
def Token.ahead (t : Token) (s : List UInt8) (next : Ahead) : Ahead :=
  match t with
  | .literal c => (octetsOf c).foldr (fun o next => Ahead.octet (· == o) s next) next
  | .anyOne => Ahead.octet (· != slash) s next
  | .stretch => Ahead.stretch (· != slash) s next
  | .deepFront => Ahead.deep s next
  | .deepEnd => Ahead.afterSlash s (Ahead.anything s next)
  | .deepMiddle => Ahead.afterSlash s (Ahead.deep s next)
  | .charClass negated ranges => Ahead.octet (inClass negated ranges) s next
  | .choice branches =>
    if anyBranchSolid branches then branchesAhead branches s next else next

/-- From where in `s` the tokens can take octets, one after the other, so that `next` accepts the
    rest. -/
def tokensAhead (ts : List Token) (s : List UInt8) (next : Ahead) : Ahead :=
  match ts with
  | [] => next
  | t :: rest => t.ahead s (tokensAhead rest s next)

/-- From where in `s` one of the branches that hold anything can. -/
def branchesAhead (branches : List (List Token)) (s : List UInt8) (next : Ahead) : Ahead :=
  match branches with
  | [] => Ahead.nowhere s
  | branch :: rest =>
    let others := branchesAhead rest s next
    if anySolid branch then Ahead.either (tokensAhead branch s next) others else others

end

/-- Whether a glob matches the whole of a path; `**` alone matches every path. -/
def isMatch (ts : List Token) (path : List UInt8) : Bool :=
  match ts with
  | [.deepFront] => true
  | _ => (tokensAhead ts path (Ahead.atEnd path)).headD false

end RouteInventory.Glob
