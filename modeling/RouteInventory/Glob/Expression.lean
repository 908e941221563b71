import RouteInventory.Glob.Matching

/-!
Globs as regular expressions, and how deeply such an expression may be nested. A list of globs is
matched in three ways: a glob that is a literal text, perhaps at any depth, with any name before an
extension or with anything below it, needs no expression; one that ends in an extension has an
expression of its own; all others go into one set of expressions. A list in which an expression is
nested too deeply cannot be matched at all.
-/

namespace RouteInventory.Glob

/-! ### Expressions -/

/-- Whether a character has a meaning of its own in an expression. -/
def isSpecial (c : Char) : Bool :=
  ['\\', '.', '+', '*', '?', '(', ')', '|', '[', ']', '{', '}', '^', '$', '#', '&', '-',
    '~'].contains c

/-- A character as an expression: octets beyond ASCII are written as numbers. -/
def literalExpression (c : Char) : List Char :=
  if isSpecial c then ['\\', c]
  else if c.toNat < 0x80 then [c]
  else (octetsOf c).flatMap fun o => ['\\', 'x'] ++ Nat.toDigits 16 o.toNat

/-- A range of a class. -/
def rangeExpression (low high : Char) : List Char :=
  if low = high then literalExpression low
  else literalExpression low ++ '-' :: literalExpression high

mutual

/-- A token as an expression. -/
def Token.expression (t : Token) : List Char :=
  match t with
  | .literal c => literalExpression c
  | .anyOne => "[^/]".toList
  | .stretch => "[^/]*".toList
  | .deepFront => "(?:/?|.*/)".toList
  | .deepEnd => "/.*".toList
  | .deepMiddle => "(?:/|/.*/)".toList
  | .charClass negated ranges =>
    (if negated then ['[', '^'] else ['[']) ++
      ranges.flatMap (fun (low, high) => rangeExpression low high) ++ [']']
  | .choice branches =>
    match branchExpressions branches with
    | [] => []
    | first :: rest =>
      "(?:".toList ++ first ++ rest.flatMap (fun branch => '|' :: branch) ++ [')']

/-- Tokens as an expression. -/
def tokensExpression (ts : List Token) : List Char :=
  match ts with
  | [] => []
  | t :: rest => t.expression ++ tokensExpression rest

/-- The branches that hold anything as expressions. -/
def branchExpressions (branches : List (List Token)) : List (List Char) :=
  match branches with
  | [] => []
  | branch :: rest =>
    if anySolid branch then tokensExpression branch :: branchExpressions rest
    else branchExpressions rest

end

/-- The expression that matches octets as the glob does. -/
def expression (ts : List Token) : String :=
  let inner :=
    match ts with
    | [.deepFront] => ".*".toList
    | _ => tokensExpression ts
  "(?-u)^" ++ .ofList inner ++ "$"

/-! ### Nesting -/

/-- What an expression is made of: how many parts stand after each other, and how deeply the deepest
    of them is nested. -/
structure Extent where
  parts : Nat
  deepest : Nat
  deriving DecidableEq, Repr

/-- How deeply an expression is nested: parts after each other count as one level around them. -/
def Extent.nesting (e : Extent) : Nat := if 2 ≤ e.parts then e.deepest + 1 else e.deepest

/-- Two expressions after each other. -/
def Extent.append (a b : Extent) : Extent := ⟨a.parts + b.parts, max a.deepest b.deepest⟩

/-- How many members a range adds to a class, octet by octet. -/
def rangeSize (low high : Char) : Nat :=
  if low = high then low.utf8Size else low.utf8Size + high.utf8Size - 1

mutual

/-- What a token's expression is made of. A class counts as one level, and its members as another if
    there are several; a repetition, a group and the choice in it count as one each. -/
def Token.extent (t : Token) : Extent :=
  match t with
  | .literal c => ⟨c.utf8Size, 0⟩
  | .anyOne => ⟨1, 1⟩
  | .stretch => ⟨1, 2⟩
  | .deepFront => ⟨1, 4⟩
  | .deepEnd => ⟨2, 1⟩
  | .deepMiddle => ⟨1, 4⟩
  | .charClass _ ranges =>
    ⟨1, if 2 ≤ (ranges.map fun (low, high) => rangeSize low high).sum then 2 else 1⟩
  | .choice branches =>
    let inner := branchesExtent branches
    if inner.parts = 0 then ⟨0, 0⟩ else ⟨1, inner.nesting + 1⟩

/-- What the expression of tokens is made of. -/
def tokensExtent (ts : List Token) : Extent :=
  match ts with
  | [] => ⟨0, 0⟩
  | t :: rest => t.extent.append (tokensExtent rest)

/-- The branches that hold anything, and how deeply the deepest of them is nested. -/
def branchesExtent (branches : List (List Token)) : Extent :=
  match branches with
  | [] => ⟨0, 0⟩
  | branch :: rest =>
    if anySolid branch then (Extent.append ⟨1, (tokensExtent branch).nesting⟩ (branchesExtent rest))
    else branchesExtent rest

end

/-- No expression may be nested more deeply. -/
def nestingLimit : Nat := 250

/-- Whether the glob's expression, which has an anchor at either end, is nested too deeply. -/
def isTooDeep (ts : List Token) : Bool := nestingLimit < (tokensExtent ts).deepest + 1

/-! ### Lists of globs -/

/-- Whether every token is a literal that satisfies `p`. -/
def allLiteral (p : Char → Bool) (ts : List Token) : Bool :=
  ts.all fun
    | .literal c => p c
    | _ => false

/-- Whether the glob needs no expression: it is a text, a text at any depth, a directory with what
    is below it, or an extension at any depth. -/
def isPlain (ts : List Token) : Bool :=
  match ts with
  | [] => false
  | .deepFront :: .stretch :: .literal '.' :: rest => allLiteral (fun c => c ≠ '.' ∧ c ≠ '/') rest
  | .deepFront :: rest => !rest.isEmpty && allLiteral (fun _ => true) rest
  | _ =>
    match ts.getLast? with
    | some .deepEnd => allLiteral (fun _ => true) ts.dropLast
    | _ => allLiteral (fun _ => true) ts

/-- Whether the tokens, latest first, begin with the letters of an extension and its dot. -/
def beginsWithExtension : List Token → Bool
  | .literal '.' :: _ => true
  | .literal '/' :: _ => false
  | .literal _ :: rest => beginsWithExtension rest
  | _ => false

/-- Whether the glob ends in an extension. -/
def endsInExtension (ts : List Token) : Bool := beginsWithExtension ts.reverse

/-- Which glob of a list is nested too deeply. -/
inductive TooDeep where
  /-- One that ends in an extension. -/
  | alone (glob : List Token)
  /-- The one that has this index in the set of the expressions. -/
  | together (index : Nat)

/-- What is wrong, in words. -/
def TooDeep.message : TooDeep → String
  | alone glob => s!"error parsing glob '{expression glob}': error parsing pattern 0"
  | together index => s!"error parsing pattern {index}"

/-- The first glob of a list that is nested too deeply; those with an expression of their own are
    looked at first. -/
def tooDeep? (globs : List (List Token)) : Option TooDeep :=
  let needy := globs.filter (!isPlain ·)
  match needy.find? fun g => endsInExtension g && isTooDeep g with
  | some g => some (.alone g)
  | none => ((needy.filter (!endsInExtension ·)).findIdx? isTooDeep).map .together

end RouteInventory.Glob
