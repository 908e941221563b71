/-!
Globs over '/'-separated paths. `*` and `?` do not match a slash, `**` between slashes (or at either
end) stands for any number of directories, `[...]` is a class of characters, `{a,b}` a choice, and a
backslash takes away the meaning of the character after it.
-/

namespace RouteInventory

namespace Glob

/-- A piece of a glob. -/
inductive Token where
  | literal (c : Char)
  /-- `?` -/
  | anyOne
  /-- `*` -/
  | stretch
  /-- `**/` at the front: directories, or none. -/
  | deepFront
  /-- `/**` at the end: something below. -/
  | deepEnd
  /-- `/**/` in between. -/
  | deepMiddle
  | charClass (negated : Bool) (ranges : List (Char × Char))
  | choice (branches : List (List Token))

/-- Why a text is no glob. -/
inductive Fault where
  | unclosedClass
  | invalidRange (first last : Char)
  | unopenedChoice
  | unclosedChoice
  | danglingEscape
  deriving DecidableEq, Repr

/-- What is wrong, in words. -/
def Fault.message : Fault → String
  | unclosedClass => "unclosed character class; missing ']'"
  | invalidRange first last => s!"invalid range; '{first}' > '{last}'"
  | unopenedChoice =>
    "unopened alternate group; missing '\x7b' (maybe escape '\x7d' with '[\x7d]'?)"
  | unclosedChoice =>
    "unclosed alternate group; missing '\x7d' (maybe escape '\x7b' with '[\x7b]'?)"
  | danglingEscape => "dangling '\\'"

/-! ### Reading a glob -/

/-- A choice that is still open: the tokens before it and its finished branches, both with the
    latest first. -/
structure OpenChoice where
  before : List Token
  branches : List (List Token)

/-- How far reading has come: the tokens of the current branch, latest first, the open choices,
    innermost first, the character read last, and whether a class was found to have no end. -/
structure State where
  current : List Token
  opened : List OpenChoice
  prev : Option Char
  classLeftOpen : Bool

/-- Adds a token. -/
def State.push (st : State) (t : Token) : State := { st with current := t :: st.current }

/-- The ranges of a class, latest first, and how many characters they took with the closing
    bracket; nothing if no bracket closes it. A hyphen between two characters makes a range, and a
    bracket or a hyphen at the front stands for itself. -/
def readClass (isFirst inRange : Bool) (ranges : List (Char × Char)) (count : Nat) :
    List Char → Except Fault (Option (List (Char × Char) × Nat))
  | [] => .ok none
  | c :: rest =>
    if c = ']' ∧ !isFirst then
      .ok (some (if inRange then ('-', '-') :: ranges else ranges, count + 1))
    else if c = '-' ∧ !isFirst ∧ !inRange then readClass false true ranges (count + 1) rest
    else
      match inRange, ranges with
      | true, (low, _) :: older =>
        if c < low then .error (.invalidRange low c)
        else readClass false false ((low, c) :: older) (count + 1) rest
      | _, _ => readClass false false ((c, c) :: ranges) (count + 1) rest

/-- Two stars after each other, `rest` being what follows them: the state and how many characters of
    `rest` they take with them. -/
def State.stars (st : State) (rest : List Char) : State × Nat :=
  let plain := ((st.push .stretch).push .stretch, 0)
  if st.current.isEmpty then
    match rest with
    | [] => (st.push .deepFront, 0)
    | '/' :: _ => (st.push .deepFront, 1)
    | _ => plain
  else if st.prev ≠ some '/' ∧ (st.opened.isEmpty ∨ (st.prev ≠ some ',' ∧ st.prev ≠ some '{')) then
    plain
  else
    let atEnd : Option (Bool × Nat) :=
      match rest with
      | [] => some (true, 0)
      | '/' :: _ => some (false, 1)
      | c :: _ => if (c = ',' ∨ c = '}') ∧ !st.opened.isEmpty then some (true, 0) else none
    match atEnd, st.current with
    | none, _ => plain
    | some (_, taken), .deepFront :: _ => (st, taken)
    | some (_, taken), .deepEnd :: _ => (st, taken)
    | some (isEnd, taken), _ :: older =>
      ({ st with current := (if isEnd then .deepEnd else .deepMiddle) :: older }, taken)
    | some _, [] => plain

/-- One character, `rest` being what follows it: the state and how many characters of `rest` it
    takes with it. A class without end is refused, or its bracket stands for itself if `lenient`. -/
def State.read (lenient : Bool) (st : State) (c : Char) (rest : List Char) :
    Except Fault (State × Nat) :=
  if c = '?' then .ok (st.push .anyOne, 0)
  else if c = '*' then
    match rest with
    | '*' :: rest =>
      let (st, taken) := st.stars rest
      .ok (st, taken + 1)
    | _ => .ok (st.push .stretch, 0)
  else if c = '[' ∧ !st.classLeftOpen then
    let negated := rest.head? = some '!' ∨ rest.head? = some '^'
    let (count, inside) := if negated then (1, rest.tail) else (0, rest)
    match readClass true false [] count inside with
    | .error e => .error e
    | .ok (some (ranges, taken)) => .ok (st.push (.charClass negated ranges.reverse), taken)
    | .ok none =>
      if lenient then .ok ({ st.push (.literal '[') with classLeftOpen := true }, 0)
      else .error .unclosedClass
  else if c = '{' then .ok ({ st with current := [], opened := ⟨st.current, []⟩ :: st.opened }, 0)
  else if c = '}' then
    match st.opened with
    | [] => .error .unopenedChoice
    | ⟨before, branches⟩ :: outer =>
      let all := (st.current.reverse :: branches).reverse
      .ok ({ st with current := .choice all :: before, opened := outer }, 0)
  else if c = ',' then
    match st.opened with
    | [] => .ok (st.push (.literal ','), 0)
    | ⟨before, branches⟩ :: outer =>
      let branches := st.current.reverse :: branches
      .ok ({ st with current := [], opened := ⟨before, branches⟩ :: outer }, 0)
  else if c = '\\' then
    match rest with
    | [] => .error .danglingEscape
    | escaped :: _ => .ok (st.push (.literal escaped), 1)
  else .ok (st.push (.literal c), 0)

/-- Reads on, after `skip` characters that belong to the token before. -/
def readFrom (lenient : Bool) : State → Nat → List Char → Except Fault State
  | st, _, [] => .ok st
  | st, skip + 1, c :: rest => readFrom lenient { st with prev := some c } skip rest
  | st, 0, c :: rest =>
    match st.read lenient c rest with
    | .error e => .error e
    | .ok (next, taken) => readFrom lenient { next with prev := some c } taken rest

/-- The tokens of a glob. -/
def parse (lenient : Bool) (s : List Char) : Except Fault (List Token) := do
  let st ← readFrom lenient ⟨[], [], none, false⟩ 0 s
  if st.opened.isEmpty then return st.current.reverse else throw .unclosedChoice

/-! ### Empty choices -/

mutual

/-- Whether a token stands for anything: a choice whose branches are all empty does not. -/
def Token.isSolid : Token → Bool
  | .choice branches => anyBranchSolid branches
  | _ => true

/-- Whether one of the tokens stands for anything. -/
def anySolid : List Token → Bool
  | [] => false
  | t :: rest => t.isSolid || anySolid rest

/-- Whether one of the branches holds a token that stands for anything. -/
def anyBranchSolid : List (List Token) → Bool
  | [] => false
  | branch :: rest => anySolid branch || anyBranchSolid rest

end

end Glob
end RouteInventory
