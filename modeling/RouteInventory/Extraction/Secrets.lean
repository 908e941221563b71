import RouteInventory.Glob.Expression
import RouteInventory.OrderedSet
import RouteInventory.Text.Blank
import RouteInventory.Text.Fold
import RouteInventory.Text.Lines
import RouteInventory.Text.Word

/-!
Lines that may hold a secret: those with one of a list of keywords as a whole word, in any case. No
keywords means that nothing is looked for. Keywords are compiled into one expression, which may be
refused.
-/

namespace RouteInventory.Extraction

/-- A text as an expression for itself: behind a backslash no character has a meaning of its own. -/
def escape (word : List Char) : List Char :=
  word.flatMap fun c => if Glob.isSpecial c then ['\\', c] else [c]

/-- The expression for one of the words between word boundaries. -/
def expressionText (words : List (List Char)) : List Char :=
  ['\\', 'b', '(', '?', ':'] ++ Text.join '|' (words.map escape) ++ [')', '\\', 'b']

/-- The keywords to look for; none of them is blank. -/
structure SecretRules where
  keywords : List String
  deriving DecidableEq, Repr

namespace SecretRules

/-- Looks for nothing. -/
def disabled : SecretRules := ⟨[]⟩

/-- Looks for the keywords that are not blank. -/
def ofKeywords (keywords : List String) : SecretRules :=
  ⟨keywords.filter fun k => Text.trim k.toList ≠ []⟩

/-- Whether anything is looked for. -/
def isEnabled (rules : SecretRules) : Bool := !rules.keywords.isEmpty

/-- Compiles keywords that are not blank. An expression can be refused, as one that is too large is;
    `refusal?` says why. -/
def withKeywords {ε : Type} (refusal? : List Char → Option ε) (keywords : List String) :
    Except ε SecretRules :=
  let rules := ofKeywords keywords
  if rules.isEnabled then
    match refusal? (expressionText (rules.keywords.map fun k => Text.trim k.toList)) with
    | some e => .error e
    | none => .ok rules
  else .ok disabled

/-- What a text that starts with the word, up to case, goes on with: the last character of the
    word as it stands in the text, or the one before it for an empty word, and the rest. -/
def afterWord (last : Option Char) : List Char → List Char → Option (Option Char × List Char)
  | [], rest => some (last, rest)
  | _ :: _, [] => none
  | k :: word, c :: rest => if Text.sameFold c k then afterWord (some c) word rest else none

/-- Whether the word stands at the front of the text with a word boundary at both of its ends. -/
def wordAt (before : Option Char) (word text : List Char) : Bool :=
  Text.isBoundary before text.head? &&
    match afterWord before word text with
    | none => false
    | some (last, rest) => Text.isBoundary last rest.head?

/-- Whether one of the words stands somewhere in the text. -/
def anyWordIn (words : List (List Char)) (before : Option Char) : List Char → Bool
  | [] => words.any (wordAt before · [])
  | c :: rest => words.any (wordAt before · (c :: rest)) || anyWordIn words (some c) rest

/-- Whether a line holds a keyword, the blanks around keywords not counting. -/
def hits (rules : SecretRules) (line : List Char) : Bool :=
  anyWordIn (rules.keywords.map fun k => Text.trim k.toList) none line

/-- The lines with a keyword, without the blanks around them, in order of first appearance. -/
def find (rules : SecretRules) (text : List Char) : OrderedSet String :=
  if rules.isEnabled then
    .ofList (((Text.lines text).filter rules.hits).map fun line => .ofList (Text.trim line))
  else .empty

end SecretRules
end RouteInventory.Extraction
