import RouteInventory.Pattern
import RouteInventory.Text.Blank
import RouteInventory.Text.Fold
import RouteInventory.Verb

/-!
The patterns of a backend's source text. Each is purely lexical and runs over the raw text, so code
inside comments and comment marks inside strings count like any other.
-/

namespace RouteInventory.Pattern

/-! ### Classes of characters -/

/-- The characters that enclose a literal. -/
def isQuote (c : Char) : Bool := c == '\'' || c == '"' || c == '\x60'

/-- ASCII letters, digits and the underscore. -/
def isNameChar (c : Char) : Bool := c.isAlphanum || c == '_'

/-- The characters of a header's name. -/
def isHeaderChar (c : Char) : Bool := isNameChar c || c == '-'

/-- The characters of a bare path literal after its slash. -/
def isUrlChar (c : Char) : Bool := !Text.isBlank c && !isQuote c && c != ';'

/-- A text in any case. -/
def litFold (s : String) : Pattern :=
  s.toList.foldr (fun c p => seq (one (Text.sameFold · c)) p) nothing

/-- A quote. -/
def quote : Pattern := one isQuote

/-- Blanks, if there are any. -/
def blanks : Pattern := run Text.isBlank true

/-! ### The patterns -/

/-- The objects that routes are declared on. -/
def receivers : List String := ["router", "app"]

/-- `<receiver>.<verb>('<literal>'` in any case. Groups: receiver, verb, literal. -/
def routeDeclaration : Pattern := all
  [group 1 (any (receivers.map litFold)), lit ".",
   group 2 (any (Verb.every.map fun v => litFold v.name)), lit "(", quote,
   group 3 (some1 fun c => !isQuote c), quote]

/-- A quoted literal that starts with a slash and holds no blank, quote or semicolon. -/
def barePathLiteral : Pattern := all [quote, lit "/", some1 isUrlChar, quote]

/-- `req.headers['<name>']`. Group: name. -/
def headerAccess : Pattern := all
  [lit "req.headers[", quote, group 1 (some1 isHeaderChar), quote, lit "]"]

/-- `body` or `query`. -/
def requestPart : Pattern := any [lit "body", lit "query"]

/-- `req.body.<name>` or `req.query['<name>']`. Groups: request part, dotted name, quoted name. -/
def parameterAccess : Pattern := all
  [lit "req.", group 1 requestPart,
   any [all [lit ".", group 2 (some1 isNameChar)],
        all [lit "[", quote, group 3 (some1 isNameChar), quote, lit "]"]]]

/-- `const { <list> } = req.body`. Groups: list, request part. The list goes on to the closing
    brace if it can, so blanks in front of that belong to it. -/
def parameterDestructure : Pattern := all
  [lit "const", blanks, lit "\x7b", blanks, group 1 (some1 (· != '}')), blanks, lit "\x7d", blanks,
   lit "=", blanks, lit "req.", group 2 requestPart]

/-- `process.env.<NAME>`. Group: name. -/
def envAccess : Pattern := all [lit "process.env.", group 1 (some1 isNameChar)]

/-- Two slashes and the rest of the line. Group: the rest. -/
def lineComment : Pattern := all [lit "//", group 1 (run (· != '\n') true)]

/-- From a comment's opening mark to the nearest closing one. Group: the text between. -/
def blockComment : Pattern := all [lit "/*", group 1 (run (fun _ => true) false), lit "*/"]

/-- `:name` in a route. Group: name. -/
def pathParameter : Pattern := all [lit ":", group 1 (some1 isNameChar)]

end RouteInventory.Pattern
