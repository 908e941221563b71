import RouteInventory.Pattern.Catalog
import RouteInventory.Pattern.Matches
import RouteInventory.Record

/-!
Routes, mount prefixes and bare URLs in one file's text.
-/

namespace RouteInventory.Extraction

/-- The routes that a file declares and the prefixes that it mounts. -/
structure Declarations where
  routes : List Route
  basePaths : List String
  deriving DecidableEq, Repr

/-- The verb and the literal of one declaration. A verb spelled with a letter that is only a case
    variant of an ASCII one is none of ours. -/
def declaration? (text : Array Char) (m : Pattern.Match) : Option (Verb × String) := do
  let verb ← Verb.ofName? (← m.groupText text 2)
  return (verb, .ofList (← m.groupText text 3))

/-- The declarations in a text, in order. -/
def declarationsIn (text : Array Char) : List (Verb × String) :=
  (Pattern.routeDeclaration.matchesIn text).filterMap (declaration? text)

/-- The routes and prefixes declared in a file's text; a mount gives a prefix, any other verb a
    route. -/
def routesIn (file : String) (text : Array Char) : Declarations :=
  let found := declarationsIn text
  { routes := found.filterMap fun (verb, literal) =>
      if verb.isMount then none else some ⟨literal, verb.method, file⟩
    basePaths := found.filterMap fun (verb, literal) =>
      if verb.isMount then some literal else none }

/-- Every bare path literal, without its quotes. -/
def urlsIn (file : String) (text : Array Char) : List UrlMention :=
  (Pattern.barePathLiteral.matchesIn text).map fun m =>
    ⟨.ofList ((m.whole.slice text).filter (!Pattern.isQuote ·)), file⟩

end RouteInventory.Extraction
