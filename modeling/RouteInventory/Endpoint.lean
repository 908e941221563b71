import RouteInventory.Record
import RouteInventory.SortedSet
import RouteInventory.UrlPath

/-!
From declared routes to endpoints. Mount prefixes are pooled: every route is joined with every
prefix, whichever file either one is from. An endpoint is the path of a joined route or a bare URL
without the slashes and the question mark at its end.
-/

namespace RouteInventory

/-- A route under a mount prefix; backslashes in the joined path become slashes. -/
def Route.under (route : Route) (base : String) : Route :=
  let joined := UrlPath.join [base, route.path]
  { route with path := .ofList (joined.toList.map fun c => if c = '\\' then '/' else c) }

/-- Every route under every prefix, all prefixes of the first route first; without prefixes the
    routes are left as they are. -/
def compose (routes : List Route) (bases : List String) : List Route :=
  if bases.isEmpty then routes else routes.flatMap fun route => bases.map route.under

namespace Endpoint

/-- A text without one given character at its end. -/
def dropOne (c : Char) (s : List Char) : List Char :=
  if s.getLast? = some c then s.dropLast else s

/-- A text without any slash at its end. -/
def dropSlashes (s : List Char) : List Char := (s.reverse.dropWhile (· == '/')).reverse

/-- The endpoint of a path: without one question mark at its end, and then without slashes there. -/
def ofPath (path : String) : String := .ofList (dropSlashes (dropOne '?' path.toList))

/-- The endpoints of composed routes and bare URLs, each once, in ascending order. The root has an
    empty endpoint, which is left out. -/
def inventory (routes : List Route) (urls : List UrlMention) : List String :=
  sortedUnique (((routes.map (·.path) ++ urls.map (·.url)).map ofPath).filter (· ≠ ""))

end Endpoint
end RouteInventory
