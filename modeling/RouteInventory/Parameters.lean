import RouteInventory.OrderedSet
import RouteInventory.Pattern.Catalog
import RouteInventory.Pattern.Matches
import RouteInventory.Record
import RouteInventory.Text.Lines

/-!
Parameters gathered over files: the `:name` segments of declared routes, body and query parameters
by file, and a query string that sets each of them to a value of its own.
-/

namespace RouteInventory

/-- The `:name` segments of a route from left to right, repetitions kept. -/
def pathParameterNames (route : String) : List String :=
  (Pattern.pathParameter.groupTexts 1 route.toList.toArray).map String.ofList

/-- The routes that have `:name` segments, with their names. -/
def pathParameters (routes : List Route) : List PathParameters :=
  routes.filterMap fun route =>
    match pathParameterNames route.path with
    | [] => none
    | names => some ⟨route.path, route.file, names⟩

/-- The entry of a file for the items found in it; a file without any has no entry. -/
def FileItems.ofList? (file : String) (items : List String) : Option FileItems :=
  if items.isEmpty then none else some ⟨file, items⟩

namespace QueryString

/-- The names that the query string sets: body names before query names, colons removed, empty names
    left out, and each at its first place only. -/
def names (body query : List FileItems) : List String :=
  let given := (body ++ query).flatMap (·.items)
  let bare := given.map fun name => String.ofList (name.toList.filter (· ≠ ':'))
  (OrderedSet.ofList (bare.filter (· ≠ ""))).items

/-- `name=<tag><number>`. -/
def piece (tag : String) (number : Nat) (name : String) : List Char :=
  name.toList ++ '=' :: tag.toList ++ (toString number).toList

/-- The pieces of a list of names, numbered from `number`. -/
def pieces (tag : String) : Nat → List String → List (List Char)
  | _, [] => []
  | number, name :: rest => piece tag number name :: pieces tag (number + 1) rest

/-- The query string that sets every parameter to the tag and its number, counted from one. -/
def render (body query : List FileItems) (tag : String) : String :=
  .ofList (Text.join '&' (pieces tag 1 (names body query)))

end QueryString
end RouteInventory
