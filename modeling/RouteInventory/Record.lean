/-!
The records that a scan finds: routes, URLs, and lists of names or texts grouped by file. Files are
given by their paths as written.
-/

namespace RouteInventory

/-- A path that answers one HTTP method: as declared in a file, or composed with a mount prefix. -/
structure Route where
  path : String
  method : String
  file : String
  deriving DecidableEq, Repr

/-- A quoted literal that starts with a slash. -/
structure UrlMention where
  url : String
  file : String
  deriving DecidableEq, Repr

/-- What was found in one file: parameter names, header names, comments or secrets. -/
structure FileItems where
  file : String
  items : List String
  deriving DecidableEq, Repr

/-- The `:name` segments of one declared route. -/
structure PathParameters where
  route : String
  file : String
  names : List String
  deriving DecidableEq, Repr

end RouteInventory
