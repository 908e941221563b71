import RouteInventory.Text.Lines

/-!
File paths as written. A path is a list of parts: repeated slashes, a slash at the end and a `.`
that does not come first are no parts, `..` is one. Nothing here looks at a disk.
-/

namespace RouteInventory.FilePath

/-- A part of a path. -/
inductive Part where
  /-- The slash at the front. -/
  | root
  /-- A `.` at the front. -/
  | here
  | up
  | name (s : String)
  deriving DecidableEq, Repr

/-- The pieces between slashes. -/
def pieces (path : String) : List String := (Text.split '/' path.toList).map String.ofList

/-- Whether the path starts at the root. -/
def isAbsolute (path : String) : Bool := path.toList.head? == some '/'

/-- The part that a piece after the first stands for. -/
def partOf (piece : String) : Option Part :=
  if piece = "" ∨ piece = "." then none else if piece = ".." then some .up else some (.name piece)

/-- The parts of a path. -/
def parts (path : String) : List Part :=
  match pieces path with
  | [] => []
  | first :: rest =>
    let head : List Part :=
      if isAbsolute path then [.root]
      else if first = "." then [.here]
      else (partOf first).toList
    head ++ rest.filterMap partOf

/-- The name at the end of a path; a path that ends in `..`, at the root or in a lone `.` has
    none. -/
def fileName? (path : String) : Option String :=
  match (parts path).getLast? with
  | some (.name s) => some s
  | _ => none

/-- How a part is written. -/
def Part.text : Part → String
  | root => "/"
  | here => "."
  | up => ".."
  | name s => s

/-- A path followed by another; an absolute one replaces it. -/
def join (base rest : String) : String :=
  if isAbsolute rest then rest
  else if base = "" ∨ base.toList.getLast? = some '/' then base ++ rest
  else base ++ "/" ++ rest

/-- The path of a list of parts. -/
def ofParts : List Part → String
  | .root :: ps => "/" ++ "/".intercalate (ps.map Part.text)
  | ps => "/".intercalate (ps.map Part.text)

/-- The path, the path without its last part, and so on, as long as there are parts. -/
def ancestors (path : String) : List String :=
  let ps := parts path
  path :: (List.range (ps.length - 1)).map fun i => ofParts (ps.take (ps.length - 1 - i))

end RouteInventory.FilePath
