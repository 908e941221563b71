import RouteInventory.Text.Lines

/-!
URL paths: '/'-separated segments with `.` and `..`. A path is read into its meaning (absolute or
not, how far it climbs, the names below, a slash at the end), and each meaning has one written form.
`normalize` writes what it reads; `join` puts parts together and normalizes. Joining and normalizing
never look at a file system.
-/

namespace RouteInventory

/-- What a path means, with everything that cancels out removed. -/
structure UrlPath where
  /-- It starts at the root. -/
  absolute : Bool
  /-- How many levels it climbs first; an absolute path climbs none. -/
  climbs : Nat
  /-- The segments below that point, the last one first. -/
  names : List (List Char)
  /-- It is written with a slash at the end. -/
  slashed : Bool
  deriving DecidableEq

namespace UrlPath

/-- One segment further: an empty one and `.` stay, `..` takes back the last name or climbs, and
    every other segment is a name. There is nothing above the root. -/
def enter (p : UrlPath) (segment : List Char) : UrlPath :=
  if segment = [] ∨ segment = ['.'] then p
  else if segment = ['.', '.'] then
    if p.names ≠ [] then { p with names := p.names.tail }
    else if p.absolute then p
    else { p with climbs := p.climbs + 1 }
  else { p with names := segment :: p.names }

/-- The meaning of a written path. -/
def ofChars (s : List Char) : UrlPath :=
  (Text.split '/' s).foldl enter ⟨s.head? = some '/', 0, [], s.getLast? = some '/'⟩

/-- The segments of the written form. -/
def segments (p : UrlPath) : List (List Char) :=
  List.replicate p.climbs ['.', '.'] ++ p.names.reverse

/-- The written form: `.` for a relative path without segments, and a lone `/` for the root. -/
def toChars (p : UrlPath) : List Char :=
  let slash := if p.slashed then ['/'] else []
  if p.absolute then
    if p.segments = [] then ['/'] else '/' :: Text.join '/' p.segments ++ slash
  else (if p.segments = [] then ['.'] else Text.join '/' p.segments) ++ slash

/-- The written form of what a path means. -/
def normalizeChars (s : List Char) : List Char := (ofChars s).toChars

/-- `normalizeChars` on strings. -/
def normalize (path : String) : String := .ofList (normalizeChars path.toList)

/-- The parts that are not empty, with slashes between them, normalized; `.` when there are none. -/
def joinChars (parts : List (List Char)) : List Char :=
  match parts.filter (· ≠ []) with
  | [] => ['.']
  | filled => normalizeChars (Text.join '/' filled)

/-- `joinChars` on strings. -/
def join (parts : List String) : String := .ofList (joinChars (parts.map String.toList))

/-! ### Where a path leads -/

/-- One step from a place in a tree, the place being the names on the way to it: `..` goes up, and
    stays at the root. -/
def goto (place : List (List Char)) (segment : List Char) : List (List Char) :=
  if segment = [] ∨ segment = ['.'] then place
  else if segment = ['.', '.'] then place.dropLast
  else place ++ [segment]

/-- The place that a written path leads to from `origin`; an absolute path starts at the root. -/
def resolve (origin : List (List Char)) (s : List Char) : List (List Char) :=
  (Text.split '/' s).foldl goto (if s.head? = some '/' then [] else origin)

end UrlPath
end RouteInventory
