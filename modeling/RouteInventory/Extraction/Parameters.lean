import RouteInventory.OrderedSet
import RouteInventory.Pattern.Catalog
import RouteInventory.Pattern.Matches
import RouteInventory.Text.Lines

/-!
What a file reads from requests and from its environment: header names, body and query parameters,
environment variables.
-/

namespace RouteInventory.Extraction

/-- The part of a request that parameters are read from. -/
inductive RequestPart where
  | body | query
  deriving DecidableEq, Repr

/-- The part with this name. -/
def RequestPart.ofName? (s : List Char) : Option RequestPart :=
  if s = "body".toList then some .body
  else if s = "query".toList then some .query
  else none

/-- Names without repetition, in order of first appearance. -/
def uniqueNames (names : List (List Char)) : OrderedSet String :=
  .ofList (names.map String.ofList)

/-- The names of the headers that are read. -/
def headersIn (text : Array Char) : OrderedSet String :=
  uniqueNames (Pattern.headerAccess.groupTexts 1 text)

/-- The environment variables that are read, each time they are. -/
def envVarsIn (text : Array Char) : List String :=
  (Pattern.envAccess.groupTexts 1 text).map String.ofList

/-- The names that a destructuring list binds: of each item between commas the first word, so that
    defaults and aliases are left out. -/
def destructuredNames (list : List Char) : List (List Char) :=
  (Text.split ',' list).filterMap Text.firstWord

/-- The names of the direct accesses to one part of the request. -/
def accessedNames (part : RequestPart) (text : Array Char) : List (List Char) :=
  (Pattern.parameterAccess.matchesIn text).filterMap fun m => do
    let found ← RequestPart.ofName? (← m.groupText text 1)
    if found = part then (m.groupText text 2 <|> m.groupText text 3) else none

/-- The names that destructurings of one part of the request bind. -/
def unpackedNames (part : RequestPart) (text : Array Char) : List (List Char) :=
  (Pattern.parameterDestructure.matchesIn text).flatMap fun m =>
    match m.groupText text 1, (m.groupText text 2).bind RequestPart.ofName? with
    | some list, some found => if found = part then destructuredNames list else []
    | _, _ => []

/-- The parameters read from one part of the request: direct accesses first, then destructurings. -/
def parametersIn (part : RequestPart) (text : Array Char) : OrderedSet String :=
  uniqueNames (accessedNames part text ++ unpackedNames part text)

end RouteInventory.Extraction
