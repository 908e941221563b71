import RouteInventory.Endpoint
import RouteInventory.Scan

/-!
The inventory of a scanned folder: what was found, the composed routes, and the views that pool
names over all files. The summary counts its parts.
-/

namespace RouteInventory

/-- Everything that is reported about one folder. -/
structure Inventory where
  folderName : String
  combinations : List Route
  endpoints : List String
  pathParameters : List PathParameters
  bodyParameters : List FileItems
  queryParameters : List FileItems
  headers : List FileItems
  /-- Every header name, each once, in ascending order. -/
  headerNames : List String
  otherUrls : List UrlMention
  queryString : String
  envVars : List String
  comments : List FileItems
  secrets : List FileItems
  filesScanned : Nat
  failedFiles : List String
  deriving DecidableEq, Repr

/-- The totals of an inventory. -/
structure Summary where
  folderName : String
  filesScanned : Nat
  endpoints : Nat
  bodyParameterMappings : Nat
  queryParameterMappings : Nat
  pathParameterMappings : Nat
  headers : Nat
  envVars : Nat
  otherUrls : Nat
  failedFiles : Nat
  deriving DecidableEq, Repr

namespace Inventory

/-- The inventory of a folder's scan; `tag` goes into the query string. -/
def ofScan (folderName : String) (found : ScanResult) (tag : String) : Inventory :=
  let combinations := compose found.routes found.basePaths
  { folderName
    combinations
    endpoints := Endpoint.inventory combinations found.otherUrls
    pathParameters := RouteInventory.pathParameters found.routes
    bodyParameters := found.bodyParameters
    queryParameters := found.queryParameters
    headers := found.headers
    headerNames := sortedUnique (found.headers.flatMap (·.items))
    otherUrls := found.otherUrls
    queryString := QueryString.render found.bodyParameters found.queryParameters tag
    envVars := found.envVars
    comments := found.comments
    secrets := found.secrets
    filesScanned := found.filesScanned
    failedFiles := found.failedFiles }

/-- The totals. -/
def summary (inv : Inventory) : Summary where
  folderName := inv.folderName
  filesScanned := inv.filesScanned
  endpoints := inv.endpoints.length
  bodyParameterMappings := inv.bodyParameters.length
  queryParameterMappings := inv.queryParameters.length
  pathParameterMappings := inv.pathParameters.length
  headers := inv.headerNames.length
  envVars := inv.envVars.length
  otherUrls := inv.otherUrls.length
  failedFiles := inv.failedFiles.length

end Inventory

/-- The totals as lines of text. -/
def Summary.toText (s : Summary) : String :=
  "\n".intercalate
    [s!"Total unique routes found: {s.endpoints}",
     s!"Total body parameter mappings: {s.bodyParameterMappings}",
     s!"Total query parameter mappings: {s.queryParameterMappings}",
     s!"Total path parameter mappings: {s.pathParameterMappings}",
     s!"Total headers found: {s.headers}",
     s!"Total environment variables found: {s.envVars}",
     s!"Total other URLs found: {s.otherUrls}",
     s!"Files that could not be read: {s.failedFiles}"]

end RouteInventory
