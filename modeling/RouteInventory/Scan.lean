import RouteInventory.Extraction
import RouteInventory.Parameters
import RouteInventory.SortedSet

/-!
Scanning files: each is read once and everything is extracted from its text. Mount prefixes and
environment variables are pooled over all files, the rest stays grouped by file. A file that cannot
be read is listed and otherwise left out.
-/

namespace RouteInventory

/-- What a scan found, before composition. -/
structure ScanResult where
  routes : List Route := []
  basePaths : List String := []
  otherUrls : List UrlMention := []
  bodyParameters : List FileItems := []
  queryParameters : List FileItems := []
  headers : List FileItems := []
  /-- Each name once, in ascending order. -/
  envVars : List String := []
  comments : List FileItems := []
  secrets : List FileItems := []
  filesScanned : Nat := 0
  failedFiles : List String := []
  deriving DecidableEq, Repr

/-- The result with what was found in one more file. A category without items gives no entry, and
    the environment variables are gathered apart. -/
def ScanResult.accumulate (r : ScanResult) (file : String) (found : FileExtraction) : ScanResult :=
  { r with
    routes := r.routes ++ found.routes
    basePaths := r.basePaths ++ found.basePaths
    otherUrls := r.otherUrls ++ found.otherUrls
    bodyParameters := r.bodyParameters ++ (FileItems.ofList? file found.bodyParams.items).toList
    queryParameters := r.queryParameters ++ (FileItems.ofList? file found.queryParams.items).toList
    headers := r.headers ++ (FileItems.ofList? file found.headers.items).toList
    comments := r.comments ++ (FileItems.ofList? file found.comments).toList
    secrets := r.secrets ++ (FileItems.ofList? file found.secrets.items).toList }

/-- A scan under way: the result so far, and the environment variables that will be part of it. -/
structure ScanState where
  result : ScanResult := {}
  envVars : SortedSet := .empty

namespace ScanState

/-- One file further, given how files are read. -/
def step {ε : Type} (rules : Extraction.SecretRules) (read : String → Except ε String)
    (s : ScanState) (file : String) : ScanState :=
  match read file with
  | .error _ => { s with result := { s.result with failedFiles := s.result.failedFiles ++ [file] } }
  | .ok content =>
    let found := extract rules file content
    let result := s.result.accumulate file found
    { result := { result with filesScanned := result.filesScanned + 1 }
      envVars := s.envVars.insertAll found.envVars }

/-- The result when no file is left. -/
def finish (s : ScanState) : ScanResult := { s.result with envVars := s.envVars.items }

end ScanState

/-- The result for a list of files, in order. -/
def scan {ε : Type} (rules : Extraction.SecretRules) (read : String → Except ε String)
    (files : List String) : ScanResult :=
  (files.foldl (ScanState.step rules read) {}).finish

end RouteInventory
