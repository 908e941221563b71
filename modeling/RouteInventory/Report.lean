import RouteInventory.Csv
import RouteInventory.Disk.Write
import RouteInventory.Inventory
import RouteInventory.Json

/-!
The reports about a folder: twelve files in a directory of the folder's name. Each holds one part of
the inventory, as JSON, as lines, or as a table. Files that are there already are replaced.
-/

namespace RouteInventory

namespace Report

/-! ### Parts of the inventory as JSON -/

/-- A route. -/
def ofRoute (r : Route) : Json :=
  .object [("route", .text r.path), ("method", .text r.method), ("file", .text r.file)]

/-- A bare URL. -/
def ofUrl (u : UrlMention) : Json := .object [("url", .text u.url), ("file", .text u.file)]

/-- The items of a file, under the name that says what they are. -/
def ofItems (kind : String) (f : FileItems) : Json :=
  .object [("file", .text f.file), (kind, .texts f.items)]

/-- The `:name` segments of a route. -/
def ofPathParameters (p : PathParameters) : Json :=
  .object [("route", .text p.route), ("file", .text p.file), ("parameters", .texts p.names)]

/-- An array with one element for each member of a list. -/
def arrayOf {α : Type} (f : α → Json) (xs : List α) : String := (Json.array (xs.map f)).pretty

/-- One line for each string; the last one is not ended. -/
def linesOf (xs : List String) : String := "\n".intercalate xs

/-- The reports, in the order in which they are written: file names and contents. -/
def files (inv : Inventory) : List (String × String) :=
  [("routes.json", arrayOf ofRoute inv.combinations),
   ("endpoints.txt", linesOf inv.endpoints),
   ("body_parameters.json", arrayOf (ofItems "parameters") inv.bodyParameters),
   ("query_parameters.json", arrayOf (ofItems "parameters") inv.queryParameters),
   ("path_parameters.json", arrayOf ofPathParameters inv.pathParameters),
   ("headers.json", arrayOf (ofItems "headers") inv.headers),
   ("headers.txt", linesOf inv.headerNames),
   ("other_urls.json", arrayOf ofUrl inv.otherUrls),
   ("query_string.txt", inv.queryString),
   ("environment_variables.txt", linesOf inv.envVars),
   ("hardcoded_secrets.json", arrayOf (ofItems "secrets") inv.secrets),
   ("comments.csv", Csv.comments inv.comments)]

/-- The names of the reports. -/
def names : List String :=
  ["routes.json", "endpoints.txt", "body_parameters.json", "query_parameters.json",
   "path_parameters.json", "headers.json", "headers.txt", "other_urls.json", "query_string.txt",
   "environment_variables.txt", "hardcoded_secrets.json", "comments.csv"]

theorem map_fst_files (inv : Inventory) : (files inv).map (·.1) = names := rfl

end Report

/-- Why the reports could not all be written. -/
inductive ReportError where
  | directory (path : String) (cause : OsError)
  | file (path : String) (cause : OsError)
  deriving DecidableEq, Repr

namespace ReportError

/-- What went wrong. -/
def message : ReportError → String
  | directory path _ => "Failed to create output directory: " ++ path
  | file path _ => "Failed to write report: " ++ path

/-- The system's reason. -/
def cause : ReportError → OsError
  | directory _ cause => cause
  | file _ cause => cause

/-- What went wrong and why. -/
def chain (e : ReportError) : String := e.message ++ ": " ++ e.cause.message

end ReportError

/-- What came of writing reports: the paths written, in order, the error that ended it, and the disk
    afterwards. -/
structure ReportOutcome where
  written : List String
  error : Option ReportError
  disk : Disk

namespace Report

/-- The directory of an inventory's reports. -/
def directory (outputRoot : String) (inv : Inventory) : String :=
  FilePath.join outputRoot inv.folderName

/-- Writes files into a directory, up to the first that cannot be written. -/
def writeFiles (cwd : Place) (dir : String) : List (String × String) → Disk → ReportOutcome
  | [], d => ⟨[], none, d⟩
  | (name, content) :: rest, d =>
    let path := FilePath.join dir name
    match d.write cwd path (Text.encode content.toList) with
    | .error cause => ⟨[], some (.file path cause), d⟩
    | .ok next =>
      let after := writeFiles cwd dir rest next
      { after with written := path :: after.written }

/-- Makes the directory and writes every report. -/
def write (outputRoot : String) (inv : Inventory) (cwd : Place) (d : Disk) : ReportOutcome :=
  let dir := directory outputRoot inv
  match d.makeDirs cwd dir with
  | (.error cause, after) => ⟨[], some (.directory dir cause), after⟩
  | (.ok (), after) => writeFiles cwd dir (files inv) after

end Report
end RouteInventory
