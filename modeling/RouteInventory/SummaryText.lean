import RouteInventory.Inventory
import RouteInventory.Json

/-!
The summary that is shown when the reports are written, for people or for programs.
-/

namespace RouteInventory

/-- How the summary is shown. -/
inductive SummaryFormat where
  | json | human
  deriving DecidableEq, Repr

/-- The totals as JSON fields. -/
def Summary.fields (s : Summary) : List (String × Json) :=
  [("folder_name", .text s.folderName), ("files_scanned", .number s.filesScanned),
   ("endpoints", .number s.endpoints),
   ("body_parameter_mappings", .number s.bodyParameterMappings),
   ("query_parameter_mappings", .number s.queryParameterMappings),
   ("path_parameter_mappings", .number s.pathParameterMappings),
   ("headers", .number s.headers), ("env_vars", .number s.envVars),
   ("other_urls", .number s.otherUrls), ("failed_files", .number s.failedFiles)]

/-- The summary with the directory of the reports. -/
def Summary.format (s : Summary) (reportDir : String) : SummaryFormat → String
  | .json => (Json.object (("report_dir", .text reportDir) :: s.fields)).pretty
  | .human =>
    s!"✓ Scanned {s.folderName} ({s.filesScanned} files)\nReports written to: {reportDir}\n\n" ++
      s.toText

end RouteInventory
