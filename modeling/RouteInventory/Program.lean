import RouteInventory.CommandLine.Help
import RouteInventory.CommandLine.Parse
import RouteInventory.FolderScan
import RouteInventory.LogFilter
import RouteInventory.Report

/-!
The whole command: arguments are read, the settings made and checked, the folder scanned, the
reports written and the summary shown. It is a function of the disk, the working directory, the
environment, the account's home directory and the arguments; what it does is in its outcome.
-/

namespace RouteInventory

open CommandLine

/-- What the command finds when it is started. -/
structure World where
  disk : Disk
  cwd : Place
  env : Env
  /-- The home directory of the account, for an environment that names none. -/
  account : Option String := none

/-- Where the files of the user are who starts the command. -/
def World.user (w : World) : UserDirs := .ofEnv w.env w.account

/-- What the command does. -/
structure Outcome where
  exitCode : Nat
  stdout : String := ""
  /-- What is said on the error stream before the log. -/
  remarks : String := ""
  logFormat : LogFormat := {}
  log : List LogEvent := []
  /-- What is said on the error stream after the log. -/
  complaint : String := ""
  disk : Disk

/-- The error stream. -/
def Outcome.stderr (out : Outcome) : String :=
  out.remarks ++ String.join (out.log.map (·.write out.logFormat)) ++ out.complaint

namespace Program

/-- The variables of the environment that a run looks at. -/
def variableNames : List String :=
  ["ROUTESCAN_OUTPUT_DIR", "ROUTESCAN_INCLUDE_TESTS", "ROUTESCAN_EXTENSIONS", "ROUTESCAN_QUERY_TAG",
   "ROUTESCAN_LOG_LEVEL", "ROUTESCAN_LOG_JSON", "RUST_LOG", "NO_COLOR", "HOME", "XDG_CONFIG_HOME"]

/-! ### The log -/

/-- Events before the scan. -/
def startEvents (args : Arguments) : List LogEvent :=
  [⟨.debug, "routescan", s!"{commandName} v{versionNumber} starting", []⟩,
   ⟨.debug, "routescan", "Arguments: " ++ args.describe, []⟩]

/-- Events of the collection. -/
def collectEvents (s : Settings) (found : Collected) : List LogEvent :=
  found.faults.map (fun fault =>
    ⟨.warn, "routescan::collector", "Failed to read directory entry", [("error", .text fault)]⟩) ++
  [⟨.info, "routescan::collector", "Collected source files",
    [("root", .text s.root), ("files", .number found.files.length),
     ("skipped_tests", .number found.skippedTests)]⟩]

/-- The event for one file. -/
def fileEvent (read : String → Except ReadError String) (file : String) : LogEvent :=
  match read file with
  | .error e =>
    ⟨.warn, "routescan::scan", "Failed to read file, skipping: " ++ e.chain, [("path", .text file)]⟩
  | .ok content =>
    let found := extract .disabled file content
    ⟨.debug, "routescan::scan", "Scanned file",
      [("path", .text file), ("routes", .number found.routes.length),
       ("base_paths", .number found.basePaths.length),
       ("other_urls", .number found.otherUrls.length)]⟩

/-- Events of the scan. -/
def scanEvents (s : Settings) (read : String → Except ReadError String) (files : List String)
    (folder : String) (found : ScanResult) : List LogEvent :=
  [⟨.info, "routescan", "Starting scan",
    [("root", .text s.root), ("folder", .text folder), ("files", .number files.length)]⟩,
   ⟨.info, "routescan::scan", "Extracting routes and parameters",
    [("files", .number files.length)]⟩] ++
  files.map (fileEvent read) ++
  [⟨.info, "routescan::scan", "Extraction completed",
    [("files_scanned", .number found.filesScanned), ("failed", .number found.failedFiles.length),
     ("routes", .number found.routes.length), ("base_paths", .number found.basePaths.length)]⟩]

/-- Events of the reports. -/
def reportEvents (dir : String) (outcome : ReportOutcome) : List LogEvent :=
  outcome.written.map (fun path =>
    ⟨.info, "routescan::report", "Wrote report", [("path", .text path)]⟩) ++
  if outcome.error.isNone then
    [⟨.info, "routescan::report", "Reports written",
      [("dir", .text dir), ("files", .number outcome.written.length)]⟩]
  else []

/-! ### The run -/

/-- What is said about an error. -/
def errorLine (message : String) : String := "Error: " ++ message ++ "\n"

/-- Scans, writes the reports and shows the summary, with settings that have been checked. The
    events are all that there are. -/
def runScan (w : World) (args : Arguments) (s : Settings) : Outcome :=
  let start := startEvents args
  match scanFolder .disabled w.disk w.cwd w.user s with
  | .error e => { exitCode := 1, log := start, complaint := errorLine e.message, disk := w.disk }
  | .ok found =>
    let read := w.disk.read w.cwd
    let files := found.collected.files
    let reports := Report.write s.outputDir found.inventory w.cwd w.disk
    let dir := Report.directory s.outputDir found.inventory
    let log := start ++ collectEvents s found.collected ++
      scanEvents s read files found.inventory.folderName found.found ++ reportEvents dir reports
    match reports.error with
    | some e => { exitCode := 1, log, complaint := errorLine e.chain, disk := reports.disk }
    | none =>
      { exitCode := 0, stdout := found.inventory.summary.format dir args.format ++ "\n", log
        disk := reports.disk }

/-- The exit code of a run that is given up. -/
def givenUp : Nat := 101

/-- Runs with settings that have been checked, and keeps the events that the log's filter lets
    through. The run is given up if reading the filter was. -/
def runChecked (w : World) (args : Arguments) (s : Settings) : Outcome :=
  let level := args.level s
  let filter := LogFilter.ofEnv w.env level
  let remarks := String.join (filter.remarks.map (· ++ "\n"))
  if filter.givenUpAt.isSome then { exitCode := givenUp, remarks, disk := w.disk }
  else
    let out := runScan w args s
    { out with
      remarks
      logFormat := .ofEnv w.env level
      log := out.log.filter filter.allows }

/-- Runs with arguments that have been read. -/
def runArguments (w : World) (args : Arguments) : Outcome :=
  let s := args.settings w.env
  match s.check with
  | .error e => { exitCode := 1, complaint := errorLine e.message, disk := w.disk }
  | .ok () => runChecked w args s

/-- What is done when reading the arguments ends early. -/
def stopped (w : World) : Stop → Outcome
  | .help long => { exitCode := 0, stdout := helpText long, disk := w.disk }
  | .version => { exitCode := 0, stdout := versionText, disk := w.disk }
  | .usage cause => { exitCode := 2, complaint := cause.message, disk := w.disk }

/-- Runs the command with the words after its name. -/
def run (w : World) (words : List String) : Outcome :=
  match CommandLine.parse words with
  | .error stop => stopped w stop
  | .ok args => runArguments w args

end Program
end RouteInventory
