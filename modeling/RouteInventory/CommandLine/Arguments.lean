import RouteInventory.SummaryText
import RouteInventory.Settings

/-!
The arguments of the command, and the settings they stand for. An argument that is given counts
before the environment; excluded directories and the rule files are set by arguments alone.
-/

namespace RouteInventory.CommandLine

/-- What the command was called with. -/
structure Arguments where
  directory : String
  outputDir : Option String := none
  includeTests : Bool := false
  extensions : List String := []
  exclude : List String := []
  gitignore : Bool := false
  queryTag : Option String := none
  format : SummaryFormat := .human
  logLevel : Option String := none
  verbose : Bool := false
  quiet : Bool := false
  deriving DecidableEq, Repr

namespace Arguments

/-- The settings that the arguments give in an environment. -/
def settings (args : Arguments) (env : Env) : Settings :=
  let base := Settings.forRoot env args.directory
  { root := base.root
    outputDir := args.outputDir.getD base.outputDir
    includeTests := args.includeTests || base.includeTests
    extensions :=
      if args.extensions.isEmpty then base.extensions
      else (base.withExtensions args.extensions).extensions
    excludeDirs := args.exclude
    respectGitignore := args.gitignore
    queryTag := args.queryTag.getD base.queryTag
    logLevel := (args.logLevel.map Text.lower).getD base.logLevel }

/-- The level of the log: a level that is asked for by name counts first, then `verbose`, then
    `quiet`, then the settings. -/
def level (args : Arguments) (s : Settings) : LogLevel :=
  if args.logLevel.isNone && args.verbose then .debug
  else if args.logLevel.isNone && args.quiet then .error
  else .ofName s.logLevel

/-- A text, or its absence, as the log shows it. -/
def showOption : Option String → String
  | none => "None"
  | some s => "Some(" ++ Text.quoted s ++ ")"

/-- A list of texts as the log shows it. -/
def showList (xs : List String) : String := "[" ++ ", ".intercalate (xs.map Text.quoted) ++ "]"

/-- All arguments as the log shows them. -/
def describe (args : Arguments) : String :=
  let fields :=
    [("directory", Text.quoted args.directory), ("output_dir", showOption args.outputDir),
     ("include_tests", toString args.includeTests), ("extensions", showList args.extensions),
     ("exclude", showList args.exclude), ("gitignore", toString args.gitignore),
     ("query_tag", showOption args.queryTag),
     ("format", match args.format with | .json => "Json" | .human => "Human"),
     ("log_level", showOption args.logLevel), ("verbose", toString args.verbose),
     ("quiet", toString args.quiet)]
  "CliArgs \x7b " ++ ", ".intercalate (fields.map fun (name, value) => name ++ ": " ++ value) ++
    " \x7d"

end Arguments
end RouteInventory.CommandLine
