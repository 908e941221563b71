import RouteInventory.Collect
import RouteInventory.LogLevel

/-!
The settings of one scan. They start from defaults, of which the environment can change some; single
settings are then replaced. `check` says whether the result can be used.
-/

namespace RouteInventory

/-- The settings of one scan. -/
structure Settings where
  /-- The folder to scan. -/
  root : String
  /-- Reports go to a folder of the scanned folder's name in here. -/
  outputDir : String
  includeTests : Bool
  extensions : List String
  excludeDirs : List String
  respectGitignore : Bool
  /-- Put before the numbers in the query string. -/
  queryTag : String
  logLevel : String
  deriving DecidableEq, Repr

/-- What is wrong with settings. -/
inductive SettingsError where
  | noExtensions
  | invalidExtension (ext : String)
  | invalidQueryTag (tag : String)
  | invalidLogLevel (level : String)
  | invalidExclude (dir : String)
  deriving DecidableEq, Repr

/-- The error in words. -/
def SettingsError.message : SettingsError → String
  | noExtensions => "No source extensions configured. Pass --ext or set ROUTESCAN_EXTENSIONS"
  | invalidExtension ext => s!"Invalid extension '{ext}': expected a suffix such as .js"
  | invalidQueryTag tag =>
    s!"Invalid query tag '{tag}': must be non-empty and contain no '&', '=' or whitespace"
  | invalidLogLevel level =>
    s!"Invalid log level '{level}'. Valid levels: trace, debug, info, warn, error"
  | invalidExclude dir => s!"Invalid excluded directory '{dir}'"

namespace Settings

/-- An extension without blanks around it and with a dot in front, unless nothing is left. -/
def normalizeExtension (ext : String) : String :=
  match Text.trim ext.toList with
  | [] => ""
  | '.' :: rest => .ofList ('.' :: rest)
  | bare => .ofList ('.' :: bare)

/-- The extensions of a list with commas, blank items left out. -/
def readExtensions (list : String) : List String :=
  let items := (Text.split ',' list.toList).map Text.trim
  (items.filter (· ≠ [])).map fun item => normalizeExtension (.ofList item)

/-- The settings for the current folder in an environment. -/
def ofEnv (env : Env) : Settings where
  root := "."
  outputDir := (env.lookup "ROUTESCAN_OUTPUT_DIR").getD "data"
  includeTests := ((env.lookup "ROUTESCAN_INCLUDE_TESTS").bind readBool?).getD false
  extensions :=
    match env.lookup "ROUTESCAN_EXTENSIONS" with
    | some list => readExtensions list
    | none => [".js", ".ts"]
  excludeDirs := []
  respectGitignore := false
  queryTag := (env.lookup "ROUTESCAN_QUERY_TAG").getD "TAG"
  logLevel := Text.lower ((env.lookup "ROUTESCAN_LOG_LEVEL").getD "info")

/-- The settings for a folder in an environment. -/
def forRoot (env : Env) (root : String) : Settings := { ofEnv env with root }

/-- The settings with other extensions, each normalized. -/
def withExtensions (s : Settings) (exts : List String) : Settings :=
  { s with extensions := exts.map normalizeExtension }

/-- An extension that can end a file name: a dot and more, no path separator and no blank. -/
def isUsableExtension (ext : String) : Bool :=
  let cs := ext.toList
  1 < Text.octetCount cs && cs.head? == some '.' &&
    !cs.any fun c => c == '/' || c == '\\' || Text.isBlank c

/-- A tag that can stand in a query string. -/
def isUsableTag (tag : String) : Bool :=
  tag != "" && !tag.toList.any fun c => c == '&' || c == '=' || Text.isBlank c

/-- A name that a directory can have. -/
def isUsableExclude (dir : String) : Bool :=
  Text.trim dir.toList != [] && !dir.toList.any fun c => c == '/' || c == '\\'

/-- The first thing that is wrong: with the extensions, the tag, the level or the exclusions, in
    this order. -/
def check (s : Settings) : Except SettingsError Unit :=
  if s.extensions.isEmpty then .error .noExtensions
  else
    match s.extensions.find? (!isUsableExtension ·) with
    | some ext => .error (.invalidExtension ext)
    | none =>
      if !isUsableTag s.queryTag then .error (.invalidQueryTag s.queryTag)
      else if (LogLevel.ofName? s.logLevel).isNone then .error (.invalidLogLevel s.logLevel)
      else
        match s.excludeDirs.find? (!isUsableExclude ·) with
        | some dir => .error (.invalidExclude dir)
        | none => .ok ()

/-- Which files are sources. -/
def selection (s : Settings) : Selection where
  extensions := s.extensions
  includeTests := s.includeTests
  excludeDirs := s.excludeDirs
  respectGitignore := s.respectGitignore

end Settings
end RouteInventory
