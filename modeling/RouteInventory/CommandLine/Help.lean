/-!
The help texts and the version of the command.
-/

namespace RouteInventory.CommandLine

/-- The command's name. -/
def commandName : String := "routescan"

/-- The command's version. -/
def versionNumber : String := "0.1.0"

/-- What is shown for the version. -/
def versionText : String := commandName ++ " " ++ versionNumber ++ "\n"

/-- How the command is called. -/
def usageLine : String := "Usage: routescan [OPTIONS] <DIRECTORY>"

/-- The lines of the short help. -/
def shortHelp : List String :=
  ["Inventory HTTP routes, parameters, headers and env vars in a source tree",
   "",
   usageLine,
   "",
   "Arguments:",
   "  <DIRECTORY>  Root directory to scan",
   "",
   "Options:",
   "  -o, --output-dir <DIR>   Report root directory [default: data, env: " ++
      "ROUTESCAN_OUTPUT_DIR]",
   "      --include-tests      Also scan *.spec.* and *.test.* files",
   "  -e, --ext <EXT>          File extension to scan, repeatable [default: .js .ts, " ++
      "env: ROUTESCAN_EXTENSIONS]",
   "  -x, --exclude <DIR>      Directory name to skip, repeatable",
   "      --gitignore          Honor .gitignore files and skip hidden entries",
   "      --query-tag <TAG>    Value prefix in the synthetic query string [default: " ++
      "TAG, env: ROUTESCAN_QUERY_TAG]",
   "  -f, --format <FORMAT>    Summary output format [default: human] [possible values: " ++
      "json, human]",
   "      --log-level <LEVEL>  Set logging level",
   "  -v, --verbose            Debug logging",
   "  -q, --quiet              Quiet mode - suppress non-error output",
   "  -h, --help               Print help (see more with '--help')",
   "  -V, --version            Print version"]

/-- The lines of the long help. -/
def longHelp : List String :=
  ["routescan walks a directory of JavaScript/TypeScript sources and matches route " ++
      "declarations, mount prefixes, request parameter reads, header reads, environment " ++
      "variable reads and comments with plain text patterns. Results are written as JSON, " ++
      "text and CSV reports under <output-dir>/<folder name>/.",
   "",
   "Examples:",
   "  routescan ./backend",
   "  routescan ./backend --include-tests",
   "  routescan ./backend -o reports -x node_modules -x dist",
   "  routescan ./backend --ext .mjs --ext .cjs --format json",
   "",
   usageLine,
   "",
   "Arguments:",
   "  <DIRECTORY>",
   "          Root directory to scan",
   "",
   "Options:",
   "  -o, --output-dir <DIR>",
   "          Report root directory [default: data, env: ROUTESCAN_OUTPUT_DIR]",
   "",
   "      --include-tests",
   "          Also scan *.spec.* and *.test.* files",
   "",
   "  -e, --ext <EXT>",
   "          File extension to scan, repeatable [default: .js .ts, env: ROUTESCAN_EXTENSIONS]",
   "",
   "  -x, --exclude <DIR>",
   "          Directory name to skip, repeatable",
   "",
   "      --gitignore",
   "          Honor .gitignore files and skip hidden entries",
   "",
   "      --query-tag <TAG>",
   "          Value prefix in the synthetic query string [default: TAG, env: " ++
      "ROUTESCAN_QUERY_TAG]",
   "",
   "  -f, --format <FORMAT>",
   "          Summary output format",
   "          ",
   "          [default: human]",
   "          [possible values: json, human]",
   "",
   "      --log-level <LEVEL>",
   "          Set logging level",
   "",
   "  -v, --verbose",
   "          Debug logging",
   "",
   "  -q, --quiet",
   "          Quiet mode - suppress non-error output",
   "",
   "  -h, --help",
   "          Print help (see a summary with '-h')",
   "",
   "  -V, --version",
   "          Print version"]

/-- The help text in its long or its short form. -/
def helpText (long : Bool) : String :=
  String.join ((if long then longHelp else shortHelp).map (· ++ "\n"))

end RouteInventory.CommandLine
