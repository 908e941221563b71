import RouteInventory.CommandLine.Help
import RouteInventory.Text.Similarity

/-!
What can be set on the command line, and what is said when a command line cannot be read.
-/

namespace RouteInventory.CommandLine

/-- What a value can be for. -/
inductive Slot where
  | directory | outputDir | ext | exclude | queryTag | format | logLevel
  deriving DecidableEq, Repr

/-- What needs no value. -/
inductive Flag where
  | includeTests | gitignore | verbose | quiet | help | version
  deriving DecidableEq, Repr

/-- An option or a flag. -/
inductive Name where
  | option (slot : Slot)
  | flag (f : Flag)
  deriving DecidableEq, Repr

/-- The long names, without their dashes. -/
def Name.long : List (String × Name) :=
  [("output-dir", .option .outputDir), ("include-tests", .flag .includeTests),
   ("ext", .option .ext), ("exclude", .option .exclude), ("gitignore", .flag .gitignore),
   ("query-tag", .option .queryTag), ("format", .option .format),
   ("log-level", .option .logLevel), ("verbose", .flag .verbose), ("quiet", .flag .quiet),
   ("help", .flag .help), ("version", .flag .version)]

/-- The name that a long form means; it is never shortened. -/
def Name.ofLong? (s : String) : Option Name := Name.long.lookup s

/-- The name that a letter means. -/
def Name.ofShort? (c : Char) : Option Name :=
  match c with
  | 'o' => some (.option .outputDir)
  | 'e' => some (.option .ext)
  | 'x' => some (.option .exclude)
  | 'f' => some (.option .format)
  | 'v' => some (.flag .verbose)
  | 'q' => some (.flag .quiet)
  | 'h' => some (.flag .help)
  | 'V' => some (.flag .version)
  | _ => none

/-- How a slot is shown. -/
def Slot.label : Slot → String
  | directory => "<DIRECTORY>"
  | outputDir => "--output-dir <DIR>"
  | ext => "--ext <EXT>"
  | exclude => "--exclude <DIR>"
  | queryTag => "--query-tag <TAG>"
  | format => "--format <FORMAT>"
  | logLevel => "--log-level <LEVEL>"

/-- How a flag is shown. -/
def Flag.label : Flag → String
  | includeTests => "--include-tests"
  | gitignore => "--gitignore"
  | verbose => "--verbose"
  | quiet => "--quiet"
  | help => "--help"
  | version => "--version"

/-- The values that a slot takes, if it does not take any. -/
def Slot.choices : Slot → List String
  | format => ["json", "human"]
  | _ => []

/-- What is wrong with a command line. -/
inductive UsageError where
  | missingArgument
  /-- A second directory. -/
  | extraArgument (word : String)
  /-- An option that there is not, as written up to its value. -/
  | unknownOption (word : String)
  /-- A value is missing or empty. -/
  | noValue (slot : Slot)
  | badValue (slot : Slot) (value : String)
  | verboseAndQuiet
  /-- What can be given once is given again. -/
  | repeated (label : String)
  /-- A flag is given a value. -/
  | flagValue (f : Flag) (value : String)
  deriving DecidableEq, Repr

namespace UsageError

/-- A word as it is shown. -/
def shown (word : String) : String := "'" ++ word ++ "'"

/-- A line with advice. -/
def tip (advice : String) : String := "\n  tip: " ++ advice ++ "\n"

/-- The values that a slot takes, in a line. -/
def choicesLine (slot : Slot) : String :=
  match slot.choices with
  | [] => ""
  | choices => "  [possible values: " ++ ", ".intercalate choices ++ "]\n"

/-- What is wrong, in a line, and what is said about it. -/
def body : UsageError → String
  | missingArgument =>
    "the following required arguments were not provided:\n  " ++ Slot.directory.label ++ "\n"
  | extraArgument word => "unexpected argument " ++ shown word ++ " found\n"
  | unknownOption word =>
    "unexpected argument " ++ shown word ++ " found\n" ++
      match Text.mostSimilar? (.ofList (word.toList.drop 2)) (Name.long.map (·.1)) with
      | some name => tip ("a similar argument exists: " ++ shown ("--" ++ name))
      | none => tip ("to pass " ++ shown word ++ " as a value, use " ++ shown ("-- " ++ word))
  | noValue slot =>
    "a value is required for " ++ shown slot.label ++ " but none was supplied\n" ++
      choicesLine slot
  | badValue slot value =>
    "invalid value " ++ shown value ++ " for " ++ shown slot.label ++ "\n" ++ choicesLine slot ++
      match Text.mostSimilar? value slot.choices with
      | some choice => tip ("a similar value exists: " ++ shown choice)
      | none => ""
  | verboseAndQuiet =>
    "the argument " ++ shown Flag.verbose.label ++ " cannot be used with " ++
      shown Flag.quiet.label ++ "\n"
  | repeated label => "the argument " ++ shown label ++ " cannot be used multiple times\n"
  | flagValue f value =>
    "unexpected value " ++ shown value ++ " for " ++ shown f.label ++
      " found; no more were expected\n"

/-- Whether it is the value of an option that is wrong, and not how the command is called. -/
def isAboutValue : UsageError → Bool
  | noValue _ | badValue _ _ => true
  | _ => false

/-- All that is said about an error. -/
def message (e : UsageError) : String :=
  "error: " ++ e.body ++ (if e.isAboutValue then "" else "\n" ++ usageLine ++ "\n") ++
    "\nFor more information, try '--help'.\n"

end UsageError
end RouteInventory.CommandLine
