import RouteInventory.Disk.Resolve
import RouteInventory.ExclusionRule
import RouteInventory.LogLevel

/-!
The rules that a user has for all folders. They are in the file that a configuration file names in
the home directory or else one in the directory for configuration, and in `git/ignore` there if
neither names one.
-/

namespace RouteInventory

/-- The rules of a file; one that cannot be opened has none. -/
def Walk.rulesIn : Except OsError Disk.Entry → List ExclusionRule
  | .ok (.file octets) => ExclusionRule.ofFile octets
  | _ => []

/-- Where a user's own files are. -/
structure UserDirs where
  home : Option String
  /-- The directory for configuration. -/
  config : Option String
  deriving DecidableEq, Repr

namespace UserDirs

/-- The directories in an environment. Without a variable for it the home directory is that of the
    account. -/
def ofEnv (env : Env) (account : Option String) : UserDirs :=
  let home := (env.lookup "HOME").or account
  let config := (env.lookup "XDG_CONFIG_HOME").filter (· ≠ "")
  { home, config := config.or (home.map (FilePath.join · ".config")) }

/-! ### Configuration files -/

/-- Whether an octet is a blank; newlines are blanks too. -/
def isSpace (o : UInt8) : Bool := (9 ≤ o && o ≤ 13) || o == 32

/-- What is left of some octets when blanks are dropped from their front. -/
def dropSpace (octets : List UInt8) : List UInt8 := octets.dropWhile isSpace

/-- An octet, a capital as a small letter. -/
def lowered (o : UInt8) : UInt8 := if 65 ≤ o && o ≤ 90 then o + 32 else o

/-- What follows a word in small letters at the front of some octets, in any case. -/
def afterWord? (word octets : List UInt8) : Option (List UInt8) :=
  if (octets.take word.length).map lowered = word then some (octets.drop word.length) else none

/-- Whether a line ends behind blanks at the front. -/
def isBlankToEnd (octets : List UInt8) : Bool :=
  (dropSpace octets).isEmpty || (octets.takeWhile isSpace).contains 10

/-- Whether a line ends behind blanks at the front, and a quotation mark and more blanks if there
    is one. -/
def isQuoteToEnd (octets : List UInt8) : Bool :=
  isBlankToEnd octets ||
    match dropSpace octets with
    | 34 :: rest => isBlankToEnd rest
    | _ => false

/-- The shortest beginning without blanks behind which a line ends. -/
def wordToEnd? : List UInt8 → Option (List UInt8)
  | [] => none
  | o :: rest =>
    if isSpace o then none
    else if isQuoteToEnd rest then some [o]
    else (wordToEnd? rest).map (o :: ·)

/-- A value, which may stand in quotation marks. -/
def value? (octets : List UInt8) : Option (List UInt8) :=
  match dropSpace octets with
  | 34 :: rest => (wordToEnd? (dropSpace rest)).or (wordToEnd? (34 :: rest))
  | rest => wordToEnd? rest

/-- The value that a line sets for the file with the rules, if the line begins here and sets it. -/
def settingHere? (octets : List UInt8) : Option (List UInt8) := do
  let rest ← afterWord? (Text.encode "excludesfile".toList) (dropSpace octets)
  match dropSpace rest with
  | 61 :: rest => value? rest
  | _ => none

/-- The first value that a line behind a newline sets. -/
def settingBelow? : List UInt8 → Option (List UInt8)
  | [] => none
  | o :: rest => (if o = 10 then settingHere? rest else none).or (settingBelow? rest)

/-- The value that a configuration file sets for the file with the rules. -/
def setting? (octets : List UInt8) : Option (List UInt8) :=
  (settingHere? octets).or (settingBelow? octets)

/-- A path in which `~` stands for the home directory. -/
def expand (dirs : UserDirs) (path : List Char) : String :=
  match dirs.home with
  | none => .ofList path
  | some home => .ofList (path.flatMap fun c => if c = '~' then home.toList else [c])

/-- The path that a configuration file names for the rules. -/
def namedBy? (dirs : UserDirs) : Except OsError Disk.Entry → Option String
  | .ok (.file octets) => do
    let path ← setting? octets
    if Text.isText path then some (dirs.expand (Text.decode path)) else none
  | _ => none

/-! ### The rules -/

/-- The configuration files, the one that counts first before the other. -/
def configFiles (dirs : UserDirs) : List String :=
  (dirs.home.map (FilePath.join · ".gitconfig")).toList ++
    (dirs.config.map (FilePath.join · "git/config")).toList

/-- The path of the file with the rules. -/
def rulesFile? (dirs : UserDirs) (d : Disk) (cwd : Place) : Option String :=
  (dirs.configFiles.findSome? fun path => dirs.namedBy? (d.opened cwd path)).or
    (dirs.config.map (FilePath.join · "git/ignore"))

/-- The rules that a user has for all folders. -/
def rules (dirs : UserDirs) (d : Disk) (cwd : Place) : List ExclusionRule :=
  match dirs.rulesFile? d cwd with
  | some path => Walk.rulesIn (d.opened cwd path)
  | none => []

end UserDirs
end RouteInventory
