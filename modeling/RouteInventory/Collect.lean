import RouteInventory.Walk

/-!
Finding the source files of a folder: the walk's entries that are files, whose names end in one of
the wanted extensions, and that are not tests unless tests are wanted.
-/

namespace RouteInventory

/-- Which files of a folder are sources. -/
structure Selection where
  /-- Endings of file names. -/
  extensions : List String := [".js", ".ts"]
  includeTests : Bool := false
  /-- Directories that are not entered, as globs for their names. -/
  excludeDirs : List String := []
  /-- Whether hidden entries and rule files count. -/
  respectGitignore : Bool := false

/-- Why nothing could be collected. -/
inductive CollectError where
  | notFound (root : String)
  | notDirectory (root : String)
  | invalidExclude (pattern reason : String)
  deriving DecidableEq, Repr

/-- The error in words. -/
def CollectError.message : CollectError → String
  | notFound root => "Directory not found: " ++ root
  | notDirectory root => "Path is not a directory: " ++ root
  | invalidExclude pattern reason => s!"Invalid exclude pattern '{pattern}': {reason}"

namespace Selection

/-- Whether a name ends in a text. -/
def endsIn (name ending : String) : Bool := ending.toList.isSuffixOf name.toList

/-- Whether a file name has one of the extensions. -/
def isSource (sel : Selection) (name : String) : Bool := sel.extensions.any (endsIn name)

/-- What stands before the extension of a test. -/
def testMarks : List String := [".spec", ".test"]

/-- Whether a file name is a test's: a mark and then one of the extensions. -/
def isTest (sel : Selection) (name : String) : Bool :=
  sel.extensions.any fun ext => testMarks.any fun mark => endsIn name (mark ++ ext)

/-- The rule that keeps a walk out of the directories of a name. -/
def exclusion (dir : String) : Except CollectError ExclusionRule :=
  let line := "!" ++ dir ++ "/"
  match ExclusionRule.ofLine false line.toList with
  | .ok (some rule) => .ok rule
  | .ok none => .ok ⟨true, true, []⟩
  | .error e => .error (.invalidExclude dir s!"error parsing glob '{line}': {e.message}")

/-- The rules for all excluded directories, or the first fault; one that only shows when the rules
    are put together is a fault of the whole list. -/
def exclusions (sel : Selection) : Except CollectError (List ExclusionRule) :=
  match sel.excludeDirs.mapM exclusion with
  | .error e => .error e
  | .ok rules =>
    match ExclusionRule.tooDeep? rules with
    | some fault => .error (.invalidExclude (",".intercalate sel.excludeDirs) fault.message)
    | none => .ok rules

/-- Whether a path is a file with one of the extensions. -/
def isCandidate (sel : Selection) (view : FileView) (path : String) : Bool :=
  view.isFile path && (FilePath.fileName? path).any sel.isSource

/-- Whether a candidate is left out because it is a test. -/
def leavesOutTest (sel : Selection) (path : String) : Bool :=
  !sel.includeTests && (FilePath.fileName? path).any sel.isTest

end Selection

/-- What a collection yields: the files, in the order of the walk, the number of tests left out, and
    the faults met on the way. -/
structure Collected where
  files : List String
  skippedTests : Nat
  faults : List String
  deriving DecidableEq, Repr

/-- What a walk yields. -/
def Collected.ofItems (sel : Selection) (view : FileView) (items : List Walk.Item) : Collected :=
  let paths := items.filterMap fun
    | .entry path => some path
    | _ => none
  let candidates := paths.filter (sel.isCandidate view)
  { files := candidates.filter (!sel.leavesOutTest ·)
    skippedTests := (candidates.filter sel.leavesOutTest).length
    faults := items.filterMap Walk.Item.fault? }

/-- The source files below a root. The walk goes over the disk; what its entries are is asked of
    `view`. -/
def collect (sel : Selection) (d : Disk) (cwd : Place) (user : UserDirs) (view : FileView)
    (root : String) : Except CollectError Collected :=
  if !view.isThere root then .error (.notFound root)
  else if !view.isDir root then .error (.notDirectory root)
  else
    match sel.exclusions with
    | .error e => .error e
    | .ok rules => .ok (.ofItems sel view (d.walk cwd user root rules sel.respectGitignore))

end RouteInventory
