import RouteInventory.Program

/-!
The command as a program. What a run can see of the disk is looked at, the run is computed, and what
it changed is put on the disk and shown. Of files only those that a run can read are read: sources,
rule files, what the user has configured, and reports.
-/

namespace RouteInventory.Snapshot

/-- What is seen of a disk, the latest first. -/
structure Seen where
  entries : List (Place × Disk.Entry) := []
  faults : List (Place × OsError) := []

/-- What lies at a place, and why it cannot be read or listed, if it cannot. -/
abbrev Sight := Disk.Entry × Option OsError

/-- One more place that is seen. -/
def Seen.add (seen : Seen) (place : Place) (sight : Sight) : Seen where
  entries := (place, sight.1) :: seen.entries
  faults := (sight.2.map (place, ·)).toList ++ seen.faults

/-- The disk with what is seen and the directories above. -/
def Seen.disk (seen : Seen) : Disk :=
  seen.entries.foldr (fun (place, e) d => d.put place e) { Disk.empty with faults := seen.faults }

/-- The place of an absolute path without links. -/
def placeOf (path : String) : Place := (FilePath.pieces path).filter (· ≠ "")

/-- Where a path starts that is read at `origin`. -/
def startOf (origin : Place) (path : String) : Place :=
  if FilePath.isAbsolute path then [] else origin

/-- The files that give rules to a walk, and those that lead to such files. -/
def ruleFiles : List Place := [[".ignore"], [".gitignore"], [".git", "info", "exclude"]]

/-- Whether a run with this selection may read a file with this name. -/
def isNeeded (sel : Selection) (name : String) : Bool :=
  sel.isSource name || name == ".git" || ruleFiles.any (·.getLast? == some name) ||
    Report.names.contains name

/-- The system's error behind one that is met here. -/
def causeOf : IO.Error → OsError
  | .permissionDenied _ _ _ => .accessDenied
  | _ => .inputOutput

/-- What lies at a place, a link not followed; nothing if it cannot be looked at. A file's octets
    are read if they are needed. A link goes to the place that it leads to, or, if it leads nowhere,
    to a name that no file has. -/
def entryAt? (needed : Bool) (place : Place) : IO (Option Sight) := do
  let path := (← IO.currentDir) / Walk.absolute place
  try
    match (← path.symlinkMetadata).type with
    | .dir => return some (.dir, none)
    | .symlink =>
      try return some (.link (← IO.FS.realPath path).toString, none)
      catch _ => return some (.link "\x00", none)
    | .file =>
      if needed then
        try return some (.file (← IO.FS.readBinFile path).toList, none)
        catch e => return some (.file [], some (causeOf e))
      else return some (.file [], none)
    | .other => return none
  catch _ => return none

/-- The names in a directory. -/
def namesIn (dir : Place) : IO (Except OsError (List String)) := do
  let path := (← IO.currentDir) / Walk.absolute dir
  try return .ok ((← path.readDir).toList.map (·.fileName))
  catch e => return .error (causeOf e)

/-- Adds what lies at a place and below it, and where the links on the way lead. A file is needed if
    its name says so or that of a link to it. -/
def tree (sel : Selection) : Nat → Bool → Seen → Place → IO Seen
  | 0, _, seen, _ => return seen
  | depth + 1, asked, seen, place => do
    let needed := asked || isNeeded sel (place.getLast?.getD "")
    match seen.entries.lookup place with
    | some .dir | some (.link _) => return seen
    | some (.file _) => if !needed then return seen
    | none => pure ()
    match ← entryAt? needed place with
    | none => return seen
    | some (.file octets, fault?) => return seen.add place (.file octets, fault?)
    | some (.link target, _) =>
      tree sel depth needed (seen.add place (.link target, none)) (placeOf target)
    | some (.dir, _) =>
      match ← namesIn place with
      | .error cause => return seen.add place (.dir, some cause)
      | .ok names =>
        names.foldlM (fun seen name => tree sel depth false seen (place ++ [name]))
          (seen.add place (.dir, none))

/-- Adds the entries that a path goes through from a directory on, and finds the place where it
    ends. -/
def way (seen : Seen) : Place → List String → IO (Seen × Place)
  | dir, [] => return (seen, dir)
  | dir, piece :: rest => do
    if piece = "" ∨ piece = "." then way seen dir rest
    else if piece = ".." then way seen dir.dropLast rest
    else
      let place := dir ++ [piece]
      match ← entryAt? rest.isEmpty place with
      | none => return (seen, place)
      | some (.link target, _) =>
        let seen := seen.add place (.link target, none)
        match ← entryAt? rest.isEmpty (placeOf target) with
        | none => way seen (placeOf target) rest
        | some sight => way (seen.add (placeOf target) sight) (placeOf target) rest
      | some sight => way (seen.add place sight) place rest

/-- Adds what a path goes through. -/
def addPath (cwd : Place) (seen : Seen) (path : String) : IO Seen := do
  return (← way seen (startOf cwd path) (FilePath.pieces path)).1

/-- No tree is deeper: a path has no more octets than this, and so no more names. -/
def depthLimit : Nat := Disk.pathLimit

/-- Adds the files that give rules in the folders above a place. -/
def addRulesAbove (seen : Seen) (root : Place) : IO Seen :=
  (List.range root.length).foldlM (fun seen n =>
    ([".git"] :: ruleFiles).foldlM (fun seen file => return (← way seen (root.take n) file).1) seen)
    seen

/-- Adds the personal rules of the checkouts whose `.git` is a file. -/
def addCheckouts (cwd : Place) (seen : Seen) : IO Seen :=
  seen.entries.foldlM (fun seen (_, e) => do
    match Walk.checkoutDir? (.ok e) with
    | none => return seen
    | some own =>
      let seen ← addPath cwd seen (FilePath.join own "commondir")
      match Walk.sharedDir? seen.disk cwd (.ok e) with
      | none => return seen
      | some shared => addPath cwd seen (FilePath.join shared "info/exclude")) seen

/-- Adds the rules that the user has for all folders, and the files that say where they are. -/
def addUserRules (cwd : Place) (user : UserDirs) (seen : Seen) : IO Seen := do
  let seen ← user.configFiles.foldlM (addPath cwd) seen
  match user.rulesFile? seen.disk cwd with
  | none => return seen
  | some path => addPath cwd seen path

/-- What a run with these settings can see of the disk. -/
def take (cwd : Place) (user : UserDirs) (s : Settings) : IO Disk := do
  let (onWay, root) ←
    way (Seen.add {} cwd (.dir, none)) (startOf cwd s.root) (FilePath.pieces s.root)
  let below ← tree s.selection depthLimit false {} root
  let seen : Seen := ⟨below.entries ++ onWay.entries, below.faults ++ onWay.faults⟩
  let seen ←
    if s.respectGitignore then addUserRules cwd user (← addCheckouts cwd (← addRulesAbove seen root))
    else pure seen
  let dir := FilePath.join s.outputDir (folderName seen.disk cwd s.root)
  let seen ← Report.names.foldlM (fun seen name => addPath cwd seen (FilePath.join dir name)) seen
  return seen.disk

/-- Puts what a run changed on the disk. -/
def putBack (before after : Disk) : IO Unit := do
  let base ← IO.currentDir
  for (place, e) in after.entries do
    if before.get? place ≠ some e then
      match e with
      | .dir => IO.FS.createDir (base / Walk.absolute place)
      | .file octets => IO.FS.writeBinFile (base / Walk.absolute place) ⟨octets.toArray⟩
      | .link _ => pure ()

/-- The variables that a run looks at, as they are set. -/
def environment : IO Env := do
  let found ← Program.variableNames.mapM fun name => return (name, ← IO.getEnv name)
  return found.filterMap fun (name, value) => value.map (name, ·)

/-- The home directory of the account, as the system has it written down. -/
def accountHome : IO (Option String) := do
  try
    let status := (← IO.FS.lines "/proc/self/status").toList.map fun line =>
      Text.split '\t' line.toList
    let accounts := (← IO.FS.lines "/etc/passwd").toList.map fun line => Text.split ':' line.toList
    let uid? := status.findSome? fun
      | name :: uid :: _ => if name = "Uid:".toList then some uid else none
      | _ => none
    return accounts.findSome? fun
      | [_, _, uid, _, _, home, _] => if some uid = uid? then some (.ofList home) else none
      | _ => none
  catch _ => return none

/-- Runs the command: looks at the disk, computes the run, puts back what it changed and shows what
    it says. -/
def command (words : List String) : IO UInt32 := do
  let env ← environment
  let account ← accountHome
  let cwd := placeOf (← IO.currentDir).toString
  let disk ←
    match CommandLine.parse words with
    | .ok args => take cwd (.ofEnv env account) (args.settings env)
    | .error _ => pure .empty
  let outcome := Program.run ⟨disk, cwd, env, account⟩ words
  putBack disk outcome.disk
  (← IO.getStderr).putStr outcome.stderr
  IO.print outcome.stdout
  return outcome.exitCode.toUInt32

end RouteInventory.Snapshot

/-- The command. -/
def main (words : List String) : IO UInt32 := RouteInventory.Snapshot.command words
