import RouteInventory.UserRules

/-!
Walking a directory tree. Entries come before what lies below them and siblings in ascending order
of their names. Symbolic links are followed; one that leads to a directory on the way to it, or to
nothing, is a fault and is passed over. A directory that cannot be listed is a fault too. Excluded
directories are not entered. With the standard rules on, hidden entries are passed over, and what is
left out by the rule files of a directory, of the directories above it and of the folders above the
walk, or by the rules that the user has for all folders. A root written `-` stands for the standard
input, which is a single entry.
-/

namespace RouteInventory

/-- The rules that the files of one directory give. -/
structure DirRules where
  /-- The directory as paths inside it begin. -/
  base : String
  /-- From `.ignore`; these count before all others. -/
  general : List ExclusionRule
  /-- From `.gitignore`. -/
  versioned : List ExclusionRule
  /-- From `.git/info/exclude`; these count after all others. -/
  personal : List ExclusionRule

namespace Walk

/-- What a walk meets. -/
inductive Item where
  | entry (path : String)
  /-- A path that leads to nothing, or to a directory that cannot be listed. -/
  | broken (path : String) (cause : OsError)
  /-- A link to a directory that cannot be listed. -/
  | refused (cause : OsError)
  /-- A link back to a directory on the way to it. -/
  | loop (path ancestor : String)
  deriving DecidableEq, Repr

/-- What is wrong with an item that is no entry. -/
def Item.fault? : Item → Option String
  | entry _ => none
  | broken path cause => some s!"{path}: IO error for operation on {path}: {cause.message}"
  | refused cause => some cause.message
  | loop path ancestor => some s!"File system loop found: {path} points to an ancestor {ancestor}"

/-! ### Rules along the way -/

/-- A path without a prefix, if it begins with it. -/
def dropFront (front path : String) : String :=
  match ExclusionRule.dropFront? front.toList path.toList with
  | none => path
  | some rest => .ofList rest

/-- A path without the `./` it may begin with. -/
def dropDot (path : String) : String := dropFront "./" path

/-- Whether a path is the current directory, written as such. -/
def isHere (path : String) : Bool := FilePath.parts path == [.here]

/-- A path relative to a directory whose text it begins with. A bare name is left as it is. -/
def relativeTo (base path : String) : String :=
  let path := dropDot path
  if isHere base ∨ !path.toList.contains '/' then path
  else
    match ExclusionRule.dropFront? base.toList path.toList with
    | none => path
    | some rest => dropFront "/" (.ofList rest)

/-! ### Rule files -/

/-- What is found under a name in some directory. -/
abbrev Look := String → Except OsError Disk.Entry

/-- The first line of a file, if it has one and it is text. -/
def firstLine? : Except OsError Disk.Entry → Option (List Char)
  | .ok (.file octets) =>
    match Text.linesOf 13 (Text.splitBy (· == 10) octets) with
    | line :: _ => if Text.isText line then some (Text.decode line) else none
    | [] => none
  | _ => none

/-- The directory that a `.git` which is a file names. -/
def checkoutDir? (gitFile : Except OsError Disk.Entry) : Option String := do
  return .ofList (← ExclusionRule.dropFront? "gitdir: ".toList (← firstLine? gitFile))

/-- The directory with the personal rules of a checkout whose `.git` is a file: of the directory
    that the file names, `commondir` names the one that counts, from there on if the name begins
    with a dot. -/
def sharedDir? (d : Disk) (cwd : Place) (gitFile : Except OsError Disk.Entry) : Option String := do
  let own ← checkoutDir? gitFile
  let line ← firstLine? (d.opened cwd (FilePath.join own "commondir"))
  let shared := String.ofList line
  return if line.head? = some '.' then FilePath.join own shared else shared

/-- The rules that are not shared with others who work on the files of a directory. -/
def personalRules (d : Disk) (cwd : Place) (look : Look) : List ExclusionRule :=
  match look ".git" with
  | .ok (.file octets) =>
    match sharedDir? d cwd (.ok (.file octets)) with
    | some dir => rulesIn (d.opened cwd (FilePath.join dir "info/exclude"))
    | none => []
  | _ => rulesIn (look ".git/info/exclude")

/-- The rules of the directory that `look` looks into and whose paths begin with `base`, if there
    are any. -/
def dirRules (d : Disk) (cwd : Place) (look : Look) (base : String) : List DirRules :=
  let general := rulesIn (look ".ignore")
  let versioned := rulesIn (look ".gitignore")
  let personal := personalRules d cwd look
  if general.isEmpty && versioned.isEmpty && personal.isEmpty then []
  else [⟨dropDot base, general, versioned, personal⟩]

/-- The rules of the directory at a path. -/
def rulesAt (d : Disk) (cwd : Place) (dir : String) : List DirRules :=
  dirRules d cwd (fun name => d.opened cwd (FilePath.join dir name)) dir

/-- The absolute path of a place. -/
def absolute (place : Place) : String := "/" ++ "/".intercalate place

/-- The rules of the folders above a place, the nearest first. -/
def rulesAbove (d : Disk) (cwd place : Place) : List DirRules :=
  (List.range place.length).flatMap fun i =>
    let above := place.take (place.length - 1 - i)
    dirRules d cwd (d.opened above) (absolute above)

/-- What stays the same during a walk. -/
structure Plan where
  disk : Disk
  /-- The working directory, from which the paths of the entries lead to them. -/
  cwd : Place
  /-- Where the walk begins, as written. -/
  root : String
  rootPlace : Place
  excluded : List ExclusionRule
  /-- Whether hidden entries and rule files count. -/
  standard : Bool
  above : List DirRules
  /-- The rules that the user has for all folders. -/
  user : List ExclusionRule

/-- The path of an entry as the folders above the walk see it. -/
def Plan.absolutePath (plan : Plan) (path : String) : String :=
  let rest :=
    if isHere plan.root then path else dropFront "/" (dropFront (dropDot plan.root) path)
  FilePath.join (absolute plan.rootPlace) rest

/-- What the rule files say about an entry: the nearest directory that says something decides, for
    one kind of rule file after the other, and the rules of the user if none does. -/
def Plan.fileVerdict (plan : Plan) (inside : List DirRules) (path : String) (isDir : Bool) :
    Verdict :=
  let placed := inside.map (fun r => (r, path)) ++
    plan.above.map fun r => (r, plan.absolutePath path)
  let first (kind : DirRules → List ExclusionRule) : Verdict :=
    placed.foldl (fun v (r, path) =>
      v.orElse (ExclusionRule.verdict (kind r) (relativeTo r.base path) isDir)) .silent
  let ofUser := ExclusionRule.verdict plan.user (relativeTo (absolute plan.cwd) path) isDir
  (first (·.general)).orElse
    ((first (·.versioned)).orElse ((first (·.personal)).orElse ofUser))

/-- Whether a name is hidden: it starts with a dot. -/
def isHidden (name : String) : Bool := name.toList.head? == some '.'

/-- Whether an entry is passed over. Exclusions count before everything else, and a hidden entry is
    passed over unless a rule keeps it. -/
def Plan.skips (plan : Plan) (inside : List DirRules) (path name : String) (isDir : Bool) : Bool :=
  let path := dropDot path
  let byName :=
    (ExclusionRule.verdict plan.excluded (relativeTo (dropDot plan.root) path) isDir).invert
  let byFile := if plan.standard then plan.fileVerdict inside path isDir else .silent
  match byName.orElse byFile with
  | .leaveOut => true
  | .keep => false
  | .silent => plan.standard && isHidden name

/-! ### The walk -/

/-- The place that an entry's path leads to, the entry itself lying at `place`. -/
def Plan.settle (plan : Plan) (place : Place) (path : String) : Except OsError Place :=
  match plan.disk.get? place with
  | some (.link _) => plan.disk.locate plan.cwd path
  | _ => .ok place

/-- The directory on the way that lies at a place. -/
def ancestorAt (way : List (Place × String)) (place : Place) : Option String :=
  (way.find? fun (p, _) => p == place).map (·.2)

/-- Whether the entry at a place is a link. -/
def isLink (d : Disk) (place : Place) : Bool :=
  match d.get? place with
  | some (.link _) => true
  | _ => false

/-- What is wrong with an entry that leads to a directory, if it is a link: that the directory
    cannot be listed or is on the way to the link. -/
def Plan.linkFault? (plan : Plan) (way : List (Place × String)) (here real : Place)
    (path : String) : Option Item :=
  if isLink plan.disk here then
    match plan.disk.fault? real with
    | some cause => some (.refused cause)
    | none => (ancestorAt way real).map (.loop path)
  else none

/-- What lies below a directory. `way` holds the directories from here up to the root of the walk,
    `inside` their rules; `depth` bounds how deep the walk goes. -/
def below (plan : Plan) : Nat → String → List (Place × String) → List DirRules → List Item
  | 0, _, _, _ => []
  | depth + 1, dir, way, inside =>
    match plan.disk.openAt plan.cwd dir with
    | .error cause => [.broken dir cause]
    | .ok place =>
      (plan.disk.names place).flatMap fun name =>
        let here := place ++ [name]
        let path := FilePath.join dir name
        match plan.settle here path with
        | .error cause => [.broken path cause]
        | .ok real =>
          if plan.disk.isDirAt real then
            match plan.linkFault? way here real path with
            | some fault => [fault]
            | none =>
              if plan.skips inside path name true then []
              else
                let rules := if plan.standard then rulesAt plan.disk plan.cwd path else []
                .entry path :: below plan depth path ((real, path) :: way) (rules ++ inside)
          else if plan.skips inside path name false then []
          else [.entry path]

/-- No path without a loop is longer: between two links it goes through distinct directories, and
    no two links lead to the same one. -/
def depthBound (d : Disk) : Nat := (d.entries.length + 2) * (d.entries.length + 2)

/-- Whether a root stands for the standard input. -/
def isInput (root : String) : Bool := FilePath.parts root == [.name "-"]

end Walk

/-- The walk from a root on. -/
def Disk.plan (d : Disk) (cwd : Place) (user : UserDirs) (root : String) (place : Place)
    (excluded : List ExclusionRule) (standard : Bool) : Walk.Plan where
  disk := d
  cwd := cwd
  root := root
  rootPlace := place
  excluded := excluded
  standard := standard
  above := if standard then Walk.rulesAbove d cwd place else []
  user := if standard then user.rules d cwd else []

/-- Everything that a walk meets from a root on. -/
def Disk.walk (d : Disk) (cwd : Place) (user : UserDirs) (root : String)
    (excluded : List ExclusionRule) (standard : Bool) : List Walk.Item :=
  if Walk.isInput root then [.entry "<stdin>"]
  else
    match d.locate cwd root with
    | .error cause => [.broken root cause]
    | .ok place =>
      if d.isDirAt place then
        match if d.endsInLink cwd root then d.fault? place else none with
        | some cause => [.refused cause]
        | none =>
          let rules := if standard then Walk.rulesAt d cwd root else []
          .entry root :: Walk.below (d.plan cwd user root place excluded standard)
            (Walk.depthBound d) root [(place, root)] rules
      else [.entry root]

end RouteInventory
