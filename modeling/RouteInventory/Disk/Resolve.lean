import RouteInventory.Disk.Basic

/-!
Where a path leads on a disk, links followed, and the view of files that this gives. A path is
walked piece by piece; every piece but the last has to be a directory, also when only a slash
follows it. What a path leads to can be seen, but not opened, where the disk has a fault.
-/

namespace RouteInventory.Disk

/-- A name may take this many octets. -/
def nameLimit : Nat := 255

/-- A path may take this many octets. -/
def pathLimit : Nat := 4095

/-- So many links may be met on the way. -/
def linkLimit : Nat := 40

/-- Where a path has led so far: the entries on the way from the root, the last one first, each with
    its name and with what lies below it. -/
abbrev Spot := List (String × Node)

/-- The place of a spot. -/
def Spot.place (spot : Spot) : Place := (spot.map (·.1)).reverse

/-- The entry at a spot. -/
def nodeAt (d : Disk) : Spot → Node
  | [] => .dir d.top
  | (_, node) :: _ => node

/-- The spot of a place; what is not there counts as an empty file. -/
def spotOf (d : Disk) (place : Place) : Spot :=
  place.foldl
    (fun spot name => (name, ((d.nodeAt spot).children.lookup name).getD (.file [])) :: spot) []

/-- Where a path starts that is read at a spot. -/
def startOf (spot : Spot) (path : String) : Spot := if FilePath.isAbsolute path then [] else spot

/-- The spot that the pieces of a path lead to, and how many links may still be followed after that,
    if it may be `links` at first. -/
def follow (d : Disk) (links : Nat) (spot : Spot) (todo : List String) :
    Except OsError (Spot × Nat) :=
  match todo with
  | [] => .ok (spot, links)
  | piece :: rest =>
    if (d.nodeAt spot).entry ≠ .dir then .error .notDirectory
    else if piece = "" ∨ piece = "." then d.follow links spot rest
    else if piece = ".." then d.follow links spot.tail rest
    else if nameLimit < Text.octetCount piece.toList then .error .nameTooLong
    else
      match (d.nodeAt spot).children.lookup piece with
      | none => .error .notFound
      | some (.link target) =>
        match links with
        | 0 => .error .tooManyLinks
        | left + 1 => d.follow left (startOf spot target) (FilePath.pieces target ++ rest)
      | some node => d.follow links ((piece, node) :: spot) rest
termination_by (links, todo.length)

/-- Following links uses them up. -/
theorem links_le_of_follow {d : Disk} {links : Nat} {spot : Spot} {todo : List String}
    {found : Spot × Nat} (h : d.follow links spot todo = .ok found) : found.2 ≤ links := by
  fun_induction follow d links spot todo <;> grind

/-- Refuses what can be no path. -/
def checkText (path : String) : Except OsError Unit :=
  if path.toList.contains '\x00' then .error .nulInPath
  else if path = "" then .error .notFound
  else .ok ()

/-- Refuses what the system takes for no path. -/
def checkPath (path : String) : Except OsError Unit := do
  checkText path
  if pathLimit < Text.octetCount path.toList then throw .nameTooLong

/-- The place that a path leads to from a working directory, found name by name, so that the path
    may be of any length. -/
def canonical (d : Disk) (cwd : Place) (path : String) : Except OsError Place := do
  checkText path
  let (spot, _) ← d.follow linkLimit (startOf (d.spotOf cwd) path) (FilePath.pieces path)
  return spot.place

/-- The place that a path leads to from a working directory. -/
def locate (d : Disk) (cwd : Place) (path : String) : Except OsError Place := do
  checkPath path
  d.canonical cwd path

/-- What a path leads to. -/
def entryOf (d : Disk) (cwd : Place) (path : String) : Except OsError Entry := do
  let place ← d.locate cwd path
  match d.get? place with
  | none => .error .notFound
  | some e => .ok e

/-- The place that a path leads to, if what lies there can be read or listed. -/
def openAt (d : Disk) (cwd : Place) (path : String) : Except OsError Place := do
  let place ← d.locate cwd path
  match d.fault? place with
  | some cause => .error cause
  | none => .ok place

/-- What a path leads to, if it can be read or listed. -/
def opened (d : Disk) (cwd : Place) (path : String) : Except OsError Entry := do
  let place ← d.openAt cwd path
  match d.get? place with
  | none => .error .notFound
  | some e => .ok e

/-- Whether the last name of a path is that of a link. -/
def endsInLink (d : Disk) (cwd : Place) (path : String) : Bool :=
  let ps := FilePath.pieces path
  match d.follow linkLimit (startOf (d.spotOf cwd) path) ps.dropLast with
  | .error _ => false
  | .ok (parent, _) =>
    match (d.nodeAt parent).children.lookup (ps.getLastD "") with
    | some (.link _) => true
    | _ => false

/-- The text of a file. -/
def read (d : Disk) (cwd : Place) (path : String) : Except ReadError String :=
  match d.opened cwd path with
  | .ok (.file octets) => .ok (.ofList (Text.decode octets))
  | .ok _ => .error (.refused path .isDirectory)
  | .error cause => .error (.refused path cause)

/-- Whether a path leads to a directory. -/
def isDir (d : Disk) (cwd : Place) (path : String) : Bool :=
  match d.entryOf cwd path with
  | .ok .dir => true
  | _ => false

/-- The disk, from a working directory, as a view of files. -/
def view (d : Disk) (cwd : Place) : FileView where
  isThere path := (d.entryOf cwd path).toBool
  isDir := d.isDir cwd
  isFile path :=
    match d.entryOf cwd path with
    | .ok (.file _) => true
    | _ => false
  read := d.read cwd

end RouteInventory.Disk
