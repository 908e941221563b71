import RouteInventory.Disk.Resolve

/-!
Making directories and writing files. An operation that fails leaves the disk as it was, except that
`makeDirs` keeps the directories it had made before it failed.
-/

namespace RouteInventory.Disk

/-- The pieces of a path without the empty ones at its end. -/
def trimmedPieces (path : String) : List String :=
  ((FilePath.pieces path).reverse.dropWhile (· = "")).reverse

/-- Makes one directory. -/
def makeDir (d : Disk) (cwd : Place) (path : String) : Except OsError Disk := do
  checkPath path
  let ps := trimmedPieces path
  match ps.getLast? with
  | none => .error .alreadyExists
  | some last =>
    let (parent, _) ← d.follow linkLimit (startOf (d.spotOf cwd) path) ps.dropLast
    if (d.nodeAt parent).entry ≠ .dir then .error .notDirectory
    else if last = "." ∨ last = ".." then .error .alreadyExists
    else if nameLimit < Text.octetCount last.toList then .error .nameTooLong
    else if ((d.nodeAt parent).children.lookup last).isSome then .error .alreadyExists
    else .ok (d.put (parent.place ++ [last]) .dir)

/-- Makes a directory that may be there already; the first path is the directory, the others are its
    ancestors, and each is made if the one before it lacks a parent. -/
def ensureDir (cwd : Place) : List String → Disk → Except OsError Unit × Disk
  | [], d => (.ok (), d)
  | path :: parents, d =>
    if path = "" ∨ d.isDir cwd path then (.ok (), d)
    else
      match d.makeDir cwd path with
      | .ok made => (.ok (), made)
      | .error .notFound =>
        match ensureDir cwd parents d with
        | (.error e, d) => (.error e, d)
        | (.ok (), d) =>
          match d.makeDir cwd path with
          | .ok made => (.ok (), made)
          | .error e => (if d.isDir cwd path then .ok () else .error e, d)
      | .error e => (.error e, d)

/-- Makes a directory and the ones above it. -/
def makeDirs (d : Disk) (cwd : Place) (path : String) : Except OsError Unit × Disk :=
  ensureDir cwd (FilePath.ancestors path) d

/-- The place where a file is written under a path: a link at the end is followed even if it leads
    to nothing yet. A slash at the end asks for a directory, which no file can be. -/
def target (d : Disk) (links : Nat) (start : Spot) (path : String) : Except OsError Place := do
  let ps := trimmedPieces path
  match ps.getLast? with
  | none => .error .isDirectory
  | some last =>
    match _h : d.follow links start ps.dropLast with
    | .error cause => .error cause
    | .ok (parent, left) =>
      if (d.nodeAt parent).entry ≠ .dir then .error .notDirectory
      else if last = "." ∨ last = ".." ∨ path.toList.getLast? = some '/' then .error .isDirectory
      else if nameLimit < Text.octetCount last.toList then .error .nameTooLong
      else
        match (d.nodeAt parent).children.lookup last with
        | some (.dir _) => .error .isDirectory
        | some (.link path) =>
          if left = 0 then .error .tooManyLinks
          else d.target (left - 1) (startOf parent path) path
        | _ => .ok (parent.place ++ [last])
termination_by links
decreasing_by
  have : left ≤ links := links_le_of_follow _h
  omega

/-- Writes a file: makes it or replaces what it held. -/
def write (d : Disk) (cwd : Place) (path : String) (octets : List UInt8) :
    Except OsError Disk := do
  checkPath path
  let place ← d.target linkLimit (startOf (d.spotOf cwd) path) path
  return d.put place (.file octets)

end RouteInventory.Disk
