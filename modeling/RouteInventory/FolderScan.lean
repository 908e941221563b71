import RouteInventory.Inventory
import RouteInventory.Settings

/-!
Scanning a folder on a disk: the settings are checked, the source files collected, read and
searched, and the inventory is made under the folder's name.
-/

namespace RouteInventory

/-- Why a folder cannot be scanned. -/
inductive ScanError where
  | settings (cause : SettingsError)
  | collect (cause : CollectError)
  deriving DecidableEq, Repr

/-- The error in words. -/
def ScanError.message : ScanError → String
  | settings cause => cause.message
  | collect cause => cause.message

/-- The name of a folder: the last name of its place, links resolved, or else of the path as
    written; `root` if there is none. -/
def folderName (d : Disk) (cwd : Place) (root : String) : String :=
  let name :=
    match d.canonical cwd root with
    | .ok place => place.getLast?
    | .error _ => FilePath.fileName? root
  name.getD "root"

/-- A scanned folder: what was collected, what was found in it, and the inventory of that. -/
structure FolderScan where
  collected : Collected
  found : ScanResult
  inventory : Inventory

/-- Scans the folder of the settings. -/
def scanFolder (rules : Extraction.SecretRules) (d : Disk) (cwd : Place) (user : UserDirs)
    (s : Settings) : Except ScanError FolderScan :=
  match s.check with
  | .error e => .error (.settings e)
  | .ok () =>
    match collect s.selection d cwd user (d.view cwd) s.root with
    | .error e => .error (.collect e)
    | .ok collected =>
      let found := scan rules (d.read cwd) collected.files
      .ok ⟨collected, found, .ofScan (folderName d cwd s.root) found s.queryTag⟩

end RouteInventory
