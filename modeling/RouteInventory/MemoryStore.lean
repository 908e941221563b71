import RouteInventory.FilePath
import RouteInventory.FileView

/-!
Files kept in memory. A relative path is placed under `/mock`; two paths name the same thing when
their parts are the same, `..` being a part like any other. Adding a file or a directory also makes
the directories on the way to it, but never replaces what is there already except at the path
itself.
-/

namespace RouteInventory

/-- The parts of an absolute path below the root. -/
abbrev Key := List String

namespace MemoryStore

/-- What is kept at a key. -/
inductive Entry where
  | file (content : String)
  /-- A file that cannot be read. -/
  | locked
  | dir
  deriving DecidableEq, Repr

end MemoryStore

/-- What was added; of two entries with one key the first counts. -/
structure MemoryStore where
  entries : List (Key × MemoryStore.Entry)

namespace MemoryStore

/-- Nothing, not even a root. -/
def empty : MemoryStore := ⟨[]⟩

/-- The path as it is placed. -/
def placed (path : String) : String := FilePath.join "/mock" path

/-- The key of a path. -/
def keyOf (path : String) : Key :=
  (FilePath.pieces (placed path)).filter fun piece => piece ≠ "" ∧ piece ≠ "."

/-- The entry at a key. -/
def get? (s : MemoryStore) (key : Key) : Option Entry := s.entries.lookup key

/-- Puts an entry at a key. -/
def put (s : MemoryStore) (key : Key) (e : Entry) : MemoryStore := ⟨(key, e) :: s.entries⟩

/-- Makes a directory where there is nothing. -/
def ensureDir (s : MemoryStore) (key : Key) : MemoryStore :=
  if (s.get? key).isSome then s else s.put key .dir

/-- Makes the directories from the root down to a key. -/
def ensureDirs (s : MemoryStore) (key : Key) : MemoryStore :=
  (List.range (key.length + 1)).foldl (fun t n => t.ensureDir (key.take n)) s

/-- Puts an entry that is no directory, below directories. -/
def putLeaf (s : MemoryStore) (key : Key) (e : Entry) : MemoryStore :=
  (if key = [] then s else s.ensureDirs key.dropLast).put key e

/-- Adds a file with a text. -/
def addFile (s : MemoryStore) (path content : String) : MemoryStore :=
  s.putLeaf (keyOf path) (.file content)

/-- Adds a file that is there but cannot be read. -/
def addLocked (s : MemoryStore) (path : String) : MemoryStore := s.putLeaf (keyOf path) .locked

/-- Adds a directory. -/
def addDir (s : MemoryStore) (path : String) : MemoryStore :=
  (s.ensureDirs (keyOf path)).put (keyOf path) .dir

/-- The text of a file. -/
def read (s : MemoryStore) (path : String) : Except ReadError String :=
  match s.get? (keyOf path) with
  | none => .error (.missing (placed path))
  | some .locked => .error (.denied (placed path))
  | some .dir => .error (.notFile (placed path))
  | some (.file content) => .ok content

/-- The store as a view of files. -/
def view (s : MemoryStore) : FileView where
  isThere path := (s.get? (keyOf path)).isSome
  isDir path := s.get? (keyOf path) == some .dir
  isFile path := (s.get? (keyOf path)).any (· != .dir)
  read := s.read

theorem get?_put (s : MemoryStore) (key other : Key) (e : Entry) :
    (s.put key e).get? other = if other = key then some e else s.get? other := by
  simp only [get?, put, List.lookup_cons]
  by_cases h : other = key
  · simp [h]
  · rw [if_neg h, beq_eq_false_iff_ne.2 h]

/-- Making directories changes nothing that is there. -/
theorem get?_ensureDir (s : MemoryStore) (key other : Key) :
    (s.ensureDir key).get? other =
      if other = key ∧ s.get? key = none then some .dir else s.get? other := by
  unfold ensureDir
  cases h : s.get? key with
  | some e => simp
  | none => simp [get?_put]

end MemoryStore
end RouteInventory
