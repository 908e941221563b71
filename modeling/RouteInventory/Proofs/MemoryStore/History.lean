import RouteInventory.MemoryStore
import RouteInventory.Proofs.FilePath.Parts
import Mathlib.Data.List.Induction

/-!
What a store in memory answers, told from the operations that made it. The last operation that names
a path decides what is there; where none does, there is a directory if one names something below the
path, and nothing otherwise (`answered_run`). One operation puts its own entry and makes directories
above it where there was nothing (`get?_apply`), and the rest follows by induction on the
operations.
-/

namespace RouteInventory.MemoryStore

/-! ### Operations and what they name -/

/-- An operation on a store. -/
inductive Op where
  | addFile (path content : String)
  | addLocked (path : String)
  | addDir (path : String)
  deriving DecidableEq, Repr

namespace Op

/-- The path that is added. -/
def path : Op → String
  | addFile path _ | addLocked path | addDir path => path

/-- What is put there. -/
def entry : Op → Entry
  | addFile _ content => .file content
  | addLocked _ => .locked
  | addDir _ => .dir

/-- Whether the operation names a path: both have the same parts once they are placed. -/
def Names (op : Op) (q : String) : Prop :=
  FilePath.parts (placed op.path) = FilePath.parts (placed q)

instance (op : Op) (q : String) : Decidable (op.Names q) := inferInstanceAs (Decidable (_ = _))

/-- Whether the operation names something below a path. -/
def NamesBelow (op : Op) (q : String) : Prop :=
  FilePath.parts (placed q) <+: FilePath.parts (placed op.path) ∧ ¬ op.Names q

instance (op : Op) (q : String) : Decidable (op.NamesBelow q) := inferInstanceAs (Decidable (_ ∧ _))

/-- The key that is added. -/
def key (op : Op) : Key := keyOf op.path

end Op

/-- The store after an operation. -/
def apply (s : MemoryStore) : Op → MemoryStore
  | .addFile path content => s.addFile path content
  | .addLocked path => s.addLocked path
  | .addDir path => s.addDir path

/-- The store that a list of operations makes. -/
def run (ops : List Op) : MemoryStore := ops.foldl apply empty

/-- The last operation that names a path. -/
def latest? (ops : List Op) (q : String) : Option Op := ops.reverse.find? fun op => op.Names q

/-! ### Keys and parts -/

theorem isAbsolute_placed (path : String) : FilePath.isAbsolute (placed path) = true := by
  rw [placed, FilePath.join]
  split
  · assumption
  · have hbase : ¬ ("/mock" = "" ∨ "/mock".toList.getLast? = some '/') := by decide
    rw [if_neg hbase]
    simp [FilePath.isAbsolute]

/-- A key tells the parts of a placed path. -/
theorem parts_placed (path : String) :
    FilePath.parts (placed path) = .root :: (keyOf path).map FilePath.ofPiece :=
  FilePath.parts_of_isAbsolute (isAbsolute_placed path)

theorem names_iff {op : Op} {q : String} : op.Names q ↔ op.key = keyOf q := by
  rw [Op.Names, parts_placed, parts_placed, List.cons_inj_right,
    List.map_inj_right fun _ _ h => FilePath.ofPiece_injective h, Op.key]

theorem namesBelow_iff {op : Op} {q : String} :
    op.NamesBelow q ↔ keyOf q <+: op.key ∧ ¬ op.Names q := by
  rw [Op.NamesBelow, parts_placed, parts_placed, List.cons_prefix_cons,
    List.prefix_map_iff_of_injective FilePath.ofPiece_injective, Op.key]
  simp

/-! ### One operation -/

/-- Of the keys that directories are made at, one gets an entry only if it had none. -/
theorem get?_foldl_ensureDir (ns : List Nat) (s : MemoryStore) (key other : Key) :
    (ns.foldl (fun t n => t.ensureDir (key.take n)) s).get? other =
      if (∃ n ∈ ns, other = key.take n) ∧ s.get? other = none then some .dir else s.get? other := by
  induction ns generalizing s with
  | nil => simp
  | cons n ns ih =>
    rw [List.foldl_cons, ih, get?_ensureDir]
    by_cases hhere : other = key.take n
    · subst hhere
      cases s.get? (key.take n) <;> simp
    · simp [hhere]

/-- The directories from the root to a key are there afterwards, and nothing else is new. -/
theorem get?_ensureDirs (s : MemoryStore) (key other : Key) :
    (s.ensureDirs key).get? other =
      if other <+: key ∧ s.get? other = none then some .dir else s.get? other := by
  have htake : (∃ n ∈ List.range (key.length + 1), other = key.take n) ↔ other <+: key := by
    constructor
    · rintro ⟨n, -, rfl⟩
      exact List.take_prefix n key
    · intro h
      have := h.length_le
      exact ⟨other.length, by rw [List.mem_range]; omega, List.prefix_iff_eq_take.1 h⟩
  rw [ensureDirs, get?_foldl_ensureDir]
  simp only [htake]

/-- A prefix of a list without its last member is one of the list, but not the whole. -/
theorem prefix_dropLast_iff {α : Type} {a b : List α} (hb : b ≠ []) :
    a <+: b.dropLast ↔ a <+: b ∧ a ≠ b := by
  obtain ⟨init, last, rfl⟩ := (List.eq_nil_or_concat' b).resolve_left hb
  rw [List.dropLast_concat, List.prefix_concat_iff]
  constructor
  · intro h
    refine ⟨.inr h, fun heq => ?_⟩
    have := h.length_le
    rw [heq, List.length_append, List.length_singleton] at this
    omega
  · rintro ⟨h | h, hne⟩
    · exact absurd h hne
    · exact h

/-- An operation puts its entry at its key, and directories above it where there was nothing. -/
theorem get?_apply (s : MemoryStore) (op : Op) (other : Key) :
    (s.apply op).get? other =
      if other = op.key then some op.entry
      else if other <+: op.key ∧ s.get? other = none then some .dir
      else s.get? other := by
  have hleaf : ∀ key e, (s.putLeaf key e).get? other =
      if other = key then some e
      else if other <+: key ∧ s.get? other = none then some .dir
      else s.get? other := by
    intro key e
    rw [putLeaf, get?_put]
    by_cases hother : other = key
    · rw [if_pos hother, if_pos hother]
    rw [if_neg hother, if_neg hother]
    by_cases hroot : key = []
    · -- nothing lies above the root
      have hnone : ¬ other <+: key := fun h =>
        hother (by rw [hroot] at h ⊢; exact List.prefix_nil.1 h)
      rw [if_pos hroot, if_neg fun h => hnone h.1]
    · rw [if_neg hroot, get?_ensureDirs]
      simp only [prefix_dropLast_iff hroot, ne_eq, hother, not_false_eq_true, and_true]
  cases op with
  | addFile path content => exact hleaf _ _
  | addLocked path => exact hleaf _ _
  | addDir path => rw [apply, addDir, get?_put, get?_ensureDirs]; rfl

/-- The same about a path: what is there changes if the operation names it, or names something below
    it where nothing is. -/
theorem get?_apply_keyOf (s : MemoryStore) (op : Op) (q : String) :
    (s.apply op).get? (keyOf q) =
      if op.Names q then some op.entry
      else if op.NamesBelow q ∧ s.get? (keyOf q) = none then some .dir
      else s.get? (keyOf q) := by
  rw [get?_apply]
  by_cases hnames : op.Names q
  · rw [if_pos (names_iff.1 hnames).symm, if_pos hnames]
  · rw [if_neg fun h => hnames (names_iff.2 h.symm), if_neg hnames]
    simp only [namesBelow_iff, hnames, not_false_eq_true, and_true]

/-! ### A list of operations -/

theorem run_append (ops : List Op) (op : Op) : run (ops ++ [op]) = (run ops).apply op := by
  rw [run, List.foldl_append]
  rfl

theorem latest?_append (ops : List Op) (op : Op) (q : String) :
    latest? (ops ++ [op]) q = if op.Names q then some op else latest? ops q := by
  rw [latest?, List.reverse_append, List.reverse_singleton, List.singleton_append, List.find?_cons]
  by_cases h : op.Names q <;> simp [h, latest?]

theorem latest?_eq_none_iff {ops : List Op} {q : String} :
    latest? ops q = none ↔ ∀ op ∈ ops, ¬ op.Names q := by
  simp [latest?]

/-- What is at a path: the entry of the last operation that names it, else a directory if something
    below it is named. -/
theorem get?_run (ops : List Op) (q : String) :
    (run ops).get? (keyOf q) =
      ((latest? ops q).map Op.entry).or
        (if ∃ op ∈ ops, op.NamesBelow q then some .dir else none) := by
  induction ops using List.reverseRecOn with
  | nil => rfl
  | append_singleton ops op ih =>
    rw [run_append, get?_apply_keyOf, latest?_append, ih]
    by_cases hnames : op.Names q
    · rw [if_pos hnames, if_pos hnames]
      rfl
    rw [if_neg hnames, if_neg hnames]
    cases latest? ops q with
    | some op' => simp
    | none =>
      by_cases hbelow : op.NamesBelow q
      · by_cases hold : ∃ op ∈ ops, op.NamesBelow q <;> simp [hold, hbelow]
      · simp [hbelow]

/-! ### What is answered -/

/-- What a view answers about a path after a list of operations. -/
structure Answered (ops : List Op) (q : String) (view : FileView) : Prop where
  isFile : view.isFile q = true ↔
    (∃ path content, latest? ops q = some (.addFile path content)) ∨
      ∃ path, latest? ops q = some (.addLocked path)
  isDir : view.isDir q = true ↔
    (∃ path, latest? ops q = some (.addDir path)) ∨
      (∀ op ∈ ops, ¬ op.Names q) ∧ ∃ op ∈ ops, op.NamesBelow q
  isThere : view.isThere q = true ↔ view.isFile q = true ∨ view.isDir q = true
  read : ∀ content,
    view.read q = .ok content ↔ ∃ path, latest? ops q = some (.addFile path content)
  /-- An operation on another path changes no answer about what is there. -/
  kept : view.isThere q = true → ∀ op : Op, ¬ op.Names q →
    let after := (run (ops ++ [op])).view
    after.isThere q = view.isThere q ∧ after.isFile q = view.isFile q ∧
      after.isDir q = view.isDir q ∧ after.read q = view.read q

/-- The answers about a path depend on its entry only. -/
theorem view_congr {s t : MemoryStore} {q : String} (h : s.get? (keyOf q) = t.get? (keyOf q)) :
    s.view.isThere q = t.view.isThere q ∧ s.view.isFile q = t.view.isFile q ∧
      s.view.isDir q = t.view.isDir q ∧ s.view.read q = t.view.read q := by
  simp only [view, read, h, and_self]

/-- A path that an operation names has the entry of the last one. -/
theorem get?_run_of_latest? {ops : List Op} {q : String} {op : Op} (h : latest? ops q = some op) :
    (run ops).get? (keyOf q) = some op.entry ∧ ¬ ∀ op ∈ ops, ¬ op.Names q := by
  rw [get?_run, ← latest?_eq_none_iff, h]
  exact ⟨rfl, by simp⟩

/-- Every list of operations makes a store whose answers are those that the operations call for. -/
theorem answered_run (ops : List Op) (q : String) : Answered ops q (run ops).view := by
  have hget := get?_run ops q
  constructor
  case kept =>
    intro hthere op hother
    refine view_congr ?_
    have hsome : (run ops).get? (keyOf q) ≠ none := Option.isSome_iff_ne_none.1 hthere
    rw [run_append, get?_apply_keyOf, if_neg hother, if_neg fun h => hsome h.2]
  all_goals
    cases hlatest : latest? ops q with
    | some op =>
      obtain ⟨hentry, hnamed⟩ := get?_run_of_latest? hlatest
      cases op <;> simp [view, read, Op.entry, hentry, hnamed]
    | none =>
      have hnone := latest?_eq_none_iff.1 hlatest
      rw [hlatest, Option.map_none, Option.none_or] at hget
      by_cases hbelow : ∃ op ∈ ops, op.NamesBelow q
      · simp +contextual [view, read, hget, hbelow, hnone]
      · simp [view, read, hget, hbelow]

end RouteInventory.MemoryStore
