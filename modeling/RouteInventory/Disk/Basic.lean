import RouteInventory.FilePath
import RouteInventory.FileView
import RouteInventory.Text.Utf8

/-!
A disk: files, directories and symbolic links in a tree whose root is a directory. A place is the
list of names on the way from the root. Some files may not be read, and some directories not be
listed; what they are can be seen all the same. `get?_put` says what is where after an entry was put.
-/

namespace RouteInventory

/-- The names on the way from the root. -/
abbrev Place := List String

namespace Disk

/-- What is at a place. -/
inductive Entry where
  | file (octets : List UInt8)
  | dir
  /-- A symbolic link to a path; a relative one starts where the link is. -/
  | link (target : String)
  deriving DecidableEq

/-- An entry with all that lies below it. -/
inductive Node where
  | file (octets : List UInt8)
  | link (target : String)
  /-- A directory and what lies in it, each name once. -/
  | dir (children : List (String × Node))

namespace Node

/-- The entry itself. -/
def entry : Node → Entry
  | file octets => .file octets
  | link target => .link target
  | dir _ => .dir

/-- What lies directly in an entry; nothing does in one that is no directory. -/
def children : Node → List (String × Node)
  | dir children => children
  | _ => []

/-- An entry with nothing below it. -/
def ofEntry : Entry → Node
  | .file octets => file octets
  | .link target => link target
  | .dir => dir []

/-- What is at a place below. -/
def get? : Place → Node → Option Node
  | [], node => some node
  | name :: rest, node => (node.children.lookup name).bind (get? rest)

/-- Replaces what is there under a name, or adds it. -/
def set (name : String) (node : Node) (children : List (String × Node)) : List (String × Node) :=
  if (children.lookup name).isSome then
    children.map fun (n, old) => if n = name then (n, node) else (n, old)
  else children ++ [(name, node)]

/-- Puts an entry at a place below. What is on the way and is no directory becomes one; a directory
    that is put where one is already changes nothing. -/
def put (e : Entry) : Place → Node → Node
  | [], node => if e = .dir then dir node.children else ofEntry e
  | name :: rest, node =>
    dir (set name (put e rest ((node.children.lookup name).getD (dir []))) node.children)

/-- The entry and all entries below it, those above before those below. -/
def entries (place : Place) : Node → List (Place × Entry)
  | file octets => [(place, .file octets)]
  | link target => [(place, .link target)]
  | dir children =>
    (place, .dir) :: children.attach.flatMap fun ⟨(name, node), _⟩ => node.entries (place ++ [name])
termination_by node => sizeOf node
decreasing_by
  rename_i h
  have := List.sizeOf_lt_of_mem h
  simp only [Prod.mk.sizeOf_spec, dir.sizeOf_spec] at this ⊢
  omega

end Node
end Disk

/-- A disk. -/
structure Disk where
  /-- What lies at the root. -/
  top : List (String × Disk.Node)
  /-- The files that cannot be read and the directories that cannot be listed, and why. -/
  faults : List (Place × OsError) := []

namespace Disk

/-- The disk with nothing but the root. -/
def empty : Disk := { top := [] }

/-- What is at a place, with all that lies below it. -/
def node? (d : Disk) (place : Place) : Option Node := (Node.dir d.top).get? place

/-- What is at a place. -/
def get? (d : Disk) (place : Place) : Option Entry := (d.node? place).map Node.entry

/-- Why what lies at a place cannot be read or listed, if it cannot. -/
def fault? (d : Disk) (place : Place) : Option OsError := d.faults.lookup place

/-- Puts an entry at a place, where it replaces what was there; directories that are missing on the
    way are made. What cannot be read stays so. -/
def put (d : Disk) (place : Place) (e : Entry) : Disk :=
  { d with top := ((Node.dir d.top).put e place).children }

/-- Whether a place holds a directory. -/
def isDirAt (d : Disk) (place : Place) : Bool := d.get? place == some .dir

/-- The names in a directory, in ascending order. -/
def names (d : Disk) (dir : Place) : List String :=
  match d.node? dir with
  | some node => (node.children.map (·.1)).mergeSort fun a b => decide (a ≤ b)
  | none => []

/-- All entries but the root, those above before those below. -/
def entries (d : Disk) : List (Place × Entry) := ((Node.dir d.top).entries []).tail

/-- The regular files. -/
def files (d : Disk) : List (Place × List UInt8) :=
  d.entries.filterMap fun
    | (place, .file octets) => some (place, octets)
    | _ => none

/-! ### What is where after an entry was put -/

/-- A look-up after what is under one name was replaced. -/
theorem lookup_replace (name other : String) (node : Node) : ∀ children : List (String × Node),
    (children.map fun (n, old) => if n = name then (n, node) else (n, old)).lookup other =
      if other = name then (children.lookup name).map fun _ => node else children.lookup other
  | [] => by simp
  | (n, old) :: rest => by
    have ih := lookup_replace name other node rest
    by_cases hn : n = name
    · subst hn
      by_cases ho : other = n
      · subst ho
        simp only [List.map_cons, if_true, List.lookup_cons, beq_self_eq_true, Option.map_some]
      · rw [if_neg ho] at ih ⊢
        simp only [List.map_cons, if_true, List.lookup_cons, beq_eq_false_iff_ne.2 ho, ih]
    · simp only [List.map_cons, if_neg hn, List.lookup_cons, beq_eq_false_iff_ne.2 (Ne.symm hn), ih]
      by_cases hon : other = n
      · simp only [beq_iff_eq.2 hon, if_neg fun ho : other = name => hn (hon ▸ ho)]
      · simp only [beq_eq_false_iff_ne.2 hon]

theorem lookup_set (name other : String) (node : Node) (children : List (String × Node)) :
    (Node.set name node children).lookup other =
      if other = name then some node else children.lookup other := by
  unfold Node.set
  split
  · next hsome =>
    rw [lookup_replace]
    split
    · obtain ⟨old, hold⟩ := Option.isSome_iff_exists.1 hsome
      rw [hold, Option.map_some]
    · rfl
  · next hnone =>
    rw [List.lookup_append]
    by_cases ho : other = name
    · subst ho
      rw [Option.not_isSome_iff_eq_none.1 hnone]
      simp
    · rw [if_neg ho, List.lookup_cons, beq_eq_false_iff_ne.2 ho, List.lookup_nil, Option.or_none]

namespace Node

theorem entry_dir (children : List (String × Node)) : (dir children).entry = .dir := rfl

theorem children_dir (children : List (String × Node)) : (dir children).children = children := rfl

theorem entry_ofEntry (e : Entry) : (ofEntry e).entry = e := by cases e <;> rfl

theorem children_ofEntry (e : Entry) : (ofEntry e).children = [] := by cases e <;> rfl

theorem children_eq_nil {node : Node} (h : node.entry ≠ .dir) : node.children = [] := by
  cases node <;> simp_all [entry, children]

theorem get?_of_children_eq_nil {node : Node} (h : node.children = []) (name : String)
    (rest : Place) : node.get? (name :: rest) = none := by
  simp [get?, h]

theorem put_nil (e : Entry) {node : Node} (h : node.children = []) : node.put e [] = ofEntry e := by
  unfold put
  split
  · next he => rw [h, he]; rfl
  · rfl

/-- Putting an entry into a directory, in a place where no directory is. -/
theorem get?_put (e : Entry) (name : String) : ∀ (way : Place) (node : Node) {parent : Node},
    node.get? way = some parent → parent.entry = .dir →
    (parent.children.lookup name).map entry ≠ some .dir → ∀ other : Place,
    ((node.put e (way ++ [name])).get? other).map entry =
      if other = way ++ [name] then some e else (node.get? other).map entry
  | [], node, parent, hget, hdir, hfree, other => by
    obtain rfl : node = parent := by simpa [get?] using hget
    have hold : ((node.children.lookup name).getD (dir [])).children = [] := by
      cases hl : node.children.lookup name with
      | none => rfl
      | some old =>
        rw [hl] at hfree
        exact children_eq_nil fun h => hfree (by simpa using h)
    simp only [List.nil_append]
    rw [put, put_nil e hold]
    cases other with
    | nil => simp [get?, entry_dir, hdir]
    | cons n rest =>
      simp only [get?, children_dir, lookup_set]
      by_cases hn : n = name
      · subst hn
        cases rest with
        | nil => simp [get?, entry_ofEntry]
        | cons m rest =>
          have : (node.children.lookup n).bind (get? (m :: rest)) = none := by
            cases hl : node.children.lookup n with
            | none => rfl
            | some old =>
              rw [hl] at hold
              exact get?_of_children_eq_nil hold m rest
          rw [if_pos rfl, Option.bind_some, get?_of_children_eq_nil (children_ofEntry e), this,
            if_neg (by simp)]
      · simp [hn]
  | a :: way, node, parent, hget, hdir, hfree, other => by
    cases hl : node.children.lookup a with
    | none => simp [get?, hl] at hget
    | some child =>
      have hchild : child.get? way = some parent := by simpa [get?, hl] using hget
      have ih := get?_put e name way child hchild hdir hfree
      have hnode : node.entry = .dir := by
        cases node <;> simp_all [children, entry]
      cases other with
      | nil => simp [put, get?, entry_dir, hnode]
      | cons n rest =>
        simp only [List.cons_append, put, get?, children_dir, lookup_set, hl, Option.getD_some]
        by_cases hn : n = a
        · subst hn
          simp [ih rest, hl]
        · simp [hn]

end Node

/-- Putting an entry into a directory changes nothing at any other place, as long as it takes the
    place of no directory. -/
theorem get?_put (d : Disk) {dir : Place} (name : String) (hdir : d.isDirAt dir = true)
    (hfree : d.isDirAt (dir ++ [name]) = false) (other : Place) (e : Entry) :
    (d.put (dir ++ [name]) e).get? other =
      if other = dir ++ [name] then some e else d.get? other := by
  have hput : Node.dir (d.put (dir ++ [name]) e).top = (Node.dir d.top).put e (dir ++ [name]) := by
    cases dir <;> rfl
  have happend : ∀ (dir : Place) (node : Node),
      node.get? (dir ++ [name]) = (node.get? dir).bind fun p => p.children.lookup name := by
    intro dir
    induction dir with
    | nil => intro node; cases h : node.children.lookup name <;> simp [Node.get?, h]
    | cons a dir ih =>
      intro node
      simp only [List.cons_append, Node.get?]
      cases node.children.lookup a with
      | none => rfl
      | some child => exact ih child
  simp only [isDirAt, get?, beq_iff_eq, beq_eq_false_iff_ne, node?] at hdir hfree ⊢
  obtain ⟨parent, hparent, hentry⟩ := Option.map_eq_some_iff.1 hdir
  rw [hput]
  refine Node.get?_put e name dir _ hparent hentry ?_ other
  rwa [happend, hparent] at hfree

end Disk
end RouteInventory
