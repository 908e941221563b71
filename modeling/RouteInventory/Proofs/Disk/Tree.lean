import RouteInventory.Disk.Basic
import RouteInventory.Proofs.FilePath.Parts
import RouteInventory.SortedSet
import Mathlib.Data.List.Nodup

/-!
Disks without links. In every directory the names differ and can be names (`Node.IsTree`), so a
place has one entry and the names of a directory ascend strictly. A disk has at least as many
entries as any place has names (`length_le_of_node?`).
-/

namespace RouteInventory.Disk

/-- Files and directories, the names in a directory being proper and different from each other. -/
inductive Node.IsTree : Node → Prop
  | file (octets : List UInt8) : IsTree (.file octets)
  | dir {children : List (String × Node)} : (children.map (·.1)).Nodup →
      (∀ child ∈ children, FilePath.IsProper child.1) → (∀ child ∈ children, child.2.IsTree) →
      IsTree (.dir children)

/-- A disk that holds files and directories only. -/
def IsTree (d : Disk) : Prop := (Node.dir d.top).IsTree

theorem Entry.dir_ne_link (target : String) : Entry.dir ≠ .link target := by
  intro h
  cases h

theorem Entry.file_ne_link (octets : List UInt8) (target : String) :
    Entry.file octets ≠ .link target := by
  intro h
  cases h

namespace Node

theorem get?_append (a b : Place) (node : Node) :
    node.get? (a ++ b) = (node.get? a).bind (get? b) := by
  induction a generalizing node with
  | nil => simp [get?]
  | cons name a ih =>
    simp only [List.cons_append, get?]
    cases node.children.lookup name with
    | none => rfl
    | some child => exact ih child

theorem mem_of_lookup {children : List (String × Node)} {name : String} {node : Node}
    (h : children.lookup name = some node) : (name, node) ∈ children := by
  obtain ⟨a, b, rfl, -⟩ := List.lookup_eq_some_iff.1 h
  simp

/-- Only in a directory something has a name. -/
theorem entry_eq_dir_of_lookup {node child : Node} {name : String}
    (h : node.children.lookup name = some child) : node.entry = .dir := by
  by_contra hfile
  rw [children_eq_nil hfile] at h
  cases h

/-- What lies in a tree is a tree. -/
theorem IsTree.of_lookup {node child : Node} {name : String} (h : node.IsTree)
    (hchild : node.children.lookup name = some child) :
    FilePath.IsProper name ∧ child.IsTree := by
  cases h with
  | file octets => simp [children] at hchild
  | dir _ hproper htree =>
    exact ⟨hproper _ (mem_of_lookup hchild), htree _ (mem_of_lookup hchild)⟩

theorem IsTree.of_get? {node found : Node} {place : Place} (h : node.IsTree)
    (hfound : node.get? place = some found) : found.IsTree := by
  induction place generalizing node with
  | nil => exact Option.some.inj hfound ▸ h
  | cons name place ih =>
    obtain ⟨child, hchild, hrest⟩ := Option.bind_eq_some_iff.1 hfound
    exact ih (h.of_lookup hchild).2 hrest

theorem isProper_of_get? {node found : Node} {place : Place} (h : node.IsTree)
    (hfound : node.get? place = some found) : ∀ name ∈ place, FilePath.IsProper name := by
  induction place generalizing node with
  | nil => simp
  | cons name place ih =>
    obtain ⟨child, hchild, hrest⟩ := Option.bind_eq_some_iff.1 hfound
    obtain ⟨hname, htree⟩ := h.of_lookup hchild
    exact List.forall_mem_cons.2 ⟨hname, ih htree hrest⟩

/-! #### Replacing and adding -/

variable {name : String} {node : Node} {children : List (String × Node)}

theorem map_fst_set : (set name node children).map (·.1) =
    if (children.lookup name).isSome then children.map (·.1)
    else children.map (·.1) ++ [name] := by
  unfold set
  split
  · rw [List.map_map]
    refine List.map_congr_left fun child _ => ?_
    by_cases hchild : child.1 = name <;> simp [hchild]
  · simp

theorem mem_set {child : String × Node} (h : child ∈ set name node children) :
    child = (name, node) ∨ child ∈ children := by
  unfold set at h
  split at h
  · obtain ⟨old, hold, rfl⟩ := List.mem_map.1 h
    by_cases hname : old.1 = name
    · exact .inl (by simp [hname])
    · exact .inr (by simpa [hname] using hold)
  · simpa [or_comm] using h

/-- Replacing a node by itself changes nothing. -/
theorem set_eq_self (hnodup : (children.map (·.1)).Nodup)
    (h : children.lookup name = some node) : set name node children = children := by
  rw [set, if_pos (by rw [h]; rfl)]
  refine (List.map_congr_left fun child hchild => ?_).trans (List.map_id children)
  by_cases hname : child.1 = name
  · obtain rfl := List.inj_on_of_nodup_map hnodup hchild (mem_of_lookup h) hname
    simp
  · simp [hname]

/-- What lies directly in a tree. -/
theorem IsTree.of_children (h : node.IsTree) : (node.children.map (·.1)).Nodup ∧
    ∀ child ∈ node.children, FilePath.IsProper child.1 ∧ child.2.IsTree := by
  cases h with
  | file octets => simp [Node.children]
  | dir hnodup hproper htree =>
    exact ⟨hnodup, fun child hchild => ⟨hproper child hchild, htree child hchild⟩⟩

theorem IsTree.put {place : Place} (h : node.IsTree)
    (hproper : ∀ name ∈ place, FilePath.IsProper name) {e : Entry}
    (he : ∀ target, e ≠ .link target) : (node.put e place).IsTree := by
  induction place generalizing node with
  | nil =>
    cases e with
    | file octets => exact .file octets
    | link target => exact absurd rfl (he target)
    | dir =>
      obtain ⟨hnodup, hchildren⟩ := h.of_children
      exact .dir hnodup (fun c hc => (hchildren c hc).1) fun c hc => (hchildren c hc).2
  | cons name rest ih =>
    obtain ⟨hname, hrest⟩ := List.forall_mem_cons.1 hproper
    obtain ⟨hnodup, hchildren⟩ := h.of_children
    have hold : ((node.children.lookup name).getD (.dir [])).IsTree := by
      cases hlookup : node.children.lookup name with
      | none => exact .dir .nil (by simp) (by simp)
      | some child => exact (h.of_lookup hlookup).2
    have hnew := ih hold hrest
    rw [Node.put]
    refine .dir ?_ ?_ ?_
    · rw [map_fst_set]
      split
      · exact hnodup
      · next hnone =>
        refine List.nodup_append.2 ⟨hnodup, List.nodup_singleton name, ?_⟩
        rintro n hn _ hmem rfl
        obtain rfl := List.mem_singleton.1 hmem
        exact hnone (List.lookup_isSome_iff.2 (by simpa using hn))
    · intro child hchild
      rcases mem_set hchild with rfl | hchild
      · exact hname
      · exact (hchildren child hchild).1
    · intro child hchild
      rcases mem_set hchild with rfl | hchild
      · exact hnew
      · exact (hchildren child hchild).2

theorem put_eq_self {place : Place} {octets : List UInt8} (h : node.IsTree)
    (hfile : (node.get? place).map entry = some (.file octets)) :
    node.put (.file octets) place = node := by
  induction place generalizing node with
  | nil => cases h <;> simp_all [Node.get?, Node.put, entry, ofEntry]
  | cons name rest ih =>
    obtain ⟨found, hfound, hentry⟩ := Option.map_eq_some_iff.1 hfile
    obtain ⟨child, hchild, hrest⟩ := Option.bind_eq_some_iff.1 hfound
    have ih := ih (h.of_lookup hchild).2 (by rw [hrest, Option.map_some, hentry])
    rw [Node.put, hchild, Option.getD_some, ih, set_eq_self h.of_children.1 hchild]
    cases h with
    | file octets => cases hchild
    | dir _ _ _ => rfl

/-- There are more entries than names on the way to any of them. -/
theorem length_lt_of_get? {node found : Node} {place : Place} (h : node.get? place = some found)
    (start : Place) : place.length < (node.entries start).length := by
  induction place generalizing node start with
  | nil => cases node <;> simp [entries]
  | cons name place ih =>
    obtain ⟨child, hchild, hrest⟩ := Option.bind_eq_some_iff.1 h
    cases node with
    | file octets => simp [children] at hchild
    | link target => simp [children] at hchild
    | dir all =>
      rw [entries, List.length_cons, List.length_cons]
      refine Nat.succ_lt_succ (Nat.lt_of_lt_of_le (ih hrest (start ++ [name])) ?_)
      refine (List.sublist_flatten_of_mem (List.mem_map.2 ?_)).length_le
      exact ⟨⟨(name, child), mem_of_lookup hchild⟩, List.mem_attach _ _, rfl⟩

end Node

variable {d : Disk} {place : Place}

theorem node?_concat (d : Disk) (place : Place) (name : String) :
    d.node? (place ++ [name]) = (d.node? place).bind fun node => node.children.lookup name := by
  rw [node?, Node.get?_append, ← node?]
  congr 1
  funext node
  cases h : node.children.lookup name <;> simp [Node.get?, h]

/-- No entry is deeper than there are entries. -/
theorem length_le_of_node? {node : Node} (h : d.node? place = some node) :
    place.length ≤ d.entries.length := by
  have := Node.length_lt_of_get? h []
  rw [entries, List.length_tail]
  omega

theorem mem_names_iff {name : String} :
    name ∈ d.names place ↔ (d.node? (place ++ [name])).isSome := by
  rw [names, node?_concat]
  cases d.node? place with
  | none => simp
  | some node => simp [List.lookup_isSome_iff]

namespace IsTree

/-- The names in a directory ascend strictly. -/
theorem pairwise_names (h : d.IsTree) (place : Place) : (d.names place).Pairwise (· < ·) := by
  rw [names]
  cases hnode : d.node? place with
  | none => exact .nil
  | some node =>
    have hnodup : (node.children.map (·.1)).Nodup := by
      cases Node.IsTree.of_get? h hnode with
      | file octets => exact .nil
      | dir hnodup _ _ => exact hnodup
    have hdistinct := (List.mergeSort_perm _ fun a b => decide (a ≤ b)).nodup_iff.2 hnodup
    refine (pairwise_mergeSort_le _).imp₂ (fun a b hle hne => ?_) hdistinct
    exact String.not_le.1 fun hge => hne (String.le_antisymm hle hge)

theorem isProper_of_mem_names (h : d.IsTree) {name : String} (hname : name ∈ d.names place) :
    FilePath.IsProper name := by
  obtain ⟨child, hchild⟩ := Option.isSome_iff_exists.1 (mem_names_iff.1 hname)
  rw [node?_concat] at hchild
  obtain ⟨node, hnode, hlookup⟩ := Option.bind_eq_some_iff.1 hchild
  exact ((Node.IsTree.of_get? h hnode).of_lookup hlookup).1

/-- There are no links. -/
theorem not_link (h : d.IsTree) {target : String} : d.get? place ≠ some (.link target) := by
  intro hlink
  obtain ⟨node, hnode, hentry⟩ := Option.map_eq_some_iff.1 hlink
  cases Node.IsTree.of_get? h hnode <;> cases hentry

/-- The names on the way to an entry are proper. -/
theorem isProper_of_node? (h : d.IsTree) {node : Node} (hnode : d.node? place = some node) :
    ∀ name ∈ place, FilePath.IsProper name :=
  Node.isProper_of_get? h hnode

end IsTree

/-! ### Putting entries into a tree -/

theorem put_eq (d : Disk) {place : Place} (hplace : place ≠ []) (e : Entry) :
    Node.dir (d.put place e).top = (Node.dir d.top).put e place := by
  cases place with
  | nil => exact absurd rfl hplace
  | cons name rest => rfl

/-- Any file or directory can be put under proper names. -/
theorem IsTree.put (h : d.IsTree) (hplace : place ≠ [])
    (hproper : ∀ name ∈ place, FilePath.IsProper name) {e : Entry}
    (he : ∀ target, e ≠ .link target) : (d.put place e).IsTree := by
  rw [IsTree, put_eq d hplace]
  exact Node.IsTree.put h hproper he

/-- A file that is put where it is already changes nothing. -/
theorem IsTree.put_eq_self (h : d.IsTree) {octets : List UInt8}
    (hfile : d.get? place = some (.file octets)) : d.put place (.file octets) = d := by
  have hplace : place ≠ [] := by
    rintro rfl
    cases hfile
  have hput := put_eq d hplace (.file octets)
  rw [Node.put_eq_self h hfile] at hput
  exact congrArg (Disk.mk · d.faults) (Node.dir.inj hput)

end RouteInventory.Disk
