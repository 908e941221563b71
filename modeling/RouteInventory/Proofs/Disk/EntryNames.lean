import RouteInventory.Proofs.Disk.Under

/-!
Disks with links. Every entry has a name that the system accepts (`WellNamed`), so the names on the
way to any place are proper. A path that goes on by the name of an entry that is no link leads to
this entry (`canonical_join`), and that does not depend on the length of the path.
-/

namespace RouteInventory.Disk

open FilePath

/-- Whether the system accepts a text as the name of an entry. -/
structure IsEntryName (name : String) : Prop where
  proper : IsProper name
  noNul : '\x00' ∉ name.toList
  short : Text.octetCount name.toList ≤ nameLimit

instance decidableIsEntryName (name : String) : Decidable (IsEntryName name) :=
  decidable_of_iff
    (IsProper name ∧ '\x00' ∉ name.toList ∧ Text.octetCount name.toList ≤ nameLimit)
    ⟨fun ⟨proper, noNul, short⟩ => ⟨proper, noNul, short⟩,
      fun ⟨proper, noNul, short⟩ => ⟨proper, noNul, short⟩⟩

/-- Files, links and directories, with names that the system accepts. -/
inductive Node.WellNamed : Node → Prop
  | file (octets : List UInt8) : WellNamed (.file octets)
  | link (target : String) : WellNamed (.link target)
  | dir {children : List (String × Node)} : (∀ child ∈ children, IsEntryName child.1) →
      (∀ child ∈ children, child.2.WellNamed) → WellNamed (.dir children)

/-- A disk whose entries have names that the system accepts. -/
def WellNamed (d : Disk) : Prop := (Node.dir d.top).WellNamed

namespace Node.WellNamed

variable {node found : Node}

theorem of_lookup {child : Node} {name : String} (h : node.WellNamed)
    (hchild : node.children.lookup name = some child) : IsEntryName name ∧ child.WellNamed := by
  cases h with
  | file octets | link target => simp [children] at hchild
  | dir hnames hchildren =>
    exact ⟨hnames _ (mem_of_lookup hchild), hchildren _ (mem_of_lookup hchild)⟩

/-- The names on the way to an entry are accepted, and so are those below it. -/
theorem of_get? {place : Place} (h : node.WellNamed) (hfound : node.get? place = some found) :
    (∀ name ∈ place, IsEntryName name) ∧ found.WellNamed := by
  induction place generalizing node with
  | nil => exact ⟨by simp, Option.some.inj hfound ▸ h⟩
  | cons name place ih =>
    obtain ⟨child, hchild, hrest⟩ := Option.bind_eq_some_iff.1 hfound
    obtain ⟨hname, hwell⟩ := h.of_lookup hchild
    obtain ⟨hnames, hfound⟩ := ih hwell hrest
    exact ⟨List.forall_mem_cons.2 ⟨hname, hnames⟩, hfound⟩

end Node.WellNamed

variable {d : Disk} {cwd place : Place} {dir name path : String}

namespace WellNamed

theorem isEntryName_of_node? (h : d.WellNamed) (hplace : (d.node? place).isSome) :
    ∀ name ∈ place, IsEntryName name := by
  obtain ⟨node, hnode⟩ := Option.isSome_iff_exists.1 hplace
  exact (Node.WellNamed.of_get? h hnode).1

theorem isEntryName_of_mem_names (h : d.WellNamed) (hname : name ∈ d.names place) :
    IsEntryName name :=
  h.isEntryName_of_node? (mem_names_iff.1 hname) name (by simp)

end WellNamed

/-! ### Canonical paths -/

theorem checkText_eq_ok_iff : checkText path = .ok () ↔ '\x00' ∉ path.toList ∧ path ≠ "" := by
  by_cases hnul : '\x00' ∈ path.toList
  · simp [checkText, hnul]
  by_cases hempty : path = "" <;> simp [checkText, hnul, hempty]

theorem canonical_eq_ok_iff : d.canonical cwd path = .ok place ↔ checkText path = .ok () ∧ ∃ found,
    d.follow linkLimit (startOf (d.spotOf cwd) path) (pieces path) = .ok found ∧
      found.1.place = place := by
  rw [canonical]
  cases checkText path <;>
    cases d.follow linkLimit (startOf (d.spotOf cwd) path) (pieces path) <;>
    simp [bind, Except.bind, pure, Except.pure]

/-- What a canonical path names is there. -/
theorem node?_of_canonical (h : d.canonical cwd path = .ok place) : (d.node? place).isSome := by
  obtain ⟨-, found, hfollow, rfl⟩ := canonical_eq_ok_iff.1 h
  have hsound := sound_startOf (entry_eq_dir_of_follow (pieces_ne_nil path) hfollow)
  rw [(hsound.follow hfollow).node?_place]
  rfl

/-- An entry that is no link is what a path leads to that goes on by its name. -/
theorem canonical_join (hd : d.WellNamed) (hdir : d.locate cwd dir = .ok place)
    (hname : name ∈ d.names place)
    (hlink : ∀ target, d.get? (place ++ [name]) ≠ some (.link target)) :
    d.canonical cwd (join dir name) = .ok (place ++ [name]) := by
  obtain ⟨hproper, hnul, hshort⟩ := hd.isEntryName_of_mem_names hname
  obtain ⟨hfree, hne, -⟩ := checkPath_eq_ok_iff.1 (locate_eq_ok_iff.1 hdir).1
  obtain ⟨front, before, hpieces, hbefore, rfl, hsound⟩ := exists_follow_before hne hproper hdir
  obtain ⟨node, hnode⟩ := Option.isSome_iff_exists.1 (mem_names_iff.1 hname)
  have hget : d.get? (before.1.place ++ [name]) = some node.entry := by rw [get?, hnode]; rfl
  obtain ⟨found, hfound, hplace⟩ := exists_follow_of_get? before.2 hsound
    (by simpa using ⟨hproper, hshort⟩) hget fun target heq => hlink target (heq ▸ hget)
  have htext : checkText (join dir name) = .ok () := by
    obtain ⟨text, hjoin, htext⟩ := exists_toList_join hne hproper
    refine checkText_eq_ok_iff.2 ⟨?_, join_ne_empty hne hproper⟩
    rcases htext with htext | htext <;> rw [htext] at hfree <;> rw [hjoin] <;> simp_all
  refine canonical_eq_ok_iff.2 ⟨htext, (found, before.2), ?_, hplace⟩
  rw [hpieces, follow_append hbefore, hfound]

end RouteInventory.Disk
