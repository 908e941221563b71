import RouteInventory.Proofs.Disk.Growth
import RouteInventory.Proofs.Disk.Under
import Mathlib.Data.List.Sort

/-!
Disks without links to which directories and files of a few names were added (`Extends`). A path
that ends in any other name leads to the same file on both disks, or to none on either: one that
goes on from what was there before (`Extends.sameFile_under`), and any that leads to no new file
(`Extends.sameFile_of_isFile`).
-/

namespace RouteInventory.Disk

open FilePath

variable {added : List String} {d e : Disk} {cwd : Place}

/-! ### The same file, or none -/

/-- Whether two look-ups find the same file, or none. -/
def SameFile (x y : Except OsError Entry) : Prop :=
  ∀ octets, x = .ok (.file octets) ↔ y = .ok (.file octets)

/-- What is made of a look-up is the same if nothing but a file counts. -/
theorem SameFile.congr {β : Type} {x y : Except OsError Entry} (h : SameFile x y)
    {f : Except OsError Entry → β} {other : β}
    (hother : ∀ z, (∀ octets, z ≠ .ok (.file octets)) → f z = other) : f y = f x := by
  by_cases hfile : ∃ octets, x = .ok (.file octets)
  · obtain ⟨octets, hx⟩ := hfile
    rw [hx, (h octets).1 hx]
  · have hx := not_exists.1 hfile
    rw [hother x hx, hother y fun octets hy => hx octets ((h octets).2 hy)]

theorem isFile_iff {path : String} :
    (d.view cwd).isFile path = true ↔ ∃ octets, d.entryOf cwd path = .ok (.file octets) :=
  ⟨exists_file_of_isFile, fun ⟨_, h⟩ => isFile_of_entryOf h⟩

theorem SameFile.isFile_eq {path : String}
    (h : SameFile (d.entryOf cwd path) (e.entryOf cwd path)) :
    (e.view cwd).isFile path = (d.view cwd).isFile path := by
  rw [Bool.eq_iff_iff, isFile_iff, isFile_iff]
  exact exists_congr fun octets => (h octets).symm

/-- The same file on a disk that has grown is opened as before. -/
theorem SameFile.opened {path : String} (hgrows : Grows d e)
    (h : SameFile (d.entryOf cwd path) (e.entryOf cwd path)) :
    SameFile (d.opened cwd path) (e.opened cwd path) := by
  intro octets
  constructor
  · intro hbefore
    have hnow := (h octets).1 (entryOf_of_opened hbefore)
    obtain ⟨place, hplace, -, hfault⟩ := opened_eq_ok_iff.1 hbefore
    obtain ⟨now, hlocate, hget⟩ := exists_locate_of_entryOf hnow
    obtain rfl : place = now := Except.ok.inj ((hgrows.locate hplace).symm.trans hlocate)
    exact opened_eq_ok_iff.2 ⟨place, hlocate, hget, (hgrows.fault?_eq place).trans hfault⟩
  · intro hafter
    have hbefore := (h octets).2 (entryOf_of_opened hafter)
    obtain ⟨place, hplace, hget⟩ := exists_locate_of_entryOf hbefore
    obtain ⟨now, hlocate, -, hfault⟩ := opened_eq_ok_iff.1 hafter
    obtain rfl : place = now := Except.ok.inj ((hgrows.locate hplace).symm.trans hlocate)
    exact opened_eq_ok_iff.2 ⟨place, hplace, hget, (hgrows.fault?_eq place).symm.trans hfault⟩

/-- The same file on a disk that has grown is read as before, or refused as before. -/
theorem SameFile.read_eq {path : String} (hgrows : Grows d e)
    (h : SameFile (d.entryOf cwd path) (e.entryOf cwd path))
    (hfile : (d.view cwd).isFile path = true) : e.read cwd path = d.read cwd path := by
  obtain ⟨octets, hd⟩ := exists_file_of_isFile hfile
  obtain ⟨place, hplace, hget⟩ := exists_locate_of_entryOf hd
  cases hfault : d.fault? place with
  | none =>
    have hopened := opened_eq_ok_iff.2 ⟨place, hplace, hget, hfault⟩
    rw [read, read, hopened, (h.opened hgrows octets).1 hopened]
  | some cause =>
    have hrefused := openAt_of_locate hplace
    rw [hfault] at hrefused
    simp only [read, Disk.opened, hgrows.openAt_eq hplace, hrefused, bind, Except.bind]

/-! ### Disks that were added to -/

/-- Whether a disk has grown, without links before or after, and every file that does not bear one
    of the added names is as it was. -/
structure Extends (added : List String) (d e : Disk) : Prop where
  before : d.IsTree
  after : e.IsTree
  grows : Grows d e
  same : ∀ {place : Place} {name : String}, name ∉ added → ∀ octets,
    (d.get? (place ++ [name]) = some (.file octets) ↔
      e.get? (place ++ [name]) = some (.file octets))

theorem Grows.isSome_node? (h : Grows d e) {place : Place} (hplace : (d.node? place).isSome) :
    (e.node? place).isSome := by
  obtain ⟨node, hnode⟩ := Option.isSome_iff_exists.1 hplace
  have hget : d.get? place = some node.entry := by rw [get?, hnode, Option.map_some]
  have hnow : ∃ entry, e.get? place = some entry := by
    cases node with
    | dir children => exact ⟨_, h.dir hget⟩
    | link target => exact ⟨_, h.link hget⟩
    | file octets =>
      obtain ⟨now, hnow⟩ := h.file hget
      exact ⟨_, hnow⟩
  obtain ⟨entry, hnow⟩ := hnow
  obtain ⟨now, hnow, -⟩ := Option.map_eq_some_iff.1 hnow
  rw [hnow]
  rfl

namespace Extends

theorem refl (hd : d.IsTree) : Extends added d d := ⟨hd, hd, .refl d, fun _ _ => Iff.rfl⟩

/-- Names that go on from a path lead to the same file, unless the last one is an added one. -/
theorem sameFile_under (h : Extends added d e) {dir : String} (hdir : dir ≠ "") {above : Place}
    (habove : d.locate cwd dir = .ok above) (names : List String) {name : String}
    (hnames : ∀ n ∈ names ++ [name], IsProper n) (hname : name ∉ added) :
    SameFile (d.entryOf cwd (under dir (names ++ [name])))
      (e.entryOf cwd (under dir (names ++ [name]))) := by
  intro octets
  rw [entryOf_under_iff h.before hdir habove hnames,
    entryOf_under_iff h.after hdir (h.grows.locate habove) hnames, ← List.append_assoc,
    h.same hname]

/-- So do names from the working directory on. -/
theorem sameFile_relative (h : Extends added d e) {path : String}
    (hrelative : isAbsolute path = false) (names : List String) {name : String}
    (hpieces : pieces path = names ++ [name]) (hnames : ∀ n ∈ names ++ [name], IsProper n)
    (hname : name ∉ added) : SameFile (d.entryOf cwd path) (e.entryOf cwd path) := by
  intro octets
  rw [← hpieces] at hnames
  rw [entryOf_relative_iff h.before hrelative hnames, entryOf_relative_iff h.after hrelative hnames,
    hpieces, ← List.append_assoc, h.same hname]

/-- A path that leads to no new file leads to the same file, unless its name is an added one. -/
theorem sameFile_of_isFile (h : Extends added d e) {dir name : String} (hproper : IsProper name)
    (hname : name ∉ added)
    (hstays : (e.view cwd).isFile (join dir name) = true →
      (d.view cwd).isFile (join dir name) = true) :
    SameFile (d.entryOf cwd (join dir name)) (e.entryOf cwd (join dir name)) := by
  intro octets
  constructor
  · intro hbefore
    obtain ⟨place, hplace, hget⟩ := exists_locate_of_entryOf hbefore
    obtain ⟨above, rfl⟩ := exists_above_of_locate_join h.before hproper hplace
    exact entryOf_eq_ok_iff.2 ⟨_, h.grows.locate hplace, (h.same hname octets).1 hget⟩
  · intro hafter
    obtain ⟨place, hplace, -⟩ := exists_locate_of_isFile (hstays (isFile_of_entryOf hafter))
    obtain ⟨now, hnow, hget⟩ := exists_locate_of_entryOf hafter
    obtain rfl : place = now := Except.ok.inj ((h.grows.locate hplace).symm.trans hnow)
    obtain ⟨above, rfl⟩ := exists_above_of_locate_join h.before hproper hplace
    exact entryOf_eq_ok_iff.2 ⟨_, hplace, (h.same hname octets).2 hget⟩

/-- What was there is a directory now if it was one before. -/
theorem isDirAt_eq (h : Extends added d e) {place : Place} (hplace : (d.node? place).isSome) :
    e.isDirAt place = d.isDirAt place := by
  obtain ⟨node, hnode⟩ := Option.isSome_iff_exists.1 hplace
  have hget : d.get? place = some node.entry := by rw [get?, hnode, Option.map_some]
  rw [isDirAt, isDirAt, hget]
  cases node with
  | dir children => rw [h.grows.dir hget]; rfl
  | link target => exact absurd hget h.before.not_link
  | file octets =>
    obtain ⟨now, hnow⟩ := h.grows.file hget
    rw [hnow]
    rfl

/-- The names that were in a directory are those of its names now that were there. -/
theorem names_eq_filter (h : Extends added d e) (place : Place) :
    d.names place = (e.names place).filter fun name => (d.node? (place ++ [name])).isSome := by
  refine (h.before.pairwise_names place).eq_of_mem_iff ((h.after.pairwise_names place).filter _) ?_
  intro name
  rw [List.mem_filter, mem_names_iff, mem_names_iff]
  exact ⟨fun hname => ⟨h.grows.isSome_node? hname, hname⟩, And.right⟩

end Extends

end RouteInventory.Disk
